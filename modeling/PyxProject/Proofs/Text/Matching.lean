import PyxProject.Proofs.Text.TopLevel

/-!
# Brackets matched by kind

The rules of the library count brackets without regard to their kinds, or parentheses
alone. In a text without literals in which every bracket is closed by its partner
(`Matched`), all of these counts come out even: the text is closed, and it has as many
opening as closing parentheses.
-/

namespace PyxProject.Text

/-- The bracket that closes a given one. -/
def partner? : Char → Option Char
  | '(' => some ')'
  | '[' => some ']'
  | '\x7b' => some '\x7d'
  | _ => none

/-- A text without literals in which every bracket is closed by its partner. -/
inductive Matched : Text → Prop
  | nil : Matched []
  /-- A character that is no bracket and opens no literal. -/
  | plain {char : Char} {rest : Text} (noDelimiter : isDelimiter char = false)
      (noBracket : isOpening char = false ∧ isClosing char = false) (later : Matched rest) :
      Matched (char :: rest)
  /-- A group of brackets, and what follows it. -/
  | group {opening closing : Char} {inside rest : Text} (pair : partner? opening = some closing)
      (inner : Matched inside) (later : Matched rest) :
      Matched (opening :: (inside ++ closing :: rest))

/-- The three pairs of brackets. -/
theorem partner_cases {opening closing : Char} (pair : partner? opening = some closing) :
    opening = '(' ∧ closing = ')' ∨ opening = '[' ∧ closing = ']' ∨
      opening = '\x7b' ∧ closing = '\x7d' := by
  unfold partner? at pair
  split at pair <;> simp_all [eq_comm]

/-- Brackets that match among themselves do so inside other brackets, where nothing stops. With
one bracket more open the depth is never zero. -/
theorem walkWithin_succ {depth next : Nat} {marked : List Mark}
    (followed : walk depth marked = some next) (stops : Char → Bool) :
    walkWithin stops (depth + 1) marked = some (next + 1) := by
  induction marked generalizing depth with
  | nil =>
    obtain rfl : depth = next := Option.some.inj followed
    rfl
  | cons mark marked inductionHypothesis =>
    rw [walk] at followed
    split at followed
    · cases followed
    · rename_i allowed
      have deeper : mark.depthAfter (depth + 1) = mark.depthAfter depth + 1 := by
        simp only [Mark.depthAfter]
        split_ifs with opening closing
        · rfl
        · have positive : depth ≠ 0 := by
            rintro rfl
            simp [closing] at allowed
          omega
        · rfl
      rw [walkWithin, if_neg (by simp), deeper, inductionHypothesis followed]

/-- A closed text in brackets of any kinds is unbroken, since nothing in it stands outside
the brackets. -/
theorem Closed.enclose {opening closing : Char} (opens : isOpening opening) (closes : isClosing closing)
    (plain : isDelimiter opening = false ∧ isDelimiter closing = false) {inside : Text}
    (closed : Closed inside) {stops : Char → Bool} (noStop : stops opening = false) :
    Unbroken stops (opening :: (inside ++ [closing])) := by
  have next {char : Char} (plain : isDelimiter char = false) : Region.code.next char = .code := by
    simp [Region.next, plain]
  have literal {char : Char} (plain : isDelimiter char = false) (rest : Text) :
      marks (char :: rest) = ⟨char, true⟩ :: marks rest := by
    rw [marks, marksFrom, next plain]
    simp [Region.isCode, plain, marks]
  have whole {char : Char} (plain : isDelimiter char = false) (rest : Text) :
      Whole (char :: rest) ↔ Whole rest := by
    rw [Whole, regionAfter_cons, next plain]
    rfl
  have noOpening : isOpening closing = false := by
    apply Bool.eq_false_iff.mpr
    intro opening
    rw [isClosing_of_isOpening opening] at closes
    cases closes
  constructor
  · have inner := walkWithin_succ closed.brackets stops
    have last : walkWithin stops (0 + 1) (marks [closing]) = some 0 := by
      rw [literal plain.2]
      simp [walkWithin, Mark.depthAfter, marks, marksFrom, closes, noOpening]
    rw [literal plain.1, closed.literals.marks_append, walkWithin]
    simp only [Mark.depthAfter, opens, isClosing_of_isOpening opens, noStop, Bool.true_and,
      Bool.false_and, Bool.or_self, Bool.false_eq_true, if_true, if_false]
    rw [walkWithin_append, inner, Option.bind_some, last]
  · rw [whole plain.1, closed.literals.append_iff, whole plain.2]
    rfl

/-- A matched text is closed. -/
theorem Matched.closed {text : Text} (matched : Matched text) : Closed text := by
  induction matched with
  | nil => exact ⟨rfl, rfl⟩
  | @plain char rest noDelimiter noBracket later inductionHypothesis =>
    have next : Region.code.next char = .code := by simp [Region.next, noDelimiter]
    have first : Closed [char] :=
      ⟨by simp [marks, marksFrom, walk, Mark.depthAfter, noBracket], next⟩
    exact first.append inductionHypothesis
  | @group opening closing inside rest pair _ _ innerClosed laterClosed =>
    have bracket : isOpening opening ∧ isClosing closing ∧ isDelimiter opening = false ∧
        isDelimiter closing = false := by
      rcases partner_cases pair with ⟨rfl, rfl⟩ | ⟨rfl, rfl⟩ | ⟨rfl, rfl⟩ <;> decide
    have enclosed : Unbroken (fun _ => false) (opening :: (inside ++ [closing])) :=
      innerClosed.enclose bracket.1 bracket.2.1 bracket.2.2 rfl
    simpa using enclosed.closed.append laterClosed

/-- A matched text holds no literal. -/
theorem Matched.undelimited {text : Text} (matched : Matched text) :
    ∀ char ∈ text, isDelimiter char = false := by
  induction matched with
  | nil => exact List.forall_mem_nil _
  | plain noDelimiter _ _ inductionHypothesis =>
    exact List.forall_mem_cons.mpr ⟨noDelimiter, inductionHypothesis⟩
  | @group opening closing inside rest pair _ _ inner later =>
    have brackets : isDelimiter opening = false ∧ isDelimiter closing = false := by
      rcases partner_cases pair with ⟨rfl, rfl⟩ | ⟨rfl, rfl⟩ | ⟨rfl, rfl⟩ <;> decide
    simp only [List.mem_cons, List.mem_append]
    rintro char (rfl | inGroup | rfl | behind)
    · exact brackets.1
    · exact inner char inGroup
    · exact brackets.2
    · exact later char behind

/-- Matched texts put together are matched. -/
theorem Matched.append {first second : Text} (before : Matched first) (after : Matched second) :
    Matched (first ++ second) := by
  induction before with
  | nil => exact after
  | plain noDelimiter noBracket _ inductionHypothesis =>
    exact .plain noDelimiter noBracket inductionHypothesis
  | @group opening closing inside rest pair inner _ _ inductionHypothesis =>
    have parts : opening :: (inside ++ closing :: rest) ++ second =
        opening :: (inside ++ closing :: (rest ++ second)) := by simp
    rw [parts]
    exact .group pair inner inductionHypothesis

/-- Neutral characters are matched. -/
theorem matched_of_neutral {text : Text} (neutral : ∀ char ∈ text, isNeutral char) : Matched text := by
  induction text with
  | nil => exact .nil
  | cons char text inductionHypothesis =>
    obtain ⟨first, neutral⟩ := List.forall_mem_cons.mp neutral
    obtain ⟨noDelimiter, -, noBracket⟩ := isNeutral_iff.mp first
    exact .plain noDelimiter noBracket (inductionHypothesis neutral)

/-- Matched texts joined by a matched separator are matched. -/
theorem matched_join {separator : Text} (between : Matched separator) {pieces : List Text}
    (matched : ∀ piece ∈ pieces, Matched piece) : Matched (join separator pieces) :=
  holds_join Matched .nil Matched.append between matched

/-- Behind a whole text, parentheses are counted anew. -/
theorem Whole.openParentheses_append {first : Text} (whole : Whole first) (second : Text) :
    openParentheses (first ++ second) = openParentheses first + openParentheses second := by
  simp only [openParentheses_eq_total, whole.marks_append, total_append]

/-- A matched text has as many opening as closing parentheses. -/
theorem Matched.openParentheses_eq {text : Text} (matched : Matched text) :
    openParentheses text = 0 := by
  induction matched with
  | nil => rfl
  | @plain char rest noDelimiter noBracket later inductionHypothesis =>
    have whole : Whole [char] := by simp [Whole, regionAfter, Region.next, noDelimiter]
    have nothing : openParentheses [char] = 0 := by
      have other : char ≠ '(' ∧ char ≠ ')' := by
        constructor
        · rintro rfl
          simp [isOpening] at noBracket
        · rintro rfl
          simp [isClosing] at noBracket
      simp [openParentheses, marks, marksFrom, Mark.is, other]
    rw [← List.singleton_append, whole.openParentheses_append, nothing, inductionHypothesis]
    rfl
  | @group opening closing inside rest pair inner _ innerCount laterCount =>
    have bracket : Whole [opening] ∧ Whole [closing] ∧
        openParentheses [opening] + openParentheses [closing] = 0 := by
      rcases partner_cases pair with ⟨rfl, rfl⟩ | ⟨rfl, rfl⟩ | ⟨rfl, rfl⟩ <;> decide
    have parts : opening :: (inside ++ closing :: rest) = [opening] ++ (inside ++ ([closing] ++ rest)) := rfl
    rw [parts, bracket.1.openParentheses_append, inner.closed.literals.openParentheses_append,
      bracket.2.1.openParentheses_append, innerCount, laterCount]
    omega

end PyxProject.Text
