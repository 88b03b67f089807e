import Mathlib.Data.List.Forall2
import PyxProject.Proofs.Text.Spacing
import PyxProject.Text.Nesting

/-!
# Counting brackets

How many brackets a text leaves open is a sum over its marks. Blanks in code add
nothing to it, so squeezing leaves it as it is.

Texts are put together from parts, and what a part adds depends on whether it is read
in code or in a literal. Two texts read alike (`ReadsAlike`) if neither the brackets
they add nor the region they leave tells them apart, wherever they are read. Any run of
characters that mean nothing to the scanner reads like any other, so blanks may be
squeezed, even in literals, and keywords may be replaced.
-/

namespace PyxProject.Text

/-- What a mark adds to the number of open parentheses. -/
def Mark.roundWeight (mark : Mark) : Int :=
  if mark.is '(' then 1 else if mark.is ')' then -1 else 0

/-- The number of open parentheses is a sum over the marks of a text. -/
theorem openParentheses_eq_total (text : Text) :
    openParentheses text = total Mark.roundWeight (marks text) := by
  have counted (marked : List Mark) (start : Int) :
      marked.foldl (fun depth mark =>
        if mark.is '(' then depth + 1 else if mark.is ')' then depth - 1 else depth) start =
      start + total Mark.roundWeight marked := by
    induction marked generalizing start with
    | nil => exact (Int.add_zero start).symm
    | cons mark rest inductionHypothesis =>
      simp only [List.foldl_cons, total, inductionHypothesis, Mark.roundWeight]
      split_ifs
      · exact Int.add_assoc start 1 _
      · exact Int.add_assoc start (-1) _
      · rw [Int.zero_add]
  rw [openParentheses, counted, Int.zero_add]

/-- A text that leaves a parenthesis open holds one. -/
theorem mem_of_openParentheses {text : Text} (isOpen : 0 < openParentheses text) : '(' ∈ text := by
  by_contra absent
  have nonpositive (marked : List Mark) (none : ∀ mark ∈ marked, mark.char ≠ '(') :
      total Mark.roundWeight marked ≤ 0 := by
    induction marked with
    | nil => exact Int.le_refl 0
    | cons mark marked inductionHypothesis =>
      obtain ⟨other, none⟩ := List.forall_mem_cons.mp none
      have weight : mark.roundWeight ≤ 0 := by
        have noOpening : mark.is '(' = false := by simp [Mark.is, other]
        simp only [Mark.roundWeight, noOpening, Bool.false_eq_true, if_false]
        split_ifs <;> decide
      exact Int.add_nonpos weight (inductionHypothesis none)
  have none : ∀ mark ∈ marks text, mark.char ≠ '(' := by
    intro mark member same
    apply absent
    rw [← unmark_marks text, ← same]
    exact List.mem_map_of_mem member
  rw [openParentheses_eq_total] at isOpen
  exact absurd isOpen (Int.not_lt.mpr (nonpositive _ none))

/-- A blank is not any given character that is none. -/
theorem is_of_isBlank {mark : Mark} (blank : isBlank mark.char) (char : Char)
    (letter : isBlank char = false) : mark.is char = false := by
  simp [Mark.is, ne_of_isBlank blank char letter]

/-- Squeezing a tight text leaves as many parentheses open. -/
theorem openParentheses_squeeze {text : Text} (tight : Tight text) :
    openParentheses (squeeze text) = openParentheses text := by
  rw [openParentheses_eq_total, openParentheses_eq_total, marks_squeeze, trim_of_tight tight]
  apply total_squeezedMarks
  intro mark _ blank
  simp [Mark.roundWeight, is_of_isBlank blank '(' (by decide),
    is_of_isBlank blank ')' (by decide)]

/-- What a mark adds to the number of open brackets of all kinds. -/
def Mark.weight (mark : Mark) : Int :=
  if mark.code && isOpening mark.char then 1
  else if mark.code && isClosing mark.char then -1
  else 0

/-- Opening brackets minus closing brackets in the code of a text, read from a region on. -/
def openBracketsFrom (region : Region) (text : Text) : Int :=
  total Mark.weight (marksFrom region text)

/-- Opening brackets minus closing brackets in the code of a text. -/
def openBrackets (text : Text) : Int := openBracketsFrom .code text

/-- An empty text opens no bracket. -/
@[simp]
theorem openBracketsFrom_nil (region : Region) : openBracketsFrom region [] = 0 := rfl

/-- Brackets may be counted in two parts, the second from the region that the first leaves. -/
@[simp]
theorem openBracketsFrom_append (region : Region) (first second : Text) :
    openBracketsFrom region (first ++ second) =
      openBracketsFrom region first + openBracketsFrom (regionAfter region first) second := by
  rw [openBracketsFrom, marksFrom_append, total_append]
  rfl

/-- A character adds its weight, and the rest is counted from the next region. -/
theorem openBracketsFrom_cons (region : Region) (char : Char) (text : Text) :
    openBracketsFrom region (char :: text) =
      Mark.weight ⟨char, region.isCode char⟩ + openBracketsFrom (region.next char) text := by
  rw [openBracketsFrom, marksFrom, total]
  rfl

/-- Literals have delimiters. Any region that a text leaves is of this kind. -/
def Region.IsProper : Region → Prop
  | .code => True
  | .literal delimiter => isDelimiter delimiter
  | .escape delimiter => isDelimiter delimiter

/-- Code is no literal, so nothing is asked of it. -/
theorem isProper_code : Region.code.IsProper := trivial

/-- A literal is opened by a delimiter only. -/
theorem Region.IsProper.next {region : Region} (proper : region.IsProper) (char : Char) :
    (region.next char).IsProper := by
  cases region with
  | code =>
    by_cases opens : isDelimiter char
    · simp [Region.next, Region.IsProper, opens]
    · simp [Region.next, Region.IsProper, opens]
  | literal delimiter =>
    simp only [Region.next]
    split_ifs
    · exact proper
    · trivial
    · exact proper
  | escape delimiter => exact proper

/-- A text leaves only literals that have delimiters. -/
theorem Region.IsProper.after {region : Region} (proper : region.IsProper) (text : Text) :
    (regionAfter region text).IsProper := by
  induction text generalizing region with
  | nil => exact proper
  | cons char text inductionHypothesis => exact inductionHypothesis (proper.next char)

/-- Two texts add the same number of open brackets and leave the same region, wherever
they are read. -/
def ReadsAlike (first second : Text) : Prop :=
  ∀ region : Region, region.IsProper →
    regionAfter region first = regionAfter region second ∧
      openBracketsFrom region first = openBracketsFrom region second

/-- A text reads like itself. -/
theorem ReadsAlike.refl (text : Text) : ReadsAlike text text := fun _ _ => ⟨rfl, rfl⟩

/-- Texts that read like a third one read alike. -/
theorem ReadsAlike.trans {first second third : Text} (before : ReadsAlike first second)
    (after : ReadsAlike second third) : ReadsAlike first third := fun region proper =>
  ⟨(before region proper).1.trans (after region proper).1,
    (before region proper).2.trans (after region proper).2⟩

/-- Texts that are put together from parts that read alike read alike. -/
theorem ReadsAlike.append {first second third fourth : Text} (before : ReadsAlike first second)
    (after : ReadsAlike third fourth) : ReadsAlike (first ++ third) (second ++ fourth) := by
  intro region proper
  obtain ⟨regions, brackets⟩ := before region proper
  obtain ⟨laterRegions, laterBrackets⟩ := after _ (proper.after second)
  simp only [regionAfter_append, openBracketsFrom_append, regions, brackets, laterRegions,
    laterBrackets, and_self]

/-- Texts that read alike leave the same number of brackets open. -/
theorem ReadsAlike.openBrackets_eq {first second : Text} (alike : ReadsAlike first second) :
    openBrackets first = openBrackets second := (alike .code trivial).2

/-- Whether a character means nothing to the scanner and is no bracket. -/
def isNeutral (char : Char) : Bool :=
  !isDelimiter char && char != '\\' && !isOpening char && !isClosing char

/-- A neutral character is no delimiter, no backslash and no bracket. -/
theorem isNeutral_iff {char : Char} :
    isNeutral char ↔ isDelimiter char = false ∧ char ≠ '\\' ∧ isOpening char = false ∧
      isClosing char = false := by
  simp only [isNeutral, Bool.and_eq_true, Bool.not_eq_true', bne_iff_ne, and_assoc]

/-- The characters that are not neutral. -/
def signs : Text := ['\'', '"', '\\', '(', '[', '\x7b', ')', ']', '\x7d']

/-- A character that is none of the signs is neutral. -/
theorem isNeutral_of_notMem {char : Char} (other : char ∉ signs) : isNeutral char := by
  simp only [signs, List.mem_cons, List.not_mem_nil, or_false, not_or] at other
  simp [isNeutral, isDelimiter, isOpening, isClosing, other]

/-- A blank is neutral. -/
theorem isNeutral_of_isBlank {blank : Char} (isBlank : isBlank blank) : isNeutral blank := by
  have letters : ∀ sign ∈ signs, Text.isBlank sign = false := by decide
  exact isNeutral_of_notMem fun listed => ne_of_isBlank isBlank blank (letters blank listed) rfl

/-- A neutral character is neither a parenthesis nor a quote. -/
theorem plain_of_isNeutral {char : Char} (neutral : isNeutral char) :
    char ≠ '(' ∧ isDelimiter char = false := by
  obtain ⟨noDelimiter, -, noOpening, -⟩ := isNeutral_iff.mp neutral
  refine ⟨?_, noDelimiter⟩
  rintro rfl
  exact absurd noOpening (by decide)

/-- The region after a character that means nothing to the scanner. -/
def Region.passed : Region → Region
  | .code => .code
  | .literal delimiter | .escape delimiter => .literal delimiter

/-- A neutral mark adds nothing. -/
theorem weight_of_isNeutral {mark : Mark} (neutral : isNeutral mark.char) : mark.weight = 0 := by
  simp [Mark.weight, isNeutral_iff.mp neutral]

/-- Squeezing a tight text leaves as many brackets open. -/
theorem openBrackets_squeeze {text : Text} (tight : Tight text) :
    openBrackets (squeeze text) = openBrackets text := by
  have marked : marksFrom .code (squeeze text) = squeezedMarks false (marks text) := by
    rw [← marks, marks_squeeze, trim_of_tight tight]
  rw [openBrackets, openBracketsFrom, marked]
  exact total_squeezedMarks (fun _ _ blank => weight_of_isNeutral (isNeutral_of_isBlank blank)) _ _

/-- A neutral character leaves code and literals as they are. -/
theorem next_of_isNeutral {char : Char} (neutral : isNeutral char) {region : Region}
    (proper : region.IsProper) : region.next char = region.passed := by
  obtain ⟨noDelimiter, noEscape, -⟩ := isNeutral_iff.mp neutral
  cases region with
  | code => simp [Region.next, Region.passed, noDelimiter]
  | literal delimiter =>
    have noEnd : char ≠ delimiter := by
      rintro rfl
      rw [show isDelimiter char = true from proper] at noDelimiter
      cases noDelimiter
    simp [Region.next, Region.passed, noEscape, noEnd]
  | escape delimiter => rfl

/-- A run of neutral characters adds nothing, and leaves code and literals as they are. -/
theorem reading_of_neutral {text : Text} (filled : text ≠ []) (neutral : ∀ char ∈ text, isNeutral char)
    {region : Region} (proper : region.IsProper) :
    openBracketsFrom region text = 0 ∧
      regionAfter region text = region.passed := by
  induction text generalizing region with
  | nil => exact absurd rfl filled
  | cons char text inductionHypothesis =>
    obtain ⟨first, neutral⟩ := List.forall_mem_cons.mp neutral
    have next := next_of_isNeutral first proper
    have nothing : Mark.weight ⟨char, region.isCode char⟩ = 0 := weight_of_isNeutral first
    rw [openBracketsFrom_cons, regionAfter_cons, nothing, Int.zero_add]
    cases text with
    | nil => exact ⟨rfl, next⟩
    | cons second text =>
      obtain ⟨brackets, later⟩ :=
        inductionHypothesis (List.cons_ne_nil _ _) neutral (proper.next char)
      refine ⟨brackets, later.trans ?_⟩
      rw [next]
      cases region <;> rfl

/-- Any two runs of neutral characters read alike. -/
theorem readsAlike_of_neutral {first second : Text} (filled : first ≠ []) (otherFilled : second ≠ [])
    (neutral : ∀ char ∈ first, isNeutral char) (otherNeutral : ∀ char ∈ second, isNeutral char) :
    ReadsAlike first second := by
  intro region proper
  obtain ⟨brackets, after⟩ := reading_of_neutral filled neutral proper
  obtain ⟨otherBrackets, otherAfter⟩ := reading_of_neutral otherFilled otherNeutral proper
  exact ⟨after.trans otherAfter.symm, brackets.trans otherBrackets.symm⟩

/-- Neutral characters at the end of a text add nothing, and a literal that is open before
them stays open. -/
theorem reading_append_neutral {neutrals : Text} (neutral : ∀ char ∈ neutrals, isNeutral char)
    (text : Text) :
    openBrackets (text ++ neutrals) = openBrackets text ∧
      (regionAfter .code (text ++ neutrals) = .code ↔ regionAfter .code text = .code) := by
  by_cases filled : neutrals = []
  · simp [filled]
  · have proper : (regionAfter .code text).IsProper := isProper_code.after text
    obtain ⟨brackets, after⟩ := reading_of_neutral filled neutral proper
    refine ⟨by simp [openBrackets, brackets], ?_⟩
    rw [regionAfter_append, after]
    cases regionAfter .code text <;> simp [Region.passed]

/-- Joining pieces that read alike gives texts that read alike. -/
theorem readsAlike_join (separator : Text) {pieces others : List Text}
    (alike : List.Forall₂ ReadsAlike pieces others) :
    ReadsAlike (join separator pieces) (join separator others) := by
  induction alike with
  | nil => exact .refl _
  | @cons piece other pieces others first later inductionHypothesis =>
    cases later with
    | nil => simpa [join] using first
    | cons second later =>
      rw [join, join, List.intercalate_cons_cons, List.intercalate_cons_cons]
      exact (first.append (.refl separator)).append inductionHypothesis

/-- The words of a text with single spaces between them read like the text, also where a
literal holds blanks. -/
theorem readsAlike_join_words {text : Text} (tight : Tight text) :
    ReadsAlike (join " " (words text)) text := by
  have blanks {run : Text} (filled : run ≠ []) (allBlank : ∀ char ∈ run, isBlank char) :
      ReadsAlike " " run :=
    readsAlike_of_neutral (by decide) filled (by decide) fun char member =>
      isNeutral_of_isBlank (allBlank char member)
  exact alike_join_words ReadsAlike.refl ReadsAlike.append blanks tight

end PyxProject.Text
