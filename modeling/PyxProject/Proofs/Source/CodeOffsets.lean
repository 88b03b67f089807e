import PyxProject.Proofs.Source.Roles
import PyxProject.Proofs.Text.CodePlaces

/-!
# Rules that read the code of a text

The rules that look past literals are described by the list of what stands outside them
(`Text.scanCode`): a text is cut before its first number sign, parentheses are counted in
it, and a header ends at the first colon or equals sign of the list at which as many brackets
were closed as opened, if that is a colon (`rules_read_code`). So cutting twice is cutting
once, both for comments and for headers.
-/

namespace PyxProject.Text

/-- The offset at which a character first stands in code. -/
def firstOffset? (char : Char) (text : Text) : Option Nat :=
  ((scanCode text).find? fun place => place.2 == char).map Prod.fst

/-- How often a character stands in code. -/
def codeCount (char : Char) (text : Text) : Nat :=
  (scanCode text).countP fun place => place.2 == char

/-- Opening brackets minus closing brackets. -/
def bracketBalance (places : List (Nat × Char)) : Int :=
  places.countP (fun place => isOpening place.2) - places.countP (fun place => isClosing place.2)

/-- The marks before the first one that is a given character in code are cut off at its offset. -/
theorem takeWhile_eq_takeBytes (char : Char) (before : Text) (marked : List Mark) :
    before ++ unmark (marked.takeWhile fun mark => !mark.is char) =
      (((codePlaces (size before) marked).find? fun place => place.2 == char).map Prod.fst).elim
        (before ++ unmark marked) fun offset => takeBytes offset (before ++ unmark marked) := by
  induction marked generalizing before with
  | nil => rfl
  | cons mark marked inductionHypothesis =>
    have whole : before ++ unmark (mark :: marked) = (before ++ [mark.char]) ++ unmark marked := by
      simp [unmark]
    have later := inductionHypothesis (before ++ [mark.char])
    rw [size_concat] at later
    by_cases found : mark.is char
    · obtain ⟨code, same⟩ : mark.code = true ∧ mark.char = char := by simpa [Mark.is] using found
      have first : ((codePlaces (size before) (mark :: marked)).find? fun place =>
          place.2 == char) =
          some (size before, char) := by
        simp [codePlaces, code, same]
      have cut : takeBytes (size before) (before ++ unmark (mark :: marked)) = before :=
        (bytes_append before (unmark (mark :: marked))).1
      rw [first, List.takeWhile_cons_of_neg (by simp [found])]
      exact (List.append_nil before).trans cut.symm
    · have passed : ((codePlaces (size before) (mark :: marked)).find? fun place =>
          place.2 == char) = (codePlaces (size before + mark.char.utf8Size) marked).find?
            fun place => place.2 == char := by
        cases code : mark.code with
        | false => simp [codePlaces, code]
        | true =>
          have other : (mark.char == char) = false := by simpa [Mark.is, code] using found
          simp [codePlaces, code, List.find?_cons_of_neg, other]
      rw [passed, whole, ← later]
      simp [found, unmark]

/-- A text is cut before its first number sign in code. -/
theorem withoutComment_eq_takeBytes (text : Text) :
    withoutComment text =
      (firstOffset? '#' text).elim text fun offset => takeBytes offset text := by
  have cut := takeWhile_eq_takeBytes '#' [] (marks text)
  rw [firstOffset?, scanCode_eq_codePlaces]
  simpa [withoutComment, size] using cut

/-- Nothing is left to cut from a text without its comment. -/
theorem withoutComment_withoutComment (text : Text) :
    withoutComment (withoutComment text) = withoutComment text := by
  have parts : marks text =
      (marks text).takeWhile (fun mark => !mark.is '#') ++
        (marks text).dropWhile fun mark => !mark.is '#' :=
    List.takeWhile_append_dropWhile.symm
  have kept : marks (withoutComment text) = (marks text).takeWhile fun mark => !mark.is '#' :=
    marks_of_append parts
  rw [withoutComment, kept, List.takeWhile_idem]
  rfl

/-- The sum over the marks is the difference of the two counts. -/
theorem total_roundWeight (offset : Nat) (marked : List Mark) :
    total Mark.roundWeight marked =
      ((codePlaces offset marked).countP fun place => place.2 == '(' : Nat) -
        ((codePlaces offset marked).countP fun place => place.2 == ')' : Nat) := by
  induction marked generalizing offset with
  | nil => rfl
  | cons mark marked inductionHypothesis =>
    rw [total, inductionHypothesis (offset + mark.char.utf8Size), codePlaces]
    cases code : mark.code with
    | false => simp [Mark.roundWeight, Mark.is, code]
    | true =>
      by_cases opening : mark.char = '('
      · simp [Mark.roundWeight, Mark.is, code, opening]
        omega
      · by_cases closing : mark.char = ')'
        · simp [Mark.roundWeight, Mark.is, code, closing]
          omega
        · simp [Mark.roundWeight, Mark.is, code, opening, closing]

/-- The parentheses that a text leaves open are counted in its code. -/
theorem openParentheses_eq_codeCount (text : Text) :
    openParentheses text = codeCount '(' text - codeCount ')' text := by
  rw [openParentheses_eq_total, total_roundWeight 0, codeCount, codeCount, scanCode_eq_codePlaces]

end PyxProject.Text

namespace PyxProject.Source

open Text (scanCode bracketBalance takeBytes dropBytes size codePlaces)

/-- The first place of code, of either sign that ends the search for a header, before which as
many brackets were closed as opened, if a number of brackets is open at the start. -/
def stopFrom (depth : Int) (code : List (Nat × Char)) : Option (Nat × Char) :=
  ((code.inits.zip code).find? fun (before, place) =>
    endsSearch place.2 && depth + bracketBalance before == 0).map Prod.snd

/-- The offset of a colon that ends the search for a header. -/
def colonFrom (depth : Int) (code : List (Nat × Char)) : Option Nat :=
  (stopFrom depth code).bind fun (offset, char) => if char = ':' then some offset else none

/-- The offset of the colon that ends a header. -/
def colonOffset? (text : Text) : Option Nat := colonFrom 0 (scanCode text)

/-- What a character adds to the number of open brackets. -/
def bracketWeight (char : Char) : Int :=
  if Text.isOpening char then 1 else if Text.isClosing char then -1 else 0

/-- The brackets of a list are those of its first place and of the places behind it. -/
theorem bracketBalance_cons (place : Nat × Char) (code : List (Nat × Char)) :
    bracketBalance (place :: code) = bracketWeight place.2 + bracketBalance code := by
  have apart : Text.isOpening place.2 → Text.isClosing place.2 = false := by
    intro opening
    simp only [Text.isOpening, Bool.or_eq_true, beq_iff_eq] at opening
    rcases opening with (same | same) | same <;> rw [same] <;> rfl
  by_cases opening : Text.isOpening place.2
  · simp [bracketBalance, bracketWeight, opening, apart opening]
    omega
  · by_cases closing : Text.isClosing place.2
    · simp [bracketBalance, bracketWeight, opening, closing]
      omega
    · simp [bracketBalance, bracketWeight, opening, closing]

/-- The search goes from place to place and carries the number of open brackets. -/
theorem stopFrom_cons (depth : Int) (place : Nat × Char) (code : List (Nat × Char)) :
    stopFrom depth (place :: code) =
      if endsSearch place.2 ∧ depth = 0 then some place
      else stopFrom (depth + bracketWeight place.2) code := by
  by_cases stops : endsSearch place.2 ∧ depth = 0
  · rw [if_pos stops]
    simp [stopFrom, stops.1, stops.2, bracketBalance]
  · rw [if_neg stops]
    have passed : (endsSearch place.2 && depth + bracketBalance [] == 0) = false := by
      simpa [bracketBalance] using stops
    have later : ((fun entry : List (Nat × Char) × (Nat × Char) =>
        endsSearch entry.2.2 && depth + bracketBalance entry.1 == 0) ∘
          Prod.map (fun before => place :: before) id) =
        fun entry => endsSearch entry.2.2 &&
          depth + bracketWeight place.2 + bracketBalance entry.1 == 0 := by
      funext entry
      simp only [Function.comp_apply, Prod.map_fst, Prod.map_snd, id_eq, bracketBalance_cons,
        Int.add_assoc]
    simp only [stopFrom, List.inits, List.zip_cons_cons, List.find?_cons, passed,
      List.zip_map_left, List.find?_map, Option.map_map, later]
    rfl

/-- At a mark of code the search ends outside brackets at either sign, and goes on with the
brackets of the mark otherwise. -/
theorem headerStep_of_code (depth : Int) {mark : Text.Mark} (code : mark.code = true) :
    headerStep depth mark =
      if endsSearch mark.char ∧ depth = 0 then
        if mark.char = ':' then .finish else .refuse
      else .proceed (depth + bracketWeight mark.char) := by
  by_cases sign : endsSearch mark.char
  · have either : mark.char = '=' ∨ mark.char = ':' := by simpa [endsSearch] using sign
    by_cases outside : depth = 0
    · rcases either with same | same
      · simp [headerStep, code, same, outside, endsSearch, Text.isOpening, Text.isClosing]
      · simp [headerStep, code, same, outside, endsSearch, Text.isOpening, Text.isClosing]
    · rcases either with same | same
      · simp [headerStep, code, same, outside, bracketWeight, Text.isOpening, Text.isClosing]
      · simp [headerStep, code, same, outside, bracketWeight, Text.isOpening, Text.isClosing]
  · have neither : mark.char ≠ '=' ∧ mark.char ≠ ':' := by simpa [endsSearch] using sign
    by_cases opening : Text.isOpening mark.char
    · simp [headerStep, code, sign, opening, bracketWeight]
    · by_cases closing : Text.isClosing mark.char
      · simp [headerStep, code, sign, opening, closing, bracketWeight, Int.sub_eq_add_neg]
      · simp [headerStep, code, sign, neither, opening, closing, bracketWeight]

/-- The search for the end of a header cuts a text behind the colon that its code shows. -/
theorem colonCut_eq_colonFrom (depth : Int) (before : Text) (marked : List Text.Mark) :
    (colonCut? depth marked).map (fun cut => (before ++ cut.1, cut.2)) =
      (colonFrom depth (codePlaces (size before) marked)).map fun offset =>
        (takeBytes (offset + 1) (before ++ Text.unmark marked),
          dropBytes (offset + 1) (before ++ Text.unmark marked)) := by
  induction marked generalizing depth before with
  | nil => rfl
  | cons mark marked inductionHypothesis =>
    have whole : before ++ Text.unmark (mark :: marked) =
        (before ++ [mark.char]) ++ Text.unmark marked := by
      simp [Text.unmark]
    have later (next : Int) := inductionHypothesis next (before ++ [mark.char])
    simp only [Text.size_concat, ← whole] at later
    have proceed {next : Int} (step : headerStep depth mark = .proceed next) :
        (colonCut? depth (mark :: marked)).map (fun cut => (before ++ cut.1, cut.2)) =
          (colonFrom next (codePlaces (size before + mark.char.utf8Size) marked)).map fun offset =>
            (takeBytes (offset + 1) (before ++ Text.unmark (mark :: marked)),
              dropBytes (offset + 1) (before ++ Text.unmark (mark :: marked))) := by
      rw [colonCut_cons, step, ← later next, Option.map_map]
      congr 1
      funext cut
      simp
    cases code : mark.code with
    | false =>
      rw [proceed (headerStep_of_literal depth code)]
      simp [codePlaces, code]
    | true =>
      have places : codePlaces (size before) (mark :: marked) =
          (size before, mark.char) :: codePlaces (size before + mark.char.utf8Size) marked := by
        simp [codePlaces, code]
      have step := headerStep_of_code depth code
      rw [places, colonFrom, stopFrom_cons]
      by_cases stops : endsSearch mark.char ∧ depth = 0
      · rw [if_pos stops] at step ⊢
        by_cases colon : mark.char = ':'
        · rw [if_pos colon] at step
          obtain ⟨front, back⟩ := Text.bytes_append (before ++ [mark.char]) (Text.unmark marked)
          have behind : size (before ++ [mark.char]) = size before + 1 := by
            rw [Text.size_concat, colon]
            rfl
          rw [behind, ← whole] at front back
          rw [colonCut_cons, step]
          simp [colon, front, back]
        · rw [if_neg colon] at step
          rw [colonCut_cons, step]
          simp [colon]
      · rw [if_neg stops] at step ⊢
        exact proceed step

/-- A text is cut behind the colon that its code shows. -/
theorem colonCut_eq_colonOffset (text : Text) :
    colonCut? 0 (Text.marks text) = (colonOffset? text).map fun offset =>
      (takeBytes (offset + 1) text, dropBytes (offset + 1) text) := by
  have cut := colonCut_eq_colonFrom 0 [] (Text.marks text)
  rw [colonOffset?, Text.scanCode_eq_codePlaces]
  simpa [size] using cut

/-- What is cut off as a header is cut nowhere else, and nothing is left behind it. -/
theorem colonCut_of_header {depth : Int} {first second : List Text.Mark} {body : Text}
    (found : colonCut? depth (first ++ second) = some (Text.unmark first, body)) :
    colonCut? depth first = some (Text.unmark first, []) := by
  induction first generalizing depth with
  | nil =>
    obtain ⟨_, ends⟩ := unmark_eq_of_colonCut found
    cases ends
  | cons mark first inductionHypothesis =>
    rw [List.cons_append, colonCut_cons] at found
    rw [colonCut_cons]
    cases step : headerStep depth mark with
    | proceed next =>
      rw [step] at found
      obtain ⟨⟨header, remainder⟩, cut, same⟩ := Option.map_eq_some_iff.mp found
      obtain ⟨⟨_, rfl⟩, rfl⟩ :
          (mark.char = mark.char ∧ header = Text.unmark first) ∧ remainder = body := by
        simpa [Text.unmark] using same
      simp only [inductionHypothesis cut]
      rfl
    | refuse =>
      rw [step] at found
      cases found
    | finish =>
      rw [step] at found
      obtain rfl := colon_of_finish step
      obtain ⟨rfl, _⟩ : first = [] ∧ _ := by simpa [Text.unmark] using found
      rfl

/-- The header of a header is that header. -/
theorem headerOf_headerOf (text : Text) : headerOf (headerOf text) = headerOf text := by
  by_cases opens : opensDefinition text
  · cases cut : colonCut? 0 (Text.marks text) with
    | none => simp [headerOf, opens, cut]
    | some parts =>
      obtain ⟨header, body⟩ := parts
      by_cases last : Text.trim body = []
      · simp [headerOf, opens, cut, last]
      · have short : headerOf text = header := by simp [headerOf, opens, cut, last]
        obtain ⟨first, second, whole, rfl⟩ : ∃ first second,
            Text.marks text = first ++ second ∧ Text.unmark first = header := by
          obtain ⟨parts, _⟩ := unmark_eq_of_colonCut cut
          obtain ⟨first, second, whole, same, _⟩ := List.map_eq_append_iff.mp parts
          exact ⟨first, second, whole, same⟩
        rw [whole] at cut
        rw [short, headerOf, Text.marks_of_append whole, colonCut_of_header cut]
        exact ite_self _
  · simp [headerOf, opens]

/-- The rules that look past literals read the code of a text. A text is cut before its first
number sign in code. The parentheses that it leaves open are the difference of two counts in
its code. A header ends at the first colon or equals sign in code at which as many brackets
were closed as opened, if that is a colon. So to cut off a comment twice is to do it once, and
the header of a header is that header. -/
theorem rules_read_code (text : Text) :
    Text.withoutComment text =
        (Text.firstOffset? '#' text).elim text (fun offset => takeBytes offset text) ∧
      Text.openParentheses text = Text.codeCount '(' text - Text.codeCount ')' text ∧
      colonCut? 0 (Text.marks text) = (colonOffset? text).map (fun offset =>
        (takeBytes (offset + 1) text, dropBytes (offset + 1) text)) ∧
      Text.withoutComment (Text.withoutComment text) = Text.withoutComment text ∧
      headerOf (headerOf text) = headerOf text :=
  ⟨Text.withoutComment_eq_takeBytes text, Text.openParentheses_eq_codeCount text,
    colonCut_eq_colonOffset text, Text.withoutComment_withoutComment text, headerOf_headerOf text⟩

end PyxProject.Source
