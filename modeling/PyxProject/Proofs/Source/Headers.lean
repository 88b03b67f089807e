import Mathlib.Tactic.SplitIfs
import PyxProject.Proofs.Text.TopLevel
import PyxProject.Source.Header

/-!
# The search for the end of a header

The colon that ends a header is searched mark by mark. What a mark does to the search
is settled by the mark and the depth before it: the search goes on with some depth, is
given up at an assignment, or ends at the colon (`headerStep`). The search is described
by that step once (`colonCut_cons`), and marks that cannot matter, blanks and whatever
stands in a literal, let it go on as it was. So does a text that holds neither of the two
signs outside brackets (`headerOf_append_colon`).
-/

namespace PyxProject.Source

/-- What a mark does to the search for the colon that ends a header. -/
inductive HeaderStep where
  /-- The search goes on with the given depth. -/
  | proceed (depth : Int)
  /-- An assignment comes before any colon. -/
  | refuse
  /-- The mark is the colon. -/
  | finish
deriving DecidableEq, Repr

/-- The step of the search at a mark. -/
def headerStep (depth : Int) (mark : Text.Mark) : HeaderStep :=
  if !mark.code then .proceed depth
  else if Text.isOpening mark.char then .proceed (depth + 1)
  else if Text.isClosing mark.char then .proceed (depth - 1)
  else if depth = 0 ∧ mark.char = '=' then .refuse
  else if depth = 0 ∧ mark.char = ':' then .finish
  else .proceed depth

/-- The search goes from mark to mark. -/
theorem colonCut_cons (depth : Int) (mark : Text.Mark) (rest : List Text.Mark) :
    colonCut? depth (mark :: rest) =
      match headerStep depth mark with
      | .proceed next => (colonCut? next rest).map fun cut => (mark.char :: cut.1, cut.2)
      | .refuse => none
      | .finish => some ([':'], Text.unmark rest) := by
  simp only [colonCut?, headerStep]
  split_ifs <;> rfl

/-- The search passes what stands in a literal. -/
theorem headerStep_of_literal (depth : Int) {mark : Text.Mark} (literal : mark.code = false) :
    headerStep depth mark = .proceed depth := by
  simp [headerStep, literal]

/-- The search passes blanks. -/
theorem headerStep_of_isBlank (depth : Int) {mark : Text.Mark} (blank : Text.isBlank mark.char) :
    headerStep depth mark = .proceed depth := by
  have other := Text.ne_of_isBlank blank
  have noOpening : Text.isOpening mark.char = false := by
    simp [Text.isOpening, other '(' (by decide), other '[' (by decide),
      other '\x7b' (by decide)]
  have noClosing : Text.isClosing mark.char = false := by
    simp [Text.isClosing, other ')' (by decide), other ']' (by decide),
      other '\x7d' (by decide)]
  simp [headerStep, noOpening, noClosing, other '=' (by decide),
    other ':' (by decide)]

/-- The two signs that the search reacts to. -/
def endsSearch (char : Char) : Bool := char == '=' || char == ':'

/-- No search stops at a blank. -/
theorem endsSearch_of_isBlank (char : Char) (blank : Text.isBlank char) : endsSearch char = false := by
  simp [endsSearch, Text.ne_of_isBlank blank '=' (by decide), Text.ne_of_isBlank blank ':' (by decide)]

/-- Words without brackets, literals and the two signs are laid out without them. -/
theorem unsearched_of_spaced {list : List Text}
    (plain : ∀ word ∈ list, ∀ char ∈ word, Text.isNeutral char ∧ endsSearch char = false) {text : Text}
    (spaced : Text.Spaced list text) : ∀ char ∈ text, Text.isNeutral char ∧ endsSearch char = false :=
  Text.forall_of_spaced (fun char blank => ⟨Text.isNeutral_of_isBlank blank, endsSearch_of_isBlank char blank⟩)
    plain spaced

/-- The search goes on with the depth of the brackets, unless one of them was never opened or
one of the two signs stands outside all of them. -/
theorem headerStep_of_within {depth : Nat} {mark : Text.Mark}
    (within : (mark.code && (Text.isClosing mark.char || endsSearch mark.char) && depth == 0) = false) :
    headerStep depth mark = .proceed (mark.depthAfter depth : Nat) := by
  cases code : mark.code with
  | false => simp [headerStep, Text.Mark.depthAfter, code]
  | true =>
    by_cases opening : Text.isOpening mark.char
    · simp [headerStep, Text.Mark.depthAfter, code, opening]
    by_cases closing : Text.isClosing mark.char
    · have positive : 1 ≤ depth := by
        simp [code, closing] at within
        omega
      simp [headerStep, Text.Mark.depthAfter, code, opening, closing, Int.ofNat_sub positive]
    · have noSign : depth = 0 → mark.char ≠ '=' ∧ mark.char ≠ ':' := by
        rintro rfl
        simpa [code, closing, endsSearch] using within
      by_cases outside : depth = 0
      · simp [headerStep, Text.Mark.depthAfter, code, opening, closing, noSign outside]
      · simp [headerStep, Text.Mark.depthAfter, code, opening, closing, outside]

/-- The search passes marks that hold neither sign outside brackets. -/
theorem colonCut_of_walkWithin {depth next : Nat} {marked : List Text.Mark}
    (followed : Text.walkWithin endsSearch depth marked = some next) (rest : List Text.Mark) :
    colonCut? depth (marked ++ rest) =
      (colonCut? next rest).map fun cut => (Text.unmark marked ++ cut.1, cut.2) := by
  induction marked generalizing depth with
  | nil =>
    obtain rfl : depth = next := Option.some.inj followed
    exact Option.map_id_apply.symm
  | cons mark marked inductionHypothesis =>
    rw [Text.walkWithin] at followed
    split at followed
    · cases followed
    · rename_i allowed
      rw [List.cons_append, colonCut_cons, headerStep_of_within (Bool.eq_false_iff.mpr allowed)]
      simp only [inductionHypothesis followed, Option.map_map]
      rfl

/-- The search ends at a colon in code. -/
theorem colon_of_finish {depth : Int} {mark : Text.Mark} (found : headerStep depth mark = .finish) :
    mark = ⟨':', true⟩ := by
  unfold headerStep at found
  split_ifs at found with literal _ _ _ colon
  rcases mark with ⟨char, code⟩
  simp_all

/-- The colon that ends a header cuts the text into the header, which ends in that
colon, and the rest. -/
theorem unmark_eq_of_colonCut {depth : Int} {marks : List Text.Mark} {header body : Text}
    (found : colonCut? depth marks = some (header, body)) :
    Text.unmark marks = header ++ body ∧ header.getLast? = some ':' := by
  induction marks generalizing depth header with
  | nil => simp [colonCut?] at found
  | cons mark rest inductionHypothesis =>
    rw [colonCut_cons] at found
    split at found
    · obtain ⟨⟨shorter, remainder⟩, cut, same⟩ := Option.map_eq_some_iff.mp found
      obtain ⟨rfl, rfl⟩ := Prod.mk.inj same
      obtain ⟨whole, ends⟩ := inductionHypothesis cut
      refine ⟨by simpa [Text.unmark] using whole, ?_⟩
      rw [List.getLast?_cons, ends]
      rfl
    · cases found
    · rename_i colon
      obtain rfl := colon_of_finish colon
      obtain ⟨rfl, rfl⟩ := Prod.mk.inj (Option.some.inj found)
      exact ⟨rfl, rfl⟩

/-- A text that holds neither sign outside brackets is the header up to the colon behind it,
as long as something follows that colon. -/
theorem headerOf_append_colon {front rest : Text} (unbroken : Text.Unbroken endsSearch front)
    (opens : opensDefinition (front ++ ':' :: rest)) :
    headerOf (front ++ ':' :: rest) =
      if Text.trim rest = [] then front ++ ':' :: rest else front ++ [':'] := by
  have next : Text.marks (':' :: rest) = ⟨':', true⟩ :: Text.marks rest := rfl
  have cut : colonCut? 0 (Text.marks (front ++ ':' :: rest)) = some (front ++ [':'], rest) := by
    have passed := colonCut_of_walkWithin unbroken.brackets (Text.marks (':' :: rest))
    rw [unbroken.literals.marks_append]
    refine passed.trans ?_
    rw [next, colonCut_cons]
    simp [headerStep, Text.isOpening, Text.isClosing]
  rw [headerOf, if_pos opens, cut]

/-- A text that holds neither sign outside brackets, with a colon behind it, is a whole header. -/
theorem headerOf_of_unbroken {front : Text} (unbroken : Text.Unbroken endsSearch front) :
    headerOf (front ++ [':']) = front ++ [':'] := by
  by_cases opens : opensDefinition (front ++ [':'])
  · rw [headerOf_append_colon unbroken opens]
    rfl
  · rw [headerOf, if_neg opens]

end PyxProject.Source
