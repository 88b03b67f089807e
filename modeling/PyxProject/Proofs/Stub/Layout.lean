import Mathlib.Logic.Relation
import PyxProject.Proofs.Source.Layout
import PyxProject.Proofs.Source.Squeezed
import PyxProject.Proofs.Stub.Contributions

/-!
# Stubs do not depend on layout

The stub of a file is the stub of its normal lines (`nestingStub_normal`): the unit of
the indentation, the names imported from `cython`, the roles, the levels and what each
line writes are the same for a line and for its normal form. A file whose layout is
changed keeps its normal lines, so it has the same stub or still has none.
-/

namespace PyxProject.Stub

open Source

/-- Indentation is accepted by the normal lines of a file if it is by the lines. -/
theorem infer_normal (lines : List Source.Line) (indentation : Indentation) :
    Indentation.infer (lines.map Source.Line.normal) = .ok indentation ↔
      Indentation.infer lines = .ok indentation := by
  have tabbed : (lines.map Source.Line.normal).find? Source.Line.tabbed =
      (lines.find? Source.Line.tabbed).map Source.Line.normal := List.find?_map
  have smallest : smallestIndent? (lines.map Source.Line.normal) = smallestIndent? lines := by
    rw [smallestIndent?, List.map_map]
    rfl
  have misaligned (unit : Nat) :
      ((lines.map Source.Line.normal).find? fun line => line.spaces % unit ≠ 0) =
        (lines.find? fun line => line.spaces % unit ≠ 0).map Source.Line.normal := List.find?_map
  simp only [Indentation.infer, tabbed, smallest, misaligned]
  cases lines.find? Source.Line.tabbed with
  | some line => exact iff_of_false nofun nofun
  | none =>
    cases smallestIndent? lines with
    | none => exact Iff.rfl
    | some unit =>
      dsimp only
      cases lines.find? fun line => line.spaces % unit ≠ 0 with
      | some line => exact iff_of_false nofun nofun
      | none => exact Iff.rfl

/-- Normal lines bind the names that the lines bind. -/
theorem ofLines_normal (lines : List Source.Line) :
    CythonNames.ofLines (lines.map Source.Line.normal) = CythonNames.ofLines lines := by
  simp only [CythonNames.ofLines, List.flatMap_map, Source.Line.normal, boundNames_squeeze]

/-- A squeezed line is shown as it is shown unsqueezed. -/
theorem shownText_squeeze (role : LineRole) {text : Text} (tight : Text.Tight text) :
    shownText role (Text.squeeze text) = shownText role text := by
  have twice := Text.squeeze_squeeze tight
  cases role with
  | importStatement => simp only [shownText, importInStub, Text.words_squeeze]
  | classHeader => simp only [shownText, classInStub, twice]
  | enumHeader =>
    change enumInStub (Text.squeeze text) = enumInStub text
    unfold enumInStub
    rw [Text.words_squeeze]
  | functionHeader native =>
    simp only [shownText, functionInStub, (headerOf_squeeze tight).1,
      Text.squeeze_squeeze (tight_headerOf tight)]
  | decorator | statement | directive | blockHeader => exact twice

/-- A normal line writes what the line writes. -/
theorem writtenLines_normal (step : Nat) (role : LineRole) {line : Source.Line}
    (tight : Text.Tight line.text) :
    writtenLines step line.normal role = writtenLines step line role := by
  have shown := shownText_squeeze role tight
  cases role <;> simp only [writtenLines, Source.Line.normal, shown]

/-- Normal lines have the shape that the lines have. -/
theorem keepsShape_normal {lines : List Source.Line} (tight : ∀ line ∈ lines, Text.Tight line.text)
    (indentation : Indentation) :
    KeepsShape Source.Line.normal lines indentation indentation where
  names := ofLines_normal lines
  roles line member := role_squeeze (areWords_ofLines lines) (tight line member)
  levels _ _ := rfl

/-- The stub of a file is the stub of its normal lines. -/
theorem nestingStub_normal {lines : List Source.Line} (tight : ∀ line ∈ lines, Text.Tight line.text)
    (indentation : Indentation) :
    nestingStub (lines.map Source.Line.normal) indentation = nestingStub lines indentation := by
  rw [(keepsShape_normal tight indentation).nestingStub_eq, nestingStub]
  congr 1
  apply List.flatMap_congr
  rintro ⟨line, role⟩ member
  exact writtenLines_normal _ role (tight line (role_of_mem_contributions member).1)

/-- What a run gives is settled by the normal lines of the file. -/
theorem generate_eq_ok_iff_normal (content : Text) (stub : List Text) :
    generate content = .ok stub ↔
      ∃ indentation, Indentation.infer (normalLines content) = .ok indentation ∧
        (∀ line ∈ normalLines content, opensSignature line.text = false) ∧
        stub = nestingStub (normalLines content) indentation := by
  have tight : ∀ line ∈ readLines content, Text.Tight line.text := fun line member =>
    tight_of_mem_readLines member
  have closed : (∀ line ∈ normalLines content, opensSignature line.text = false) ↔
      ∀ line ∈ readLines content, opensSignature line.text = false := by
    simp only [normalLines, List.forall_mem_map]
    refine forall₂_congr fun line member => ?_
    rw [Source.Line.normal, opensSignature_squeeze (tight line member)]
  rw [generate_eq_ok_iff]
  simp only [closed]
  simp only [normalLines, infer_normal, nestingStub_normal tight]

/-- Files that differ in layout have the same stub: after any number of changes, each of
which puts in or takes out a line without code, changes what follows the code of a line,
or makes a gap between words wider or narrower, a file has a stub if it had that stub
before. -/
theorem generate_of_relayout (first second : Text)
    (changed : Relation.EqvGen Relayout first second) (stub : List Text) :
    generate first = .ok stub ↔ generate second = .ok stub := by
  have same : normalLines first = normalLines second := by
    induction changed with
    | rel first second change => exact normalLines_eq_of_relayout change
    | refl content => rfl
    | symm first second _ inductionHypothesis => exact inductionHypothesis.symm
    | trans first middle second _ _ firstHalf secondHalf => exact firstHalf.trans secondHalf
  rw [generate_eq_ok_iff_normal, generate_eq_ok_iff_normal, same]

/-- A comment line goes, a comment comes at the end of a line, and a gap in a header is
filled with a tab: the stub stays. -/
theorem header_with_other_layout :
    let first : Text := "# head\ncdef int f(x, y=\"a  # b\"):\n  pass"
    let second : Text := "cdef \tint f(x, y=\"a  # b\"): # it's\n  pass"
    let stub : List Text := ["def f(x, y=\"a  # b\") -> int:", "  ..."]
    generate first = .ok stub ∧ generate second = .ok stub := by
  have comment := Relayout.idleLine [] ["cdef int f(x, y=\"a  # b\"):", "  pass"] "# head"
    (by decide) rfl
  have ending := Relayout.ending [] ["  pass"] "cdef int f(x, y=\"a  # b\"):" "" " # it's"
    (by decide) rfl rfl rfl
  have gap := Relayout.gap [] ["  pass"] "cdef" " " " \t" "int f(x, y=\"a  # b\"): # it's"
    (by decide) ⟨'c', by decide, by decide⟩ rfl (by decide) (by decide) (by decide) (by decide)
  have changed : Relation.EqvGen Relayout
      "# head\ncdef int f(x, y=\"a  # b\"):\n  pass".toList
      "cdef \tint f(x, y=\"a  # b\"): # it's\n  pass".toList :=
    .trans _ _ _ (.symm _ _ (.rel _ _ comment)) (.trans _ _ _ (.rel _ _ ending) (.rel _ _ gap))
  have stub : generate "# head\ncdef int f(x, y=\"a  # b\"):\n  pass" =
      .ok ["def f(x, y=\"a  # b\") -> int:", "  ..."] := rfl
  exact ⟨stub, (generate_of_relayout _ _ changed _).mp stub⟩

end PyxProject.Stub
