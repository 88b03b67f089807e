import PyxProject.Proofs.Source.Roles
import PyxProject.Proofs.Source.Widths
import PyxProject.Proofs.Stub.Contributions

/-!
# Files of one function

A file that holds one function, a header on a line of its own and statements below it, has
a stub of two lines: the translated header and the ellipsis (`generate_of_function`). The
statements settle the unit of indentation and write nothing, since no class encloses them.
-/

namespace PyxProject.Stub

open Source

/-- A source line one line further down. -/
def later (line : Source.Line) : Source.Line := { line with number := line.number + 1 }

/-- What is read from a line does not depend on where it stands. -/
theorem read_later (number : Nat) (raw : Text) :
    Source.Line.read? (number + 1) raw = (Source.Line.read? number raw).map later := by
  simp only [Source.Line.read?]
  split <;> rfl

/-- The lines of a file behind its first line. -/
theorem readLines_append {first : Text} (oneLine : '\n' ∉ first) (rest : Text) :
    readLines (first ++ '\n' :: rest) =
      (Source.Line.read? 1 (Text.dropReturn first)).toList ++ (readLines rest).map later := by
  have numbered (content : Text) : readLines content =
      ((Text.lines content).zipIdx 1).filterMap fun entry => Source.Line.read? entry.2 entry.1 := rfl
  have shifted : ((Text.lines rest).zipIdx (1 + 1)).filterMap
      (fun entry => Source.Line.read? entry.2 entry.1) = (readLines rest).map later := by
    rw [List.zipIdx_succ, List.filterMap_map, numbered, List.map_filterMap]
    apply List.filterMap_congr
    rintro ⟨raw, number⟩ _
    exact read_later number raw
  rw [numbered, Text.lines_append oneLine, List.zipIdx_cons, List.filterMap_cons, shifted]
  cases Source.Line.read? 1 (Text.dropReturn first) <;> rfl

/-- The lines below a function header: statements that are indented by multiples of the
unit, the first of them by the unit itself. -/
structure IsBody (unit : Nat) (lines : List Source.Line) : Prop where
  positive : 0 < unit
  first : ∃ line ∈ lines.head?, line.spaces = unit
  indented : ∀ line ∈ lines, line.tabbed = false ∧ 0 < line.spaces ∧ unit ∣ line.spaces
  statements : ∀ line ∈ lines,
    LineRole.of (CythonNames.ofLines lines) line.text = .statement ∨
      LineRole.of (CythonNames.ofLines lines) line.text = .blockHeader
  complete : ∀ line ∈ lines, opensSignature line.text = false

namespace IsBody

variable {unit : Nat} {lines : List Source.Line} (body : IsBody unit lines)

include body

/-- The statements of a body import nothing. -/
theorem boundNames_eq : ∀ line ∈ lines, boundNames line.text = [] := by
  intro line member
  have noImport : LineRole.of (CythonNames.ofLines lines) line.text ≠ .importStatement := by
    rcases body.statements line member with role | role <;> simp [role]
  exact boundNames_eq_nil noImport

/-- A body that is moved down and comes behind a header that is not indented settles the unit. The
unit is among the indentations and divides all of them, so none is smaller. -/
theorem infer_eq (header : Source.Line) (flat : header.spaces = 0) (untabbed : header.tabbed = false) :
    Indentation.infer (header :: lines.map later) = .ok ⟨some unit⟩ := by
  obtain ⟨first, starts, same⟩ := body.first
  have member : first ∈ lines := List.mem_of_mem_head? starts
  have spaces : (lines.map later).map Source.Line.spaces = lines.map Source.Line.spaces := by
    rw [List.map_map]
    rfl
  have noTab : (header :: lines.map later).find? Source.Line.tabbed = none := by
    simp only [List.find?_eq_none, List.forall_mem_cons, List.forall_mem_map]
    refine ⟨by simp [untabbed], fun line inside => ?_⟩
    simp [later, (body.indented line inside).1]
  have smallest : smallestIndent? (header :: lines.map later) = some unit := by
    rw [smallestIndent?, List.map_cons, spaces, flat, List.filter_cons_of_neg (by decide)]
    refine List.min?_eq_some_iff.mpr ⟨?_, fun found inside => ?_⟩
    · refine List.mem_filter.mpr ⟨List.mem_map.mpr ⟨first, member, same⟩, ?_⟩
      simpa using body.positive
    · obtain ⟨listed, _⟩ := List.mem_filter.mp inside
      obtain ⟨line, found, rfl⟩ := List.mem_map.mp listed
      obtain ⟨_, deep, multiple⟩ := body.indented line found
      exact Nat.le_of_dvd deep multiple
  have aligned : (header :: lines.map later).find? (fun line => line.spaces % unit ≠ 0) = none := by
    simp only [List.find?_eq_none, List.forall_mem_cons, List.forall_mem_map]
    refine ⟨by simp [flat], fun line inside => ?_⟩
    simp [later, Nat.mod_eq_zero_of_dvd (body.indented line inside).2.2]
  rw [Indentation.infer, noTab, smallest]
  simp only [aligned]

/-- The header of a function and its body bind no names. -/
theorem ofLines_eq {header : Source.Line} {native : Bool}
    (function : LineRole.of ⟨[]⟩ header.text = .functionHeader native) :
    CythonNames.ofLines (header :: lines.map later) = ⟨[]⟩ := by
  have first : boundNames header.text = [] := by
    have noImport : LineRole.of ⟨[]⟩ header.text ≠ .importStatement := by simp [function]
    exact boundNames_eq_nil noImport
  have rest : (lines.map later).flatMap (fun line => boundNames line.text) = [] := by
    simpa [List.flatMap_eq_nil_iff, later] using body.boundNames_eq
  rw [CythonNames.ofLines, List.flatMap_cons, first, rest]
  rfl

/-- The lines of a body are statements also behind a header. -/
theorem statements_later : ∀ line ∈ lines.map later,
    LineRole.of ⟨[]⟩ line.text = .statement ∨ LineRole.of ⟨[]⟩ line.text = .blockHeader := by
  have noNames : CythonNames.ofLines lines = ⟨[]⟩ := by
    rw [CythonNames.ofLines, List.flatMap_eq_nil_iff.mpr body.boundNames_eq]
  simpa [later, noNames] using body.statements

/-- Of a function with its body only the header is written, with the ellipsis below it. -/
theorem nestingStub_eq {header : Source.Line} {native : Bool}
    (function : LineRole.of ⟨[]⟩ header.text = .functionHeader native) (indentation : Indentation) :
    nestingStub (header :: lines.map later) indentation =
      writtenLines indentation.step header (.functionHeader native) := by
  have names := body.ofLines_eq function
  have statements := body.statements_later
  have classless : ∀ line ∈ header :: lines.map later,
      LineRole.of ⟨[]⟩ line.text ≠ .classHeader ∧ LineRole.of ⟨[]⟩ line.text ≠ .enumHeader := by
    refine List.forall_mem_cons.mpr ⟨by simp [function], fun line member => ?_⟩
    rcases statements line member with role | role <;> simp [role]
  have written := contributions_of_classless (names ▸ classless) indentation
  have below : ((lines.map later).map fun line => (line, LineRole.of ⟨[]⟩ line.text)).filter
      (fun entry => entry.2.isDefinition) = [] := by
    simp only [List.filter_eq_nil_iff, List.forall_mem_map]
    intro line member
    rcases statements (later line) (List.mem_map_of_mem member) with role | role <;>
      simp [role, LineRole.isDefinition]
  have noHeading : heading (header :: lines.map later) = [] := by
    rw [heading, names, if_neg]
    rintro ⟨line, member, enumeration⟩
    exact (classless line member).2 enumeration
  rw [names, List.map_cons, List.filter_cons_of_pos (by simp [function, LineRole.isDefinition]),
    below] at written
  rw [nestingStub, noHeading, written, function]
  simp

end IsBody

/-- A file of one function, a header and statements below it, has a stub of two lines. -/
theorem generate_of_function {header below : Text} (tight : Text.Tight header)
    (oneLine : '\n' ∉ header) (uncommented : '#' ∉ header) {native : Bool}
    (function : LineRole.of ⟨[]⟩ header = .functionHeader native)
    (complete : opensSignature header = false) {unit : Nat} (body : IsBody unit (readLines below)) :
    generate (header ++ '\n' :: below) =
      .ok [functionInStub native (headerOf header), List.replicate unit ' ' ++ ellipsis] := by
  have last := Text.ne_blank_of_letter tight.last (by decide : Text.isBlank '\r')
  have lines : readLines (header ++ '\n' :: below) =
      ⟨1, 0, false, header⟩ :: (readLines below).map later := by
    rw [readLines_append oneLine, Text.dropReturn_of_ends last,
      read_of_tight tight (Text.withoutComment_of_absent uncommented)]
    rfl
  refine (generate_eq_ok_iff _ _).mpr ⟨⟨some unit⟩, ?_, ?_, ?_⟩
  · rw [lines]
    exact body.infer_eq _ rfl rfl
  · rw [lines]
    simpa [complete, later] using body.complete
  · rw [lines, body.nestingStub_eq function]
    simp [writtenLines, shownText, Indentation.step]

end PyxProject.Stub
