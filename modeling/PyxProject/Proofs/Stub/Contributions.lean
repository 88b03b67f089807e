import Mathlib.Data.List.Basic
import PyxProject.Proofs.Source.Nesting
import PyxProject.Stub.Generation

/-!
# Stubs by lexical nesting

A file is read here without a scope stack. Each position has a role and a level, the
lines that contribute are chosen by `Source.Contributes`, and each writes one line, a
function header a second one with the ellipsis.

A run succeeds exactly when the indentation is accepted and no line leaves a
signature open, and its result is then assembled from the contributing lines
(`generate_eq_ok_iff`). Later statements about stubs start from that description and
do not open the outline again.
-/

namespace PyxProject.Stub

open Source

/-- The role of the line at a position, by the names that the whole file imports. A
position past the end is never asked for. -/
def roleAt (lines : List Source.Line) (position : Nat) : LineRole :=
  match lines[position]? with
  | some line => LineRole.of (CythonNames.ofLines lines) line.text
  | none => .statement

/-- The level of the line at a position. A position past the end is never asked for. -/
def levelAt (lines : List Source.Line) (indentation : Indentation) (position : Nat) : Nat :=
  match lines[position]? with
  | some line => indentation.level line
  | none => 0

/-- The role at a position is that of the line there. -/
theorem roleAt_of_located {lines : List Source.Line} {position : Nat} {line : Source.Line}
    (located : lines[position]? = some line) :
    roleAt lines position = LineRole.of (CythonNames.ofLines lines) line.text := by
  simp only [roleAt, located]

/-- The level at a position is that of the line there. -/
theorem levelAt_of_located {lines : List Source.Line} {position : Nat} {line : Source.Line}
    (located : lines[position]? = some line) (indentation : Indentation) :
    levelAt lines indentation position = indentation.level line := by
  simp only [levelAt, located]

/-- The lines that contribute to the stub, with their roles, in source order. -/
def contributions (lines : List Source.Line) (indentation : Indentation) :
    List (Source.Line × LineRole) :=
  lines.zipIdx.filterMap fun (line, position) =>
    if Contributes (roleAt lines) (levelAt lines indentation) position then
      some (line, roleAt lines position)
    else none

/-- The text of a contributing line in the stub. -/
def shownText (role : LineRole) (text : Text) : Text :=
  match role with
  | .importStatement => importInStub text
  | .classHeader => classInStub text
  | .enumHeader => enumInStub text
  | .functionHeader native => functionInStub native (headerOf text)
  | .decorator | .statement | .directive | .blockHeader => Text.squeeze text

/-- The lines that a contributing line writes: its text behind its own indentation,
and for a function the ellipsis one step deeper. -/
def writtenLines (step : Nat) (line : Source.Line) (role : LineRole) : List Text :=
  let header := List.replicate line.spaces ' ' ++ shownText role line.text
  match role with
  | .functionHeader _ => [header, List.replicate (line.spaces + step) ' ' ++ ellipsis]
  | _ => [header]

/-- What a stub starts with: the import that enumerations need, and an empty line, if
the file has an enumeration anywhere. -/
def heading (lines : List Source.Line) : List Text :=
  if ∃ line ∈ lines, LineRole.of (CythonNames.ofLines lines) line.text = .enumHeader then
    [enumHeading, []]
  else []

/-- The stub of a file by lexical nesting. -/
def nestingStub (lines : List Source.Line) (indentation : Indentation) : List Text :=
  heading lines ++
    (contributions lines indentation).flatMap fun (line, role) =>
      writtenLines indentation.step line role

/-- The entries of the remaining lines, read with the scopes that the earlier lines
have left open, are the ones by position. -/
theorem entriesFrom_eq_map (names : CythonNames) (indentation : Indentation)
    (role : Nat → LineRole) (level : Nat → Nat) (rest : List Source.Line) (offset : Nat)
    (agrees : ∀ index line, rest[index]? = some line →
      role (offset + index) = LineRole.of names line.text ∧
        level (offset + index) = indentation.level line) :
    entriesFrom names indentation (scopesBefore role level offset) rest =
      (rest.zipIdx offset).map fun (_, position) =>
        ⟨role position, level position,
          ((scopesBefore role level position).close (level position)).placement
            (level position)⟩ := by
  induction rest generalizing offset with
  | nil => rfl
  | cons line rest inductionHypothesis =>
    obtain ⟨sameRole, sameLevel⟩ := agrees 0 line rfl
    have agreesLater : ∀ index later, rest[index]? = some later →
        role (offset + 1 + index) = LineRole.of names later.text ∧
          level (offset + 1 + index) = indentation.level later := by
      intro index later found
      have shifted : offset + 1 + index = offset + (index + 1) := by omega
      rw [shifted]
      exact agrees (index + 1) later found
    have remaining := inductionHypothesis (offset + 1) agreesLater
    rw [Nat.add_zero] at sameRole sameLevel
    simp only [entriesFrom, List.zipIdx_cons, List.map_cons, ← remaining, ← sameRole, ← sameLevel]
    rfl

/-- The lines that the outline keeps are the contributing lines. -/
theorem interface_eq_contributions (lines : List Source.Line) (indentation : Indentation) :
    interface lines (entriesFrom (CythonNames.ofLines lines) indentation [] lines) =
      contributions lines indentation := by
  have agrees : ∀ index line, lines[index]? = some line →
      roleAt lines (0 + index) = LineRole.of (CythonNames.ofLines lines) line.text ∧
        levelAt lines indentation (0 + index) = indentation.level line := by
    intro index line found
    rw [Nat.zero_add]
    exact ⟨roleAt_of_located found, levelAt_of_located found indentation⟩
  have entries := entriesFrom_eq_map (CythonNames.ofLines lines) indentation (roleAt lines)
    (levelAt lines indentation) lines 0 agrees
  have paired : lines = lines.zipIdx.map Prod.fst := (List.zipIdx_map_fst 0 lines).symm
  have kept (position : Nat) :=
    isKept_iff_contributes (roleAt lines) (levelAt lines indentation) position
  have empty : scopesBefore (roleAt lines) (levelAt lines indentation) 0 = [] := rfl
  rw [interface, ← empty, entries]
  nth_rewrite 1 [paired]
  rw [List.zip_map', List.filterMap_map, contributions]
  apply List.filterMap_congr
  rintro ⟨line, position⟩ _
  simp only [Function.comp_apply, kept position]

/-- A contributing line is a line of the file, with its own role. -/
theorem role_of_mem_contributions {lines : List Source.Line} {indentation : Indentation}
    {line : Source.Line} {role : LineRole} (member : (line, role) ∈ contributions lines indentation) :
    line ∈ lines ∧ role = LineRole.of (CythonNames.ofLines lines) line.text ∧
      role ≠ .directive ∧ role ≠ .blockHeader := by
  obtain ⟨⟨found, position⟩, inside, chosen⟩ := List.mem_filterMap.mp member
  have located : lines[position]? = some found := List.mem_zipIdx_iff_getElem?.mp inside
  by_cases contributes : Contributes (roleAt lines) (levelAt lines indentation) position
  · simp only [contributes, if_true, Option.some.injEq, Prod.mk.injEq] at chosen
    obtain ⟨rfl, rfl⟩ := chosen
    refine ⟨List.mem_of_getElem? located, roleAt_of_located located, ?_, ?_⟩
    · intro directive
      simp [Contributes, directive, LineRole.isDefinition] at contributes
    · intro block
      simp [Contributes, block, LineRole.isDefinition] at contributes
  · simp [contributes] at chosen

/-- A line whose role is a definition contributes wherever it stands. -/
theorem mem_contributions_of_isDefinition {lines : List Source.Line} {indentation : Indentation}
    {line : Source.Line} (member : line ∈ lines)
    (definition : (LineRole.of (CythonNames.ofLines lines) line.text).isDefinition) :
    (line, LineRole.of (CythonNames.ofLines lines) line.text) ∈
      contributions lines indentation := by
  obtain ⟨position, located⟩ := List.mem_iff_getElem?.mp member
  have role := roleAt_of_located located
  have contributes : Contributes (roleAt lines) (levelAt lines indentation) position :=
    .inl (role ▸ definition)
  refine List.mem_filterMap.mpr ⟨(line, position), List.mem_zipIdx_iff_getElem?.mpr located, ?_⟩
  simp [contributes, role]

/-- In a file without classes and enumerations only the definitions contribute. -/
theorem contributions_of_classless {lines : List Source.Line}
    (classless : ∀ line ∈ lines, LineRole.of (CythonNames.ofLines lines) line.text ≠ .classHeader ∧
      LineRole.of (CythonNames.ofLines lines) line.text ≠ .enumHeader)
    (indentation : Indentation) :
    contributions lines indentation =
      (lines.map fun line => (line, LineRole.of (CythonNames.ofLines lines) line.text)).filter
        fun entry => entry.2.isDefinition := by
  have noClass (position : Nat) : ¬ InClassBody (roleAt lines) (levelAt lines indentation) position := by
    rintro ⟨outer, _, _, kind, _⟩
    rw [roleAt] at kind
    cases found : lines[outer]? with
    | none => simp [found] at kind
    | some line =>
      simp only [found] at kind
      have other := classless line (List.mem_of_getElem? found)
      exact kind.elim other.1 other.2
  have unnumbered : lines = lines.zipIdx.map Prod.fst := (List.zipIdx_map_fst 0 lines).symm
  nth_rewrite 3 [unnumbered]
  rw [contributions, List.map_map, ← List.filterMap_eq_filter, List.filterMap_map]
  apply List.filterMap_congr
  rintro ⟨line, position⟩ member
  have role := roleAt_of_located (List.mem_zipIdx_iff_getElem?.mp member)
  simp [Contributes, noClass, role, Option.guard]

/-- A change of single lines that touches neither the names that a file binds nor the role and the
level of any line, if the indentation is changed with the lines. -/
structure KeepsShape (change : Source.Line → Source.Line) (lines : List Source.Line)
    (indentation changed : Indentation) : Prop where
  names : CythonNames.ofLines (lines.map change) = CythonNames.ofLines lines
  roles : ∀ line ∈ lines, LineRole.of (CythonNames.ofLines lines) (change line).text =
    LineRole.of (CythonNames.ofLines lines) line.text
  levels : ∀ line ∈ lines, changed.level (change line) = indentation.level line

namespace KeepsShape

variable {change : Source.Line → Source.Line} {lines : List Source.Line}
  {indentation changed : Indentation} (keeps : KeepsShape change lines indentation changed)
include keeps

/-- A change that keeps the shape keeps the role at every position. -/
theorem roleAt_eq : roleAt (lines.map change) = roleAt lines := by
  funext position
  rw [roleAt, roleAt, List.getElem?_map, keeps.names]
  cases located : lines[position]? with
  | none => rfl
  | some line => exact keeps.roles line (List.mem_of_getElem? located)

/-- A change that keeps the shape keeps the level at every position. -/
theorem levelAt_eq : levelAt (lines.map change) changed = levelAt lines indentation := by
  funext position
  rw [levelAt, levelAt, List.getElem?_map]
  cases located : lines[position]? with
  | none => rfl
  | some line => exact keeps.levels line (List.mem_of_getElem? located)

/-- The contributing lines of a changed file are the contributing lines, changed. -/
theorem contributions_eq : contributions (lines.map change) changed =
    (contributions lines indentation).map fun entry => (change entry.1, entry.2) := by
  rw [contributions, contributions, List.zipIdx_map, List.filterMap_map, List.map_filterMap]
  apply List.filterMap_congr
  rintro ⟨line, position⟩ _
  simp only [Function.comp_apply, Prod.map_apply, id_eq, keeps.roleAt_eq, keeps.levelAt_eq]
  by_cases contributes : Contributes (roleAt lines) (levelAt lines indentation) position
  · simp only [contributes, if_true, Option.map_some]
  · simp only [contributes, if_false, Option.map_none]

/-- A change that keeps the shape keeps the heading of the stub. -/
theorem heading_eq : heading (lines.map change) = heading lines := by
  have enumerations : (∃ line ∈ lines.map change,
      LineRole.of (CythonNames.ofLines lines) line.text = .enumHeader) ↔
        ∃ line ∈ lines, LineRole.of (CythonNames.ofLines lines) line.text = .enumHeader := by
    constructor
    · rintro ⟨_, inside, isEnum⟩
      obtain ⟨line, member, rfl⟩ := List.mem_map.mp inside
      exact ⟨line, member, (keeps.roles line member).symm.trans isEnum⟩
    · rintro ⟨line, member, isEnum⟩
      exact ⟨change line, List.mem_map_of_mem member, (keeps.roles line member).trans isEnum⟩
  simp only [heading, keeps.names, enumerations]

/-- The stub of a changed file has the heading of the file, and what its contributing lines write
when they are changed. -/
theorem nestingStub_eq : nestingStub (lines.map change) changed =
    heading lines ++ (contributions lines indentation).flatMap fun (line, role) =>
      writtenLines changed.step (change line) role := by
  rw [nestingStub, keeps.heading_eq, keeps.contributions_eq, List.flatMap_map]

end KeepsShape

/-- What the lines of a file from a position on write. -/
def writtenFrom (lines : List Source.Line) (indentation : Indentation) (position : Nat)
    (rest : List Source.Line) : List Text :=
  ((rest.zipIdx position).filterMap fun (line, place) =>
    if Contributes (roleAt lines) (levelAt lines indentation) place then
      some (line, roleAt lines place)
    else none).flatMap fun (line, role) => writtenLines indentation.step line role

/-- A contributing line comes before what the later lines write. -/
theorem writtenFrom_of_contributes {lines : List Source.Line} {indentation : Indentation}
    {position : Nat} (contributes : Contributes (roleAt lines) (levelAt lines indentation) position)
    (line : Source.Line) (rest : List Source.Line) :
    writtenFrom lines indentation position (line :: rest) =
      writtenLines indentation.step line (roleAt lines position) ++
        writtenFrom lines indentation (position + 1) rest := by
  simp [writtenFrom, contributes]

/-- A line that does not contribute writes nothing. -/
theorem writtenFrom_of_hidden {lines : List Source.Line} {indentation : Indentation}
    {position : Nat} (hidden : ¬ Contributes (roleAt lines) (levelAt lines indentation) position)
    (line : Source.Line) (rest : List Source.Line) :
    writtenFrom lines indentation position (line :: rest) =
      writtenFrom lines indentation (position + 1) rest := by
  simp [writtenFrom, hidden]

/-- The assembled stub of the contributing lines, written out, is the stub by nesting. -/
theorem written_assemble_eq (lines : List Source.Line) (indentation : Indentation) :
    (assemble indentation.step (contributions lines indentation)).map Line.written =
      nestingStub lines indentation := by
  have bodies : ((contributions lines indentation).flatMap fun (line, role) =>
        lineInStub indentation.step role line).map Line.written =
      (contributions lines indentation).flatMap fun (line, role) =>
        writtenLines indentation.step line role := by
    rw [List.map_flatMap]
    apply List.flatMap_congr
    rintro ⟨line, role⟩ member
    obtain ⟨_, _, notDirective, notBlock⟩ := role_of_mem_contributions member
    cases role with
    | directive => exact absurd rfl notDirective
    | blockHeader => exact absurd rfl notBlock
    | _ => simp only [lineInStub, writtenLines, shownText, Line.written, List.map_cons, List.map_nil]
  have enumerations : ((contributions lines indentation).any fun (_, role) => role == .enumHeader) ↔
      ∃ line ∈ lines, LineRole.of (CythonNames.ofLines lines) line.text = .enumHeader := by
    simp only [List.any_eq_true, beq_iff_eq]
    constructor
    · rintro ⟨⟨line, role⟩, member, rfl⟩
      obtain ⟨inside, same, _⟩ := role_of_mem_contributions member
      exact ⟨line, inside, same.symm⟩
    · rintro ⟨line, member, isEnum⟩
      have definition : (LineRole.of (CythonNames.ofLines lines) line.text).isDefinition := by
        rw [isEnum]
        rfl
      exact ⟨_, mem_contributions_of_isDefinition member definition, isEnum⟩
  simp only [assemble, enumerations, nestingStub, heading]
  split
  · simp only [List.map_cons, bodies]
    rfl
  · simpa using bodies

/-- Whatever is made of the outline of a file, it is made exactly when the indentation
of the file is accepted and no line leaves a signature open. -/
theorem outlined_eq_ok_iff {α : Type} (lines : List Source.Line)
    (finish : Indentation → List Entry → α) (result : α) :
    (do let indentation ← Indentation.infer lines
        let entries ← outline lines indentation
        return finish indentation entries) = .ok result ↔
      ∃ indentation, Indentation.infer lines = .ok indentation ∧
        (∀ line ∈ lines, opensSignature line.text = false) ∧
        result = finish indentation
          (entriesFrom (CythonNames.ofLines lines) indentation [] lines) := by
  simp only [outline, bind, Except.bind, pure, Except.pure]
  cases accepted : Indentation.infer lines with
  | error problem => simp
  | ok indentation =>
    cases search : lines.find? fun line => opensSignature line.text with
    | some line =>
      have left : opensSignature line.text := by simpa using List.find?_some search
      have inside : line ∈ lines := List.mem_of_find?_eq_some search
      simp only [reduceCtorEq, false_iff]
      rintro ⟨_, _, closed, _⟩
      simp [closed line inside] at left
    | none =>
      have closed : ∀ line ∈ lines, opensSignature line.text = false := by
        simpa using List.find?_eq_none.mp search
      simp only [Except.ok.injEq]
      constructor
      · intro same
        exact ⟨indentation, rfl, closed, same.symm⟩
      · rintro ⟨other, rfl, _, same⟩
        exact same.symm

/-- A run gives a stub exactly when the indentation of the file is accepted and no
line leaves a signature open. The stub is then the one by nesting. -/
theorem generate_eq_ok_iff (content : Text) (stub : List Text) :
    generate content = .ok stub ↔
      ∃ indentation, Indentation.infer (readLines content) = .ok indentation ∧
        (∀ line ∈ readLines content, opensSignature line.text = false) ∧
        stub = nestingStub (readLines content) indentation := by
  have run := outlined_eq_ok_iff (readLines content) (fun indentation entries =>
    (assemble indentation.step (interface (readLines content) entries)).map Line.written) stub
  simp only [interface_eq_contributions, written_assemble_eq] at run
  rw [← run]
  simp only [generate, stubLines, bind_assoc, pure_bind]

/-- The condition on signatures as a test that can be run. -/
theorem closed_of_all {lines : List Source.Line}
    (checked : lines.all (fun line => !opensSignature line.text) = true) :
    ∀ line ∈ lines, opensSignature line.text = false := by
  intro line member
  simpa using List.all_eq_true.mp checked line member

/-- A file with accepted indentation and without open signatures has a stub, and that
stub is the one by lexical nesting: no order of headers, statements, skipped levels
and ragged dedents makes the scope stack and the positions disagree. -/
theorem generate_eq_nestingStub (content : Text) (indentation : Indentation)
    (accepted : Indentation.infer (readLines content) = .ok indentation)
    (closed : ∀ line ∈ readLines content, opensSignature line.text = false) :
    generate content = .ok (nestingStub (readLines content) indentation) :=
  (generate_eq_ok_iff content _).mpr ⟨indentation, accepted, closed, rfl⟩

/-- A class in a function in a class, a statement two levels below its class and a
statement after a dedent: only the statements directly in a class body are written. -/
theorem nested_classes_by_nesting :
    let content : Text := "class A:\n  def f(self):\n    class B:\n      b = 1\n" ++
      "        c = 2\n    d = 3\n  e = 4\nf = 5\n"
    Indentation.infer (readLines content) = .ok ⟨some 2⟩ ∧
      generate content = .ok (nestingStub (readLines content) ⟨some 2⟩) ∧
      nestingStub (readLines content) ⟨some 2⟩ =
        ["class A:", "  def f(self):", "    ...", "    class B:", "      b = 1", "  e = 4"] :=
  ⟨rfl, generate_eq_nestingStub _ _ rfl (closed_of_all rfl), rfl⟩

end PyxProject.Stub
