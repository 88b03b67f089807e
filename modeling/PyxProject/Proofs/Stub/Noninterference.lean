import Mathlib.Data.List.Forall2
import PyxProject.Proofs.Source.Lines
import PyxProject.Proofs.Source.Roles
import PyxProject.Proofs.Stub.Contributions

/-!
# What a stub does not show

Two files may differ in the text of lines that neither of their outlines keeps, and
in what follows a function header on its line. If both have a stub, it is the same
stub.

There are four ways in which a hidden text could reach a line of the stub. The names
imported from `cython` come from the whole file, but only import statements bind
names, and those are kept. The unit of the indentation and the check of signatures
see all lines, but a stub shows only the spaces. The scope stack is carried over all
lines, but a line that is not kept opens no scope.
-/

namespace PyxProject.Stub

open Source

/-- The lines of a file with their entries in its outline. -/
def annotated (content : Text) : Except Source.Error (List (Source.Line × Entry)) := do
  let lines := readLines content
  let indentation ← Indentation.infer lines
  let entries ← outline lines indentation
  return lines.zip entries

/-- Two lines, each with its entry in the outline of its own file, may differ only in
what a stub does not show. Their indentation is the same; so is the text, or neither
line is kept, or both are headers of functions and differ after the header. -/
structure Alike (first second : Source.Line × Entry) : Prop where
  spaces : first.1.spaces = second.1.spaces
  tabbed : first.1.tabbed = second.1.tabbed
  text : first.1.text = second.1.text ∨
    (first.2.isKept = false ∧ second.2.isKept = false) ∨
    (first.2.role.isFunction ∧ second.2.role.isFunction ∧
      headerOf first.1.text = headerOf second.1.text)

/-- The outline of a file is found exactly when its stub is. -/
theorem annotated_eq_ok_iff (content : Text) (pairs : List (Source.Line × Entry)) :
    annotated content = .ok pairs ↔
      ∃ indentation, Indentation.infer (readLines content) = .ok indentation ∧
        (∀ line ∈ readLines content, opensSignature line.text = false) ∧
        pairs = (readLines content).zip
          (entriesFrom (CythonNames.ofLines (readLines content)) indentation []
            (readLines content)) :=
  outlined_eq_ok_iff (readLines content) (fun _ entries => (readLines content).zip entries) pairs

/-- The role of a function header says which kind of function it is. -/
theorem role_of_isFunction {role : LineRole} (function : role.isFunction) :
    ∃ native, role = .functionHeader native := by
  cases role <;> simp_all [LineRole.isFunction]

/-- A role that the outline drops opens no scope. -/
theorem opens_eq_none_of_dropped {entry : Entry} (dropped : entry.isKept = false) :
    entry.role.opens? = none := by
  rcases entry with ⟨role, level, placement⟩
  cases role <;> simp_all [Entry.isKept, LineRole.isDefinition, LineRole.opens?]

/-- An import statement is kept. -/
theorem not_import_of_dropped {entry : Entry} (dropped : entry.isKept = false) :
    entry.role ≠ .importStatement := by
  rintro isImport
  simp [Entry.isKept, isImport, LineRole.isDefinition] at dropped

/-- What a line writes to the stub, with the role that decides about the heading. -/
def shownAs (step : Nat) (annotated : Source.Line × Entry) : Option (LineRole × List Line) :=
  if annotated.2.isKept then
    some (annotated.2.role, lineInStub step annotated.2.role annotated.1)
  else none

/-- A stub is assembled from what the lines write. -/
theorem assemble_congr {step : Nat} {first second : List Source.Line}
    {firstEntries secondEntries : List Entry}
    (same : (first.zip firstEntries).filterMap (shownAs step) =
      (second.zip secondEntries).filterMap (shownAs step)) :
    assemble step (interface first firstEntries) = assemble step (interface second secondEntries) := by
  have shown (lines : List Source.Line) (entries : List Entry) :
      (interface lines entries).map (fun kept => (kept.2, lineInStub step kept.2 kept.1)) =
        (lines.zip entries).filterMap (shownAs step) := by
    rw [interface, List.map_filterMap]
    apply List.filterMap_congr
    rintro ⟨line, entry⟩ _
    cases kept : entry.isKept <;> simp [shownAs, kept]
  have assembled (kept : List (Source.Line × LineRole)) : assemble step kept =
      let shown := kept.map fun kept => (kept.2, lineInStub step kept.2 kept.1)
      if shown.any fun line => line.1 == .enumHeader then
        ⟨0, enumHeading⟩ :: ⟨0, []⟩ :: shown.flatMap Prod.snd
      else shown.flatMap Prod.snd := by
    simp only [List.flatMap_map, List.any_map]
    rfl
  simp only [assembled, shown, same]

section Reading

variable (names : CythonNames) (indentation : Indentation)

/-- The entry of a line that is read with the given scopes open. -/
def entryIn (scopes : Scopes) (line : Source.Line) : Entry :=
  let role := LineRole.of names line.text
  let level := indentation.level line
  ⟨role, level, (scopes.pass role level).2⟩

/-- The scopes that are open after a line. -/
def scopesPast (scopes : Scopes) (line : Source.Line) : Scopes :=
  (scopes.pass (LineRole.of names line.text) (indentation.level line)).1

/-- The outline goes on with the scopes that its first line leaves open. -/
theorem zip_entriesFrom_cons (scopes : Scopes) (line : Source.Line) (rest : List Source.Line) :
    (line :: rest).zip (entriesFrom names indentation scopes (line :: rest)) =
      (line, entryIn names indentation scopes line) ::
        rest.zip (entriesFrom names indentation (scopesPast names indentation scopes line) rest) :=
  rfl

/-- The entry of a line has the role of the line. -/
theorem role_of_mem_zip {scopes : Scopes} {lines : List Source.Line} {line : Source.Line}
    {entry : Entry} (member : (line, entry) ∈ lines.zip (entriesFrom names indentation scopes lines)) :
    entry.role = LineRole.of names line.text := by
  induction lines generalizing scopes with
  | nil => cases member
  | cons first rest inductionHypothesis =>
    rw [zip_entriesFrom_cons] at member
    rcases List.mem_cons.mp member with same | later
    · obtain ⟨rfl, rfl⟩ := Prod.mk.inj same
      rfl
    · exact inductionHypothesis later

/-- Two alike lines, read with the same scopes open, leave the same scopes open and
write the same. Equal texts have equal roles, the role of a function is the role of
its header, and a line that is not kept opens no scope. -/
theorem step_of_alike (step : Nat) (scopes : Scopes) (line other : Source.Line)
    (alike : Alike (line, entryIn names indentation scopes line)
      (other, entryIn names indentation scopes other)) :
    scopesPast names indentation scopes line = scopesPast names indentation scopes other ∧
      shownAs step (line, entryIn names indentation scopes line) =
        shownAs step (other, entryIn names indentation scopes other) := by
  have sameSpaces : line.spaces = other.spaces := alike.spaces
  have sameLevel : indentation.level line = indentation.level other := by
    simp only [Indentation.level, sameSpaces]
  rcases alike.text with sameText | ⟨dropped, otherDropped⟩ | ⟨function, otherFunction, sameHeader⟩
  · have sameText : line.text = other.text := sameText
    have sameEntry : entryIn names indentation scopes line =
        entryIn names indentation scopes other := by
      simp only [entryIn, sameText, sameLevel]
    refine ⟨by simp only [scopesPast, sameText, sameLevel], ?_⟩
    simp only [shownAs, sameEntry, lineInStub, sameText, sameSpaces]
  · have closes : (LineRole.of names line.text).opens? = none := opens_eq_none_of_dropped dropped
    have otherCloses : (LineRole.of names other.text).opens? = none :=
      opens_eq_none_of_dropped otherDropped
    refine ⟨by simp only [scopesPast, Scopes.pass, Scopes.enter, closes, otherCloses, sameLevel], ?_⟩
    simp only at dropped otherDropped
    simp [shownAs, dropped, otherDropped]
  · obtain ⟨native, role⟩ := role_of_isFunction function
    obtain ⟨_, otherRole⟩ := role_of_isFunction otherFunction
    have header : LineRole.ofHeader names (headerOf line.text) = .functionHeader native :=
      ofHeader_headerOf role
    have sameHeader : headerOf line.text = headerOf other.text := sameHeader
    have sameRole : LineRole.of names line.text = LineRole.of names other.text := by
      have otherHeader := ofHeader_headerOf otherRole
      rw [← sameHeader, header] at otherHeader
      exact role.trans (otherHeader.trans otherRole.symm)
    have sameEntry : entryIn names indentation scopes line =
        entryIn names indentation scopes other := by
      simp only [entryIn, sameRole, sameLevel]
    refine ⟨by simp only [scopesPast, sameRole, sameLevel], ?_⟩
    have isFunction : (entryIn names indentation scopes other).role = .functionHeader native :=
      sameEntry ▸ role
    simp only [shownAs, sameEntry, isFunction, lineInStub, sameHeader, sameSpaces]

/-- Alike lines of two files that import the same names write the same lines, when
they are read with the same scopes open. Each step leaves the scopes the same. -/
theorem shown_eq_of_alike (step : Nat) (scopes : Scopes) (first second : List Source.Line)
    (alike : List.Forall₂ Alike (first.zip (entriesFrom names indentation scopes first))
      (second.zip (entriesFrom names indentation scopes second))) :
    (first.zip (entriesFrom names indentation scopes first)).filterMap (shownAs step) =
      (second.zip (entriesFrom names indentation scopes second)).filterMap (shownAs step) := by
  induction first generalizing second scopes with
  | nil =>
    cases second with
    | nil => rfl
    | cons line rest => cases alike
  | cons line rest inductionHypothesis =>
    cases second with
    | nil => cases alike
    | cons other others =>
      rw [zip_entriesFrom_cons, zip_entriesFrom_cons] at alike ⊢
      obtain ⟨head, remaining⟩ := List.forall₂_cons.mp alike
      obtain ⟨samePast, sameShown⟩ := step_of_alike names indentation step scopes line other head
      rw [samePast] at remaining ⊢
      rw [List.filterMap_cons, List.filterMap_cons, sameShown,
        inductionHypothesis _ others remaining]

end Reading

/-- The outline of a file gives a line of the file the role that the line has in it. -/
theorem role_of_mem_annotated {content : Text} {pairs : List (Source.Line × Entry)}
    (found : annotated content = .ok pairs) {line : Source.Line} {entry : Entry}
    (member : (line, entry) ∈ pairs) :
    entry.role = LineRole.of (CythonNames.ofLines (readLines content)) line.text := by
  obtain ⟨indentation, _, _, rfl⟩ := (annotated_eq_ok_iff content pairs).mp found
  exact role_of_mem_zip _ indentation member

/-- Alike lines bind the same names, whatever is open and imported where they are read.
A line that is not kept, and the header of a function, bind none. -/
theorem boundNames_eq_of_alike {firstNames secondNames : CythonNames}
    {first second : Source.Line × Entry} (alike : Alike first second)
    (firstRole : first.2.role = LineRole.of firstNames first.1.text)
    (secondRole : second.2.role = LineRole.of secondNames second.1.text) :
    boundNames first.1.text = boundNames second.1.text := by
  have none {names : CythonNames} {line : Source.Line × Entry}
      (role : line.2.role = LineRole.of names line.1.text)
      (noImport : line.2.role ≠ .importStatement) : boundNames line.1.text = [] := by
    rw [role] at noImport
    exact boundNames_eq_nil noImport
  rcases alike.text with same | ⟨dropped, otherDropped⟩ | ⟨function, otherFunction, _⟩
  · rw [same]
  · rw [none firstRole (not_import_of_dropped dropped),
      none secondRole (not_import_of_dropped otherDropped)]
  · have notImport {role : LineRole} (function : role.isFunction) : role ≠ .importStatement := by
      rintro rfl
      cases function
    rw [none firstRole (notImport function), none secondRole (notImport otherFunction)]

/-- Two files of alike lines have the same spaces and bind the same names. Nothing is
assumed about the names and scopes with which their outlines were made. -/
theorem shared_of_alike (firstNames secondNames : CythonNames)
    (firstIndentation secondIndentation : Indentation) (firstScopes secondScopes : Scopes)
    (first second : List Source.Line)
    (alike : List.Forall₂ Alike
      (first.zip (entriesFrom firstNames firstIndentation firstScopes first))
      (second.zip (entriesFrom secondNames secondIndentation secondScopes second))) :
    first.map Source.Line.spaces = second.map Source.Line.spaces ∧
      (first.flatMap fun line => boundNames line.text) =
        second.flatMap fun line => boundNames line.text := by
  induction first generalizing second firstScopes secondScopes with
  | nil =>
    cases second with
    | nil => exact ⟨rfl, rfl⟩
    | cons line rest => cases alike
  | cons line rest inductionHypothesis =>
    cases second with
    | nil => cases alike
    | cons other others =>
      rw [zip_entriesFrom_cons, zip_entriesFrom_cons] at alike
      obtain ⟨head, remaining⟩ := List.forall₂_cons.mp alike
      obtain ⟨sameSpaces, sameNames⟩ := inductionHypothesis _ _ others remaining
      have headSpaces : line.spaces = other.spaces := head.spaces
      have headNames : boundNames line.text = boundNames other.text :=
        boundNames_eq_of_alike head rfl rfl
      exact ⟨by rw [List.map_cons, List.map_cons, headSpaces, sameSpaces],
        by rw [List.flatMap_cons, List.flatMap_cons, headNames, sameNames]⟩

/-- A stub shows nothing of a line that is not kept, nor of what follows a function
header on its line: two files that are alike, line by line and by their own outlines,
have the same stub if both have one.

The two files bind the same names and have the same unit, so both outlines are made
with the same names and levels, and step by step with the same scopes. -/
theorem stub_eq_of_alike (first second : Text)
    (firstLines secondLines : List (Source.Line × Entry)) (firstStub secondStub : List Text)
    (firstRead : annotated first = .ok firstLines)
    (secondRead : annotated second = .ok secondLines)
    (alike : List.Forall₂ Alike firstLines secondLines)
    (firstDone : generate first = .ok firstStub) (secondDone : generate second = .ok secondStub) :
    firstStub = secondStub := by
  obtain ⟨indentation, accepted, _, rfl⟩ := (annotated_eq_ok_iff first firstLines).mp firstRead
  obtain ⟨other, otherAccepted, _, rfl⟩ := (annotated_eq_ok_iff second secondLines).mp secondRead
  obtain ⟨_, alsoAccepted, _, rfl⟩ := (generate_eq_ok_iff first firstStub).mp firstDone
  obtain ⟨_, otherAlsoAccepted, _, rfl⟩ := (generate_eq_ok_iff second secondStub).mp secondDone
  obtain rfl := Except.ok.inj (accepted.symm.trans alsoAccepted)
  obtain rfl := Except.ok.inj (otherAccepted.symm.trans otherAlsoAccepted)
  obtain ⟨sameSpaces, sameNames⟩ := shared_of_alike _ _ _ _ _ _ _ _ alike
  have sameUnit : indentation = other := by
    rw [unit_of_infer accepted, unit_of_infer otherAccepted, smallestIndent?, smallestIndent?,
      sameSpaces]
  have sameBound : CythonNames.ofLines (readLines first) = CythonNames.ofLines (readLines second) :=
    congrArg CythonNames.mk sameNames
  subst sameUnit
  rw [← sameBound] at alike
  rw [← written_assemble_eq, ← written_assemble_eq, ← interface_eq_contributions,
    ← interface_eq_contributions, ← sameBound]
  exact congrArg (List.map Line.written)
    (assemble_congr (shown_eq_of_alike _ _ _ _ _ _ alike))

/-- Another body on the line of a function, another block header and other contents of
the block leave the stub as it is. -/
theorem bodies_and_blocks_are_hidden :
    let first : Text := "def f(): return 1\nif D:\n  x = 1\n"
    let second : Text := "def f(): g(2)\nwhile E:\n  print(3)\n"
    let stub : List Text := ["def f():", "  ..."]
    generate first = .ok stub ∧ generate second = .ok stub := by
  have firstRead : annotated "def f(): return 1\nif D:\n  x = 1\n" = .ok
      [(⟨1, 0, false, "def f(): return 1"⟩, ⟨.functionHeader false, 0, ⟨false, false⟩⟩),
       (⟨2, 0, false, "if D:"⟩, ⟨.blockHeader, 0, ⟨false, false⟩⟩),
       (⟨3, 2, false, "x = 1"⟩, ⟨.statement, 1, ⟨false, false⟩⟩)] := rfl
  have secondRead : annotated "def f(): g(2)\nwhile E:\n  print(3)\n" = .ok
      [(⟨1, 0, false, "def f(): g(2)"⟩, ⟨.functionHeader false, 0, ⟨false, false⟩⟩),
       (⟨2, 0, false, "while E:"⟩, ⟨.blockHeader, 0, ⟨false, false⟩⟩),
       (⟨3, 2, false, "print(3)"⟩, ⟨.statement, 1, ⟨false, false⟩⟩)] := rfl
  have firstDone : generate "def f(): return 1\nif D:\n  x = 1\n" =
      .ok ["def f():", "  ..."] := rfl
  obtain ⟨secondStub, secondDone⟩ :
      ∃ stub, generate "def f(): g(2)\nwhile E:\n  print(3)\n" = .ok stub := ⟨_, rfl⟩
  have same := stub_eq_of_alike _ _ _ _ _ _ firstRead secondRead
    (.cons ⟨rfl, rfl, .inr (.inr ⟨rfl, rfl, rfl⟩)⟩ <|
      .cons ⟨rfl, rfl, .inr (.inl ⟨rfl, rfl⟩)⟩ <| .cons ⟨rfl, rfl, .inr (.inl ⟨rfl, rfl⟩)⟩ .nil)
    firstDone secondDone
  exact ⟨firstDone, same ▸ secondDone⟩

end PyxProject.Stub
