import PyxProject.Project.StubFile
import PyxProject.Proofs.Files.Walks
import PyxProject.Proofs.Project.Actions
import PyxProject.Proofs.Stub.LineEnds

/-!
# Stub files are written all or nothing

What is written, and where, is known before anything is changed (`plannedStub`), and then
one entry of the tree is put (`writeStub_eq`). So a stub that cannot be written leaves the
tree as it was. A stub that is written is read back line by line as it was generated, and
everything else stays (`produceStub_all_or_nothing`).
-/

namespace PyxProject.Project

open Files

/-- The location at which a file that is prepared beside a path takes its place. -/
def replacedPlace (tree : FileTree) (directory path : FilePath) (nonce : Text) :
    Except Fault Location :=
  let staged := (directory.join (stagingDirectory path)).join ⟨".tmp" ++ nonce⟩
  match target tree directory staged with
  | .error fault => .error (.atPath fault staged)
  | .ok _ =>
    if path.text.contains (Char.ofNat 0) then .error .invalidArgument
    else replaceable tree directory path

/-- Replacing the content of a file puts one file into the tree, or leaves it as it is. -/
theorem replaceContent_eq (tree : FileTree) (directory path : FilePath) (nonce : Text)
    (content : ByteArray) :
    replaceContent tree directory path nonce content =
      (replacedPlace tree directory path nonce).map fun location =>
        tree.put location (.file content) := by
  simp only [replaceContent, replacedPlace]
  cases target tree directory ((directory.join (stagingDirectory path)).join ⟨".tmp" ++ nonce⟩) with
  | error fault => rfl
  | ok named =>
    by_cases nul : path.text.contains (Char.ofNat 0) = true
    · simp only [nul, if_true]
      rfl
    · simp only [nul]
      cases replaceable tree directory path <;> rfl

/-- The location of the stub of a source that is to be written to a path, and the lines of
the stub. -/
def plannedStub (tree : FileTree) (host : Host) (source destination : FilePath) :
    Except StubFailure (Location × List Text) := do
  let content ← (readText tree host.directory source).mapError (.read source)
  let stub ← (Stub.generate content).mapError (.content source)
  let location ←
    (replacedPlace tree host.directory destination host.nonce).mapError (.write destination)
  return (location, stub)

/-- The file that holds a stub. -/
def stubNode (stub : List Text) : Node := .file (encodeText (Stub.render stub))

/-- Writing a stub puts the file that was planned, and counts its lines. -/
theorem writeStub_eq (tree : FileTree) (host : Host) (source destination : FilePath) :
    writeStub tree host source destination =
      (plannedStub tree host source destination).map fun planned =>
        (tree.put planned.1 (stubNode planned.2), planned.2.length) := by
  simp only [writeStub, plannedStub]
  cases readText tree host.directory source with
  | error fault => rfl
  | ok content =>
    simp only [Except.mapError, bind, Except.bind]
    cases Stub.generate content with
    | error error => rfl
    | ok stub =>
      simp only [replaceContent_eq]
      cases replacedPlace tree host.directory destination host.nonce <;> rfl

/-- Producing a stub never fails, and changes the tree only by putting the stub that was
planned. -/
theorem produceStub_performed (host : Host) (session : Session) (source destination : FilePath) :
    ∃ after, (produceStub source destination).perform host session =
        (.ok ((plannedStub session.tree host source destination).map fun _ => ()), after) ∧
      after.input = session.input ∧
      after.tree = match plannedStub session.tree host source destination with
        | .ok planned => session.tree.put planned.1 (stubNode planned.2)
        | .error _ => session.tree := by
  have talks : Talks ((sourceNotes session.tree host.directory source).forM fun note =>
      report note.message) := talks_forM fun note _ => talks_report note.message
  obtain ⟨noted, performed, alike⟩ := talks host session
  simp only [produceStub, perform_bind, perform_inspect, performed, perform_get, perform_read,
    alike.tree, writeStub_eq]
  cases plannedStub session.tree host source destination with
  | error failure => exact ⟨noted, rfl, alike.input, alike.tree⟩
  | ok planned =>
    simp only [Except.map, perform_bind, perform_modify]
    obtain ⟨after, reported, alikeAfter⟩ := talks_report
      ("wrote " ++ destination.toString ++ s!" ({planned.2.length} lines)") host
      { noted with tree := session.tree.put planned.1 (stubNode planned.2) }
    rw [reported]
    exact ⟨after, rfl, alikeAfter.input.trans alike.input, alikeAfter.tree⟩

/-- The text of a file that was encoded is the text that was encoded. -/
theorem fromUTF8?_encodeText (text : Text) :
    String.fromUTF8? (encodeText text) = some (String.ofList text) := by
  simp only [encodeText, String.fromUTF8?, String.toUTF8_eq_toByteArray,
    dif_pos (String.ofList text).isValidUTF8]
  rfl

/-- A path that leads to a file of encoded text is read as that text. -/
theorem readText_of_resolve {tree : FileTree} {directory path : FilePath} {location : Location}
    {text : Text} {executable : Bool} (resolved : resolve tree directory path = .ok location)
    (held : tree.get? location = some (.file (encodeText text) executable)) :
    readText tree directory path = .ok text := by
  simp only [readText, readBytes, resolved, held, bind, Except.bind, pure, Except.pure,
    fromUTF8?_encodeText, String.toList_ofList]

/-- A file takes the place of an entry that the path names and that is no directory. -/
theorem named_of_replacedPlace {tree : FileTree} {directory path : FilePath} {nonce : Text}
    {location : Location} (placed : replacedPlace tree directory path nonce = .ok location) :
    ∃ parent name, target tree directory path = .ok (.entry parent name false) ∧
      location = parent ++ [name] ∧ ¬tree.holdsDirectory location := by
  simp only [replacedPlace] at placed
  split at placed
  · cases placed
  split at placed
  · cases placed
  simp only [replaceable, bind, Except.bind] at placed
  split at placed
  · cases placed
  next named =>
    split at placed
    · cases placed
    · next parent name slash =>
      cases slash with
      | true => cases placed
      | false =>
        simp only [Bool.false_eq_true, if_false] at placed
        split at placed
        · cases placed
        · next noDirectory =>
          cases placed
          exact ⟨parent, name, named, rfl, noDirectory⟩

/-- Why the stub of a source is not written: the source cannot be read, it is refused, or
the file cannot be written. Only a refusal is laid to the source. -/
inductive Refusal (tree : FileTree) (host : Host) (source destination : FilePath) :
    StubFailure → Prop
  | unread {fault : Fault} (failed : readText tree host.directory source = .error fault) :
    Refusal tree host source destination (.read source fault)
  | refused {content : Text} {error : Source.Error}
    (read : readText tree host.directory source = .ok content)
    (failed : Stub.generate content = .error error) :
    Refusal tree host source destination (.content source error)
  | unwritten {content : Text} {stub : List Text} {fault : Fault}
    (read : readText tree host.directory source = .ok content)
    (generated : Stub.generate content = .ok stub)
    (failed : replaceContent tree host.directory destination host.nonce
      (encodeText (Stub.render stub)) = .error fault) :
    Refusal tree host source destination (.write destination fault)

/-- A stub is planned exactly if all three parts succeed. -/
theorem plannedStub_spec (tree : FileTree) (host : Host) (source destination : FilePath) :
    match plannedStub tree host source destination with
    | .error failure => Refusal tree host source destination failure
    | .ok planned => ∃ content, readText tree host.directory source = .ok content ∧
        Stub.generate content = .ok planned.2 ∧
        replacedPlace tree host.directory destination host.nonce = .ok planned.1 := by
  simp only [plannedStub]
  cases read : readText tree host.directory source with
  | error fault => exact .unread read
  | ok content =>
    simp only [Except.mapError, bind, Except.bind]
    cases generated : Stub.generate content with
    | error error => exact .refused read generated
    | ok stub =>
      cases placed : replacedPlace tree host.directory destination host.nonce with
      | error fault => exact .unwritten read generated (by rw [replaceContent_eq, placed]; rfl)
      | ok location => exact ⟨content, rfl, generated, rfl⟩

/-- The stub of a source is written at a location. -/
structure StubWritten (tree changed : FileTree) (host : Host) (source destination : FilePath)
    (location : Location) (stub : List Text) : Prop where
  /-- It is the stub of the source. -/
  generated : ∃ content, readText tree host.directory source = .ok content ∧
    Stub.generate content = .ok stub
  /-- The location is that of the entry that the destination names. -/
  named : ∃ parent name, target tree host.directory destination = .ok (.entry parent name false) ∧
    location = parent ++ [name]
  elsewhere : ∀ other, other ≠ location → changed.get? other = tree.get? other
  /-- What the file holds is read back line by line. -/
  readBack : ∃ bytes text, changed.get? location = some (.file bytes) ∧
    String.fromUTF8? bytes = some text ∧ Text.lines text.toList = stub
  /-- A path that does not run through a link that it replaces leads to the file. -/
  readable : (∀ link, tree.get? location ≠ some (.link link)) →
    ∃ text, readText changed host.directory destination = .ok text ∧ Text.lines text = stub

/-- A stub that was generated is written where it takes its place. -/
theorem stubWritten_put {tree : FileTree} {host : Host} {source destination : FilePath}
    {content : Text} {location : Location} {stub : List Text}
    (read : readText tree host.directory source = .ok content)
    (generated : Stub.generate content = .ok stub)
    (placed : replacedPlace tree host.directory destination host.nonce = .ok location) :
    StubWritten tree (tree.put location (stubNode stub)) host source destination location stub := by
  obtain ⟨parent, name, named, rfl, noDirectory⟩ := named_of_replacedPlace placed
  have held : (tree.put (parent ++ [name]) (stubNode stub)).get? (parent ++ [name]) =
      some (stubNode stub) := tree.get?_put_self (by simp) _
  have text := fromUTF8?_encodeText (Stub.render stub)
  have lines := Stub.lines_render generated
  refine ⟨⟨content, read, generated⟩, ⟨parent, name, named, rfl⟩,
    fun other different => tree.get?_put_of_ne different _,
    ⟨_, _, held, text, by rwa [String.toList_ofList]⟩, fun noLink => ⟨Stub.render stub, ?_, lines⟩⟩
  have resolved := resolve_of_namesEntry (keepsPassages_put noDirectory noLink (stubNode stub))
    (namesEntry_of_target named) held (fun link => by simp [stubNode])
  exact readText_of_resolve resolved held

/-- A stub is written all or nothing, and producing one never fails. If it is refused the
tree is as before; the failure says which part did not succeed, and names the source unless
the destination could not be written. If it is written the tree is as before everywhere
else, and the lines of the file are those of the stub. -/
theorem produceStub_all_or_nothing (host : Host) (session : Session)
    (source destination : FilePath) :
    ∃ outcome after, (produceStub source destination).perform host session = (.ok outcome, after) ∧
      match outcome with
      | .error failure =>
        after.tree = session.tree ∧ Refusal session.tree host source destination failure
      | .ok () => ∃ location stub,
        StubWritten session.tree after.tree host source destination location stub := by
  obtain ⟨after, performed, _, changed⟩ := produceStub_performed host session source destination
  have spec := plannedStub_spec session.tree host source destination
  refine ⟨_, after, performed, ?_⟩
  cases planned : plannedStub session.tree host source destination with
  | error failure =>
    simp only [planned] at changed spec
    exact ⟨changed, spec⟩
  | ok entry =>
    simp only [planned] at changed spec
    obtain ⟨content, read, generated, placed⟩ := spec
    rw [changed]
    exact ⟨entry.1, entry.2, stubWritten_put read generated placed⟩

end PyxProject.Project
