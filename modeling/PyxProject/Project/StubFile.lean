import PyxProject.Project.Layout
import PyxProject.Project.Session
import PyxProject.Stub.Generation

/-!
# Stub files

A stub file is written in one step after the whole source has been read and its
stub is known, so a source that is refused leaves an earlier stub as it was. Of many
sources each is attempted, and the first failure in their order is the one that
counts.
-/

namespace PyxProject.Project

open Files

/-- The tree with the stub of a source written to a path, and the number of lines of
the stub. -/
def writeStub (tree : FileTree) (host : Host) (source destination : FilePath) :
    Except StubFailure (FileTree × Nat) := do
  let content ← (readText tree host.directory source).mapError (.read source)
  let stub ← (Stub.generate content).mapError (.content source)
  let written ← (replaceContent tree host.directory destination host.nonce
    (encodeText (Stub.render stub))).mapError (.write destination)
  return (written, stub.length)

/-- The notes on a source, if it can be read. -/
def sourceNotes (tree : FileTree) (directory source : FilePath) : List Stub.Note :=
  match readText tree directory source with
  | .ok content => Stub.notes content
  | .error _ => []

/-- Write the stub of a source to a path. A failure is returned as a value. -/
def produceStub (source destination : FilePath) : Action (Except StubFailure Unit) := do
  let notes ← inspect fun tree directory => sourceNotes tree directory source
  notes.forM fun note => report note.message
  match writeStub (← get).tree (← read) source destination with
  | .error error => return .error error
  | .ok (tree, lines) =>
    modify fun session => { session with tree := tree }
    report ("wrote " ++ destination.toString ++ s!" ({lines} lines)")
    return .ok ()

/-- Write the stub of a source beside it, and give the path of the stub. -/
def produceBeside (source : FilePath) : Action (Except StubFailure FilePath) := do
  let destination := stubFile source
  match ← produceStub source destination with
  | .ok () => return .ok destination
  | .error error => return .error error

/-- Write the stubs of all sources beside them. Every source is attempted. -/
def writeStubs (sources : List FilePath) : Action (List FilePath) := do
  let results ← sources.mapM fun source => do
    report ("generating stub for " ++ source.toString)
    produceBeside source
  results.forM fun
    | .ok _ => return ()
    | .error error => complainLine ("error: " ++ error.message)
  match firstError? results with
  | some error => throw (.stub error)
  | none => return results.filterMap Except.toOption
where
  /-- The first error among results. -/
  firstError? (results : List (Except StubFailure FilePath)) : Option StubFailure :=
    results.findSome? fun
      | .ok _ => none
      | .error error => some error

end PyxProject.Project
