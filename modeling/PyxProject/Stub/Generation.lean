import PyxProject.Source.Outline
import PyxProject.Stub.Declaration
import PyxProject.Stub.Note

/-!
# The stub of a source file

A stub keeps the lines of the outline that belong to the interface, each in the form
of its role and with its own indentation, and puts an ellipsis under every function
header. A stub with a native enumeration starts with the import that it needs.
-/

namespace PyxProject.Stub

open Source

/-- A line of a stub. -/
structure Line where
  spaces : Nat
  text : Text
deriving DecidableEq, Repr

/-- A line of a stub with its indentation. -/
def Line.written (line : Line) : Text := List.replicate line.spaces ' ' ++ line.text

/-- What stands in place of the body of a function. -/
def ellipsis : Text := "..."

/-- The import that a stub with enumerations starts with. -/
def enumHeading : Text := "from enum import Enum"

/-- The stub lines that a line of the interface gives. -/
def lineInStub (step : Nat) (role : LineRole) (line : Source.Line) : List Line :=
  match role with
  | .importStatement => [⟨line.spaces, importInStub line.text⟩]
  | .classHeader => [⟨line.spaces, classInStub line.text⟩]
  | .enumHeader => [⟨line.spaces, enumInStub line.text⟩]
  | .functionHeader native =>
    [⟨line.spaces, functionInStub native (headerOf line.text)⟩,
     ⟨line.spaces + step, ellipsis⟩]
  | .decorator | .statement => [⟨line.spaces, Text.squeeze line.text⟩]
  | .directive | .blockHeader => []

/-- The lines of a file that belong to its interface, with their roles. -/
def interface (lines : List Source.Line) (entries : List Entry) : List (Source.Line × LineRole) :=
  (lines.zip entries).filterMap fun (line, entry) =>
    if entry.isKept then some (line, entry.role) else none

/-- The stub lines of the interface of a file. -/
def assemble (step : Nat) (kept : List (Source.Line × LineRole)) : List Line :=
  let body := kept.flatMap fun (line, role) => lineInStub step role line
  if kept.any fun (_, role) => role == .enumHeader then
    ⟨0, enumHeading⟩ :: ⟨0, []⟩ :: body
  else body

/-- The stub lines of a file given by its lines. -/
def stubLines (lines : List Source.Line) (indentation : Indentation) :
    Except Source.Error (List Line) := do
  let entries ← outline lines indentation
  return assemble indentation.step (interface lines entries)

/-- The lines of the stub of a file. -/
def generate (content : Text) : Except Source.Error (List Text) := do
  let lines := readLines content
  let indentation ← Indentation.infer lines
  let stub ← stubLines lines indentation
  return stub.map Line.written

/-- The content of a stub file: every line with a line feed. -/
def render (stub : List Text) : Text := Text.unlines stub

/-- The notes on the interface of a file. -/
def interfaceNotes (kept : List (Source.Line × LineRole)) : List Note :=
  kept.flatMap fun (line, role) =>
    match role with
    | .functionHeader true => headerNotes (headerOf line.text)
    | _ => []

/-- The notes on a file, up to the error that ends its reading if there is one. -/
def notes (content : Text) : List Note :=
  let lines := readLines content
  match Indentation.infer lines with
  | .error _ => []
  | .ok indentation =>
    .size lines.length indentation.unit ::
      match outline lines indentation with
      | .error _ => []
      | .ok entries => interfaceNotes (interface lines entries)

end PyxProject.Stub
