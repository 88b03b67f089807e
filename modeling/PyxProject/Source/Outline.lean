import PyxProject.Source.Indentation
import PyxProject.Source.Scope

/-!
# The outline of a file

The outline gives every line its role, its level and its placement, and with them
whether it belongs to the interface. A file with a signature that spans several
lines has no outline.
-/

namespace PyxProject.Source

/-- A line's entry in the outline. -/
structure Entry where
  role : LineRole
  level : Nat
  placement : Placement
deriving DecidableEq, Repr

/-- Whether a line belongs to the interface. Definitions do wherever they stand,
plain statements in the body of a class, directives and blocks nowhere. -/
def Entry.isKept (entry : Entry) : Bool :=
  match entry.role with
  | .directive | .blockHeader => false
  | role => role.isDefinition || entry.placement.inClass

/-- The entries of lines read with the given scopes open. -/
def entriesFrom (bound : CythonNames) (indentation : Indentation) (scopes : Scopes) :
    List Line → List Entry
  | [] => []
  | line :: rest =>
    let role := LineRole.of bound line.text
    let level := indentation.level line
    let (next, placement) := scopes.pass role level
    ⟨role, level, placement⟩ :: entriesFrom bound indentation next rest

/-- The outline of the lines of a file. -/
def outline (lines : List Line) (indentation : Indentation) : Except Error (List Entry) :=
  match lines.find? fun line => opensSignature line.text with
  | some line => .error (.openSignature line.number line.text)
  | none => .ok (entriesFrom (CythonNames.ofLines lines) indentation [] lines)

end PyxProject.Source
