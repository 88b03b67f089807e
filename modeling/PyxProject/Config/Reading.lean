import PyxProject.Config.Basic
import PyxProject.Toml.Reader

/-!
# Reading a configuration

Each key that a configuration knows has to have a value of its type if it is
present. Keys that it does not know are passed over.
-/

namespace PyxProject.Config

open Toml

/-- The strings of an array, if it holds nothing else. -/
def strings? : List Value → Option (List Text)
  | [] => some []
  | .string text :: rest => (strings? rest).map (text :: ·)
  | _ => none

/-- Take a value out of a table. The default holds for a key that is absent. -/
def take? {α : Type} (table : Table) (key : Text) (default : α) (convert : Value → Option α) :
    Option α :=
  match table.get? key with
  | none => some default
  | some value => convert value

/-- A value that is a string. -/
def string? : Value → Option Text
  | .string text => some text
  | _ => none

/-- A value that is a truth value. -/
def boolean? : Value → Option Bool
  | .boolean value => some value
  | _ => none

/-- A value that is an array of strings. -/
def array? : Value → Option (List Text)
  | .array items => strings? items
  | _ => none

/-- The configuration that a table gives. -/
def ofTable? (table : Table) : Option Config := do
  let base : Config := {}
  return {
    extensionsDir := ← take? table "extensions_dir" base.extensionsDir string?
    annotationsDir := ← take? table "annotations_dir" base.annotationsDir string?
    includeNumpy := ← take? table "include_numpy" base.includeNumpy boolean?
    python? := ← take? table "python" base.python? fun value => (string? value).map some
    exclude := ← take? table "exclude" base.exclude array? }

/-- The configuration that a file holds, if the file is well formed. -/
def read? (content : Text) : Option Config := (Toml.read? content).bind ofTable?

end PyxProject.Config
