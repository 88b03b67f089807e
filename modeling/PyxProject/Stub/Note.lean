import PyxProject.Source.Indentation
import PyxProject.Stub.Signature

/-!
# Notes on the way to a stub

Writing a stub leaves notes for whoever asks for them: the size and unit of the
file, headers that could not be read, and types that the table does not hold. Notes
have no influence on the stub.
-/

namespace PyxProject.Stub

/-- A remark about a source file. -/
inductive Note where
  | size (lines : Nat) (unit : Option Nat)
  | noArguments (header : Text)
  | noName (header : Text)
  | unknownType (native : Text)
deriving DecidableEq, Repr

/-- The wording of a note. -/
def Note.message : Note → String
  | .size lines none => s!"{lines} source lines, indentation unit None"
  | .size lines (some unit) => s!"{lines} source lines, indentation unit Some({unit})"
  | .noArguments header =>
    s!"no argument list in '" ++ String.ofList header ++ "', passing through"
  | .noName header => s!"no function name in '" ++ String.ofList header ++ "', passing through"
  | .unknownType native =>
    "type '" ++ String.ofList native ++ "' not in mapping table, passing through"

/-- A note about a type that is not in the table. -/
def typeNotes (native : Text) (position : Position) : List Note :=
  match pythonType? native position with
  | some _ => []
  | none => [.unknownType (Text.trim native)]

/-- The notes on an argument. -/
def Argument.notes : Argument → List Note
  | .typed _ native _ => typeNotes native .argument
  | .verbatim _ | .bare _ _ => []

/-- The notes on a signature, the return type first. -/
def Signature.notes (signature : Signature) : List Note :=
  (match signature.returns? with
    | some type => typeNotes type .result
    | none => []) ++
    signature.arguments.flatMap Argument.notes

/-- The notes on a native header. -/
def headerNotes (text : Text) : List Note :=
  let header := Text.squeeze text
  match NativeHeader.read header with
  | .signature signature => signature.notes
  | .noArguments => [.noArguments header]
  | .noName => [.noName header]

end PyxProject.Stub
