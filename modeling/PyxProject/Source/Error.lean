import PyxProject.Text.Basic

/-!
# What is wrong with a source file

A source file is refused for one of three reasons, each with the number of the
line at which it shows.
-/

namespace PyxProject.Source

/-- Why a source file cannot be read. -/
inductive Error where
  /-- A line is indented with a blank that is no space. -/
  | tab (line : Nat)
  /-- A line's indentation is no multiple of the file's unit. -/
  | misaligned (line found unit : Nat)
  /-- A definition header goes on in the next line. -/
  | openSignature (line : Nat) (text : Text)
deriving DecidableEq, Repr

/-- The message for an error. -/
def Error.message : Error → String
  | .tab line => s!"Tab indentation on line {line}; indent with spaces"
  | .misaligned line found unit =>
    s!"Inconsistent indentation on line {line}: {found} spaces is not a multiple of the " ++
      s!"{unit}-space indentation unit"
  | .openSignature line text =>
    s!"Signature on line {line} spans several lines, which is not supported: " ++
      String.ofList text

end PyxProject.Source
