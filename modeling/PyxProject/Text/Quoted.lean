import PyxProject.Text.Basic

/-!
# Double-quoted literals

A text is written between double quotes. A quote, a backslash and the control
characters below the space are escaped, each in its shortest form, and every other
character stands for itself.
-/

namespace PyxProject.Text

/-- A digit of base sixteen in lower case. -/
def hexDigit (value : Nat) : Char := Nat.digitChar value

/-- A character as it is written inside a literal. -/
def escapeChar (char : Char) : Text :=
  if char = '"' then ['\\', '"']
  else if char = '\\' then ['\\', '\\']
  else if 0x20 ≤ char.toNat then [char]
  else match char.toNat with
    | 0x08 => ['\\', 'b']
    | 0x09 => ['\\', 't']
    | 0x0A => ['\\', 'n']
    | 0x0C => ['\\', 'f']
    | 0x0D => ['\\', 'r']
    | code => ['\\', 'u', '0', '0', hexDigit (code / 16), hexDigit (code % 16)]

/-- A text as a double-quoted literal. -/
def quote (text : Text) : Text := '"' :: text.flatMap escapeChar ++ ['"']

end PyxProject.Text
