import PyxProject.Text.Basic
import PyxProject.Text.PrintTable

/-!
# Texts in messages

A message shows a text between double quotes such that it can be told character by
character: quotes and backslashes are escaped, the usual control characters have
their short forms, and every character that does not print as one of its own is
given by its code point in base sixteen.
-/

namespace PyxProject.Text

/-- Whether a character prints as a character of its own. -/
def isPrintable (char : Char) : Bool := !inRanges unprintableRanges char.toNat

/-- A character as a message shows it between double quotes. -/
def shownChar (char : Char) : Text :=
  if char = '"' ∨ char = '\\' then ['\\', char]
  else if char = '\t' then "\\t"
  else if char = '\n' then "\\n"
  else if char = '\r' then "\\r"
  else if char.toNat = 0 then "\\0"
  else if isPrintable char then [char]
  else "\\u\x7b" ++ Nat.toDigits 16 char.toNat ++ "\x7d"

/-- A text as a message shows it. -/
def shown (text : Text) : Text := '"' :: text.flatMap shownChar ++ ['"']

end PyxProject.Text
