import PyxProject.Text.Basic

/-!
# Blank characters, trimming and words

A character is blank when it has the Unicode property `White_Space`. The blanks
include the no-break spaces and the line and paragraph separators, and leave out
the zero-width characters and the information separators.
-/

namespace PyxProject.Text

/-- The code points with the property `White_Space`, as inclusive ranges. -/
def blankRanges : List (Nat × Nat) :=
  [(0x09, 0x0D), (0x20, 0x20), (0x85, 0x85), (0xA0, 0xA0), (0x1680, 0x1680),
   (0x2000, 0x200A), (0x2028, 0x2029), (0x202F, 0x202F), (0x205F, 0x205F), (0x3000, 0x3000)]

/-- Whether a character is blank. -/
def isBlank (char : Char) : Bool := inRanges blankRanges char.toNat

/-- Drop blanks at the start. -/
def trimStart (text : Text) : Text := text.dropWhile isBlank

/-- Drop blanks at the end. -/
def trimEnd (text : Text) : Text := dropEndWhile isBlank text

/-- Drop blanks at both ends. -/
def trim (text : Text) : Text := trimEnd (trimStart text)

/-- The maximal runs of characters that are not blank. -/
def words (text : Text) : List Text := (text.splitOnP isBlank).filter (· ≠ [])

end PyxProject.Text
