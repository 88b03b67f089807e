import PyxProject.Text.Lines
import PyxProject.Text.Literal

/-!
# Source lines

A source file is read as its lines that hold code: the comment is cut off, and a
line of which nothing but blanks is left does not count. What remains of a line is
its number in the file, the number of spaces it starts with, whether another blank
follows those spaces, and its text without blanks at either end.
-/

namespace PyxProject.Source

/-- A line of source code. -/
structure Line where
  /-- Number of the line in the file, counted from one. -/
  number : Nat
  /-- Number of spaces at the start. -/
  spaces : Nat
  /-- Whether the indentation holds a blank that is no space. -/
  tabbed : Bool
  /-- The code, without indentation, comment and blanks at the end. -/
  text : Text
deriving DecidableEq, Repr

/-- Read one line of a file, unless it holds no code. -/
def Line.read? (number : Nat) (raw : Text) : Option Line :=
  let code := Text.trimEnd (Text.withoutComment raw)
  let text := code.dropWhile (· == ' ')
  if Text.trim text = [] then none
  else some
    { number
      spaces := code.length - text.length
      tabbed := text.head?.any Text.isBlank
      text := Text.trimStart text }

/-- The lines of a file that hold code. -/
def readLines (content : Text) : List Line :=
  ((Text.lines content).zipIdx 1).filterMap fun (raw, number) => Line.read? number raw

/-- Write a line back: its indentation, then its text. -/
def Line.written (line : Line) : Text := List.replicate line.spaces ' ' ++ line.text

end PyxProject.Source
