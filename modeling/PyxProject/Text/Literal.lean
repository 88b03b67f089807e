import PyxProject.Text.Blank

/-!
# Characters inside and outside string literals

One scanner decides which characters of a line are code. A literal opens at an
apostrophe or a double quote and closes at the next occurrence of the same
character; a backslash inside a literal takes the character after it out of
consideration. A literal that is never closed runs to the end. The delimiters
belong to the literal.

Every other rule of the library that has to look past literals is stated on
`Text.marks`, so all of them agree on what a literal is.
-/

namespace PyxProject.Text

/-- Where the scanner stands: in code, in a literal with the given delimiter, or
right after a backslash in such a literal. -/
inductive Region where
  | code
  | literal (delimiter : Char)
  | escape (delimiter : Char)
deriving DecidableEq, Repr

/-- Whether a character opens a literal. -/
def isDelimiter (char : Char) : Bool := char == '\'' || char == '"'

/-- The region after one character. -/
def Region.next : Region → Char → Region
  | .code, char => if isDelimiter char then .literal char else .code
  | .literal delimiter, char =>
    if char = '\\' then .escape delimiter
    else if char = delimiter then .code
    else .literal delimiter
  | .escape delimiter, _ => .literal delimiter

/-- Whether a character read in this region is code. -/
def Region.isCode : Region → Char → Bool
  | .code, char => !isDelimiter char
  | _, _ => false

/-- A character together with whether it is code. -/
structure Mark where
  char : Char
  code : Bool
deriving DecidableEq, Repr

/-- Whether a mark is the given character, in code. -/
def Mark.is (mark : Mark) (char : Char) : Bool := mark.code && mark.char == char

/-- Mark every character of a text, from a given region on. -/
def marksFrom (region : Region) : Text → List Mark
  | [] => []
  | char :: rest => ⟨char, region.isCode char⟩ :: marksFrom (region.next char) rest

/-- Mark every character of a text. -/
def marks (text : Text) : List Mark := marksFrom .code text

/-- The characters of a list of marks. -/
def unmark (marked : List Mark) : Text := marked.map Mark.char

/-- A text is cut before the first `#` in code. -/
def withoutComment (text : Text) : Text :=
  unmark ((marks text).takeWhile fun mark => !mark.is '#')

/-- Replace each run of blanks in code by one space, given whether a run has just
been passed. A run is written only when a character follows it. -/
def squeezeMarks (pending : Bool) : List Mark → Text
  | [] => []
  | mark :: rest =>
    if mark.code && isBlank mark.char then squeezeMarks true rest
    else if pending then ' ' :: mark.char :: squeezeMarks false rest
    else mark.char :: squeezeMarks false rest

/-- Trim a text and replace each run of blanks outside literals by one space. -/
def squeeze (text : Text) : Text := squeezeMarks false (marks (trim text))

/-- Marking changes no character. -/
@[simp]
theorem unmark_marksFrom (region : Region) (text : Text) :
    unmark (marksFrom region text) = text := by
  induction text generalizing region with
  | nil => rfl
  | cons char rest inductive_step =>
    simpa [unmark, marksFrom] using inductive_step (region.next char)

/-- Marking changes no character. -/
@[simp]
theorem unmark_marks (text : Text) : unmark (marks text) = text := unmark_marksFrom .code text

end PyxProject.Text
