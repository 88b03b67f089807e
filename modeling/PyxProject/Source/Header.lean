import PyxProject.Text.Nesting

/-!
# Definition headers

A definition starts with `def`, `cdef`, `cpdef` or `async def`. Its header ends at
the first colon in code outside brackets; an equals sign before that colon makes
the line an assignment, which has no header. When the body follows on the same
line, the header is the part up to the colon, and otherwise it is the whole line.
-/

namespace PyxProject.Source

/-- The keywords that introduce a definition with native types. -/
def nativeKeywords : List Text := ["cdef", "cpdef"]

/-- The keyword that introduces a plain function definition. -/
def plainKeyword : Text := "def"

/-- Drop the colons at the end of a text. -/
def dropColons (text : Text) : Text := Text.dropEndWhile (· == ':') text

/-- Whether the words of a line start a plain function definition. -/
def startsPlain : List Text → Bool
  | first :: rest =>
    first == plainKeyword || (first == "async" && rest.head? == some plainKeyword)
  | [] => false

/-- Whether a line starts a definition. -/
def opensDefinition (text : Text) : Bool :=
  let words := Text.words text
  startsPlain words || words.head?.any nativeKeywords.contains

/-- Cut marks after the colon that ends a header. The depth counts brackets of all
kinds and may fall below zero. -/
def colonCut? (depth : Int) : List Text.Mark → Option (Text × Text)
  | [] => none
  | mark :: rest =>
    let proceed (depth : Int) : Option (Text × Text) :=
      (colonCut? depth rest).map fun (header, body) => (mark.char :: header, body)
    if !mark.code then proceed depth
    else if Text.isOpening mark.char then proceed (depth + 1)
    else if Text.isClosing mark.char then proceed (depth - 1)
    else if depth = 0 ∧ mark.char = '=' then none
    else if depth = 0 ∧ mark.char = ':' then some ([':'], Text.unmark rest)
    else proceed depth

/-- The header of a definition whose body follows on the same line. Any other line
is returned whole. -/
def headerOf (text : Text) : Text :=
  if opensDefinition text then
    match colonCut? 0 (Text.marks text) with
    | some (header, body) => if Text.trim body = [] then text else header
    | none => text
  else text

/-- Whether a definition header goes on in the next line: its parentheses are still
open at its end. An equals sign before the first parenthesis makes the line an
assignment. -/
def opensSignature (text : Text) : Bool :=
  opensDefinition text && text.contains '(' &&
    !(text.takeWhile (· != '(')).contains '=' &&
    decide (0 < Text.openParentheses (headerOf text))

end PyxProject.Source
