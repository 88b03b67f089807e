import PyxProject.Source.Header
import PyxProject.Source.Line

/-!
# Roles of lines

Every line of a source file has one of eight roles, decided from its text and
from the names that the file imports from `cython`. The names matter for
decorators only: a decorator bound by such an import is an instruction to the
compiler and no part of the interface.
-/

namespace PyxProject.Source

/-- What a line is. -/
inductive LineRole where
  /-- An `import`, `cimport` or `from` statement. -/
  | importStatement
  /-- The header of a class. -/
  | classHeader
  /-- The header of a native enumeration. -/
  | enumHeader
  /-- The header of a function, which carries native types or not. -/
  | functionHeader (native : Bool)
  /-- A decorator that belongs to the interface. -/
  | decorator
  /-- A decorator that addresses the compiler. -/
  | directive
  /-- The header of a statement block or of a native declaration block. -/
  | blockHeader
  /-- Anything else. -/
  | statement
deriving DecidableEq, Repr

/-- Whether a line of this role belongs to the interface wherever it stands. -/
def LineRole.isDefinition : LineRole → Bool
  | .importStatement | .classHeader | .enumHeader | .functionHeader _ | .decorator => true
  | .directive | .blockHeader | .statement => false

/-- The names that a file binds by importing from `cython`. -/
structure CythonNames where
  names : List Text
deriving DecidableEq, Repr

/-- Whether a name is bound by an import from `cython`. -/
def CythonNames.binds (bound : CythonNames) (name : Text) : Bool := bound.names.contains name

/-- Whether a word is one of the two import keywords. -/
def isImportKeyword (word : Text) : Bool := word == "import" || word == "cimport"

/-- The name that one item of an import list binds. -/
def boundName? (item : Text) : Option Text :=
  match Text.words item with
  | [name] => some name
  | [_, keyword, name] => if keyword = "as" then some name else none
  | _ => none

/-- Whether a character is a round bracket. -/
def isRound (char : Char) : Bool := char == '(' || char == ')'

/-- The names bound by one line, if it imports from `cython`. -/
def boundNames (text : Text) : List Text :=
  match Text.words text with
  | first :: second :: third :: items =>
    if first = "from" ∧ second = "cython" ∧ isImportKeyword third then
      let list := Text.dropEndWhile isRound ((Text.join " " items).dropWhile isRound)
      (list.splitOn ',').filterMap boundName?
    else []
  | _ => []

/-- The names bound by the import lines of a file, wherever they stand in it. -/
def CythonNames.ofLines (lines : List Line) : CythonNames :=
  ⟨lines.flatMap fun line => boundNames line.text⟩

/-- Whether the words of a line form an import statement. -/
def formsImport : List Text → Bool
  | keyword :: _ :: rest =>
    isImportKeyword keyword ||
      (keyword == "from" && match rest with
        | second :: _ :: _ => isImportKeyword second
        | _ => false)
  | _ => false

/-- Whether a decorator, given without its at sign, addresses the compiler. -/
def addressesCompiler (bound : CythonNames) (decorator : Text) : Bool :=
  let name := Text.trim (decorator.takeWhile (· != '('))
  name == "cython" || Text.startsWith name "cython." || bound.binds name

/-- The words after `cdef` that open a block of native declarations. -/
def nativeBlockWords : List Text :=
  ["struct", "union", "extern", "cppclass", "fused", "packed", "enum"]

/-- The words that open a block of statements. -/
def statementBlockWords : List Text :=
  ["if", "elif", "else", "for", "while", "with", "try", "except", "finally", "async",
   "match", "case", "ctypedef"]

/-- The role of a line that starts with a native keyword and ends in a colon, given
the words after the keyword. -/
def LineRole.ofNative : List Text → LineRole
  | [] => .functionHeader true
  | second :: rest =>
    if second = "enum" ∧ rest ≠ [] then .enumHeader
    else if nativeBlockWords.contains (dropColons second) then .blockHeader
    else .functionHeader true

/-- The role of a line without a body on the same line. -/
def LineRole.ofHeader (bound : CythonNames) (text : Text) : LineRole :=
  let words := Text.words text
  match words with
  | [] => .statement
  | first :: rest =>
    if formsImport words then .importStatement
    else if text.head? = some '@' then
      if addressesCompiler bound text.tail then .directive else .decorator
    else if text.getLast? ≠ some ':' then .statement
    else if (first == "class" || nativeKeywords.contains first) && words.contains "class" then
      .classHeader
    else if nativeKeywords.contains first then .ofNative rest
    else if startsPlain words then .functionHeader false
    else if first == "cdef:" || statementBlockWords.contains (dropColons first) then
      .blockHeader
    else .statement

/-- The role of a line. A definition with its body on the same line counts by its
header, and only as a function. -/
def LineRole.of (bound : CythonNames) (text : Text) : LineRole :=
  let header := headerOf text
  if header.length < text.length then
    match LineRole.ofHeader bound header with
    | .functionHeader native => .functionHeader native
    | _ => .statement
  else .ofHeader bound text

end PyxProject.Source
