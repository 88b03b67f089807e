import PyxProject.Source.Header

/-!
# Imports, classes and enumerations

The three sorts of declaration that are changed word by word: an import loses its
native keyword, a class its native qualifiers and its extension clause, and a
native enumeration becomes a class with the base `Enum`.
-/

namespace PyxProject.Stub

open Source

/-- The plain import keyword in place of the native one. -/
def plainImport (word : Text) : Text := if word = "cimport" then "import" else word

/-- An import statement as it is written in a stub. The keyword is the first word
or, after `from`, the third. -/
def importInStub (text : Text) : Text :=
  Text.join " " <|
    match Text.words text with
    | first :: second :: third :: rest =>
      if first = "from" then first :: second :: plainImport third :: rest
      else plainImport first :: second :: third :: rest
    | first :: rest => plainImport first :: rest
    | [] => []

/-- The text before the last opening square bracket. -/
def beforeLastBracket? (text : Text) : Option Text :=
  match text.reverse.dropWhile (· != '[') with
  | [] => none
  | _ :: rest => some rest.reverse

/-- The header of a class as it is written in a stub: from the word `class` on, and
without an extension clause in square brackets at the end. -/
def classInStub (text : Text) : Text :=
  let words := (Text.squeeze text).splitOn ' '
  let header :=
    match words.dropWhile (fun word => word != ("class" : Text)) with
    | [] => Text.squeeze text
    | kept => Text.join " " kept
  let signature := Text.trimEnd (dropColons header)
  if signature.getLast? = some ']' then
    match beforeLastBracket? signature with
    | some kept => Text.trimEnd kept ++ ":"
    | none => header
  else header

/-- The header of a native enumeration as it is written in a stub. Its name is the
third word. -/
def enumInStub (text : Text) : Text :=
  let name := dropColons ((Text.words text)[2]?.getD [])
  "class " ++ name ++ "(Enum):"

end PyxProject.Stub
