import PyxProject.Text.Blank
import PyxProject.Text.Lowercase

/-!
# Native types and the types that callers see

A signature may spell a C type. The table gives the Python type that a caller sees
in its place. A spelling is looked up in lower case, with single spaces between its
words and its stars attached; one that the table does not hold is taken for a
Python type and stays as it is.
-/

namespace PyxProject.Stub

/-- The Python types that native types map to. -/
inductive PythonType where
  | bool
  | int
  | float
  | complex
  | str
  | none
deriving DecidableEq, Repr

/-- How a Python type is written in a stub. -/
def PythonType.spelling : PythonType → Text
  | .bool => "bool"
  | .int => "int"
  | .float => "float"
  | .complex => "complex"
  | .str => "str"
  | .none => "None"

/-- Where a type stands in a signature. -/
inductive Position where
  | argument
  | result
deriving DecidableEq, Repr

/-- The table of native spellings. -/
def nativeSpellings : List (String × PythonType) :=
  [("bint", .bool),
   ("bool", .bool),
   ("char", .int),
   ("short", .int),
   ("int", .int),
   ("long", .int),
   ("long long", .int),
   ("signed char", .int),
   ("signed short", .int),
   ("signed int", .int),
   ("signed long", .int),
   ("signed long long", .int),
   ("unsigned char", .int),
   ("unsigned short", .int),
   ("unsigned int", .int),
   ("unsigned long", .int),
   ("unsigned long long", .int),
   ("unsigned", .int),
   ("size_t", .int),
   ("ssize_t", .int),
   ("py_ssize_t", .int),
   ("py_hash_t", .int),
   ("float", .float),
   ("double", .float),
   ("long double", .float),
   ("float complex", .complex),
   ("double complex", .complex),
   ("complex", .complex),
   ("char*", .str),
   ("const char*", .str),
   ("std::string", .str),
   ("str", .str),
   ("unicode", .str)]

/-- The native spellings with the Python type of each. -/
def nativeTypes : List (Text × PythonType) :=
  nativeSpellings.map fun (spelling, type) => (spelling.toList, type)

/-- The native spellings that the table holds. -/
def spellings : List Text := nativeTypes.map Prod.fst

/-- Remove the space before each star. -/
def attachStars : Text → Text
  | ' ' :: '*' :: rest => '*' :: attachStars rest
  | char :: rest => char :: attachStars rest
  | [] => []

/-- The form in which a native spelling is looked up. -/
def normalize (native : Text) : Text :=
  Text.lowercase (attachStars (Text.join " " (Text.words native)))

/-- The Python type of a native type. `void` has one as a result only. -/
def pythonType? (native : Text) (position : Position) : Option PythonType :=
  let key := normalize native
  if key = "void" then
    match position with
    | .result => some .none
    | .argument => none
  else (nativeTypes.find? fun (spelling, _) => spelling == key).map Prod.snd

/-- A native type as it is written in a stub. -/
def shownType (native : Text) (position : Position) : Text :=
  match pythonType? native position with
  | some type => type.spelling
  | none => Text.trim native

end PyxProject.Stub
