import PyxProject.Source.Header
import PyxProject.Stub.Argument

/-!
# Function headers

A native header is a keyword, qualifiers, a return type, a name, arguments in
parentheses, a suffix and perhaps an arrow with another return type. It is read
into a signature and written as a plain header with annotations. A header without
an argument list or without a name keeps its text, with the native keywords
replaced. A plain header keeps its text.
-/

namespace PyxProject.Stub

open Source

/-- The words that may stand between a native keyword and the return type. -/
def qualifiers : List Text := ["inline", "public", "api", "readonly", "static"]

/-- The parts of a native header that a stub shows. -/
structure Signature where
  name : Text
  /-- The return type as written, if there is one. -/
  returns? : Option Text
  arguments : List Argument
deriving DecidableEq, Repr

/-- A native header as far as it can be read. -/
inductive NativeHeader where
  | signature (signature : Signature)
  /-- There is no group of parentheses to hold arguments. -/
  | noArguments
  /-- No word is left before the parentheses to be the name. -/
  | noName
deriving DecidableEq, Repr

/-- The text after the first arrow. -/
def afterArrow? : Text → Option Text
  | '-' :: '>' :: rest => some rest
  | _ :: rest => afterArrow? rest
  | [] => none

/-- A text, unless it is empty. -/
def filled? (text : Text) : Option Text := if text = [] then none else some text

/-- The return type after an arrow, if one is given there. -/
def explicitReturn? (tail : Text) : Option Text :=
  (afterArrow? (Text.trim tail)).bind fun rest => filled? (Text.trim rest)

/-- The words before the parentheses, without keywords and leading qualifiers. -/
def declarationWords (head : Text) : List Text :=
  ((Text.words head).filter fun word => !nativeKeywords.contains word).dropWhile
    fun word => qualifiers.contains word

/-- The arguments between the parentheses, without empty ones. -/
def readArguments (inside : Text) : List Argument :=
  (((Text.splitTop ',' inside).map Text.trim).filter (· ≠ [])).map Argument.read

/-- Read a header whose blanks have been squeezed. -/
def NativeHeader.read (header : Text) : NativeHeader :=
  let text := Text.trimEnd (dropColons header)
  match Text.firstGroup? text with
  | none => .noArguments
  | some group =>
    let words := declarationWords group.head
    match words.getLast? with
    | none => .noName
    | some word =>
      let (native, name) := moveStars words.dropLast word
      .signature
        { name
          returns? := (explicitReturn? group.tail).or (filled? native)
          arguments := readArguments group.inside }

/-- Write a signature as a plain header. -/
def Signature.write (signature : Signature) : Text :=
  let arguments := Text.join ", " (signature.arguments.map Argument.write)
  let returns : Text :=
    match signature.returns? with
    | some type => " -> " ++ shownType type .result
    | none => []
  plainKeyword ++ " " ++ signature.name ++ "(" ++ arguments ++ ")" ++ returns ++ ":"

/-- Put the plain keyword in place of the native ones. -/
def replaceKeywords (text : Text) : Text :=
  Text.join " " ((text.splitOn ' ').map fun word =>
    if nativeKeywords.contains word then plainKeyword else word)

/-- The header of a function as it is written in a stub. -/
def functionInStub (native : Bool) (text : Text) : Text :=
  let header := Text.squeeze text
  if native then
    match NativeHeader.read header with
    | .signature signature => signature.write
    | .noArguments | .noName => replaceKeywords header
  else header

end PyxProject.Stub
