import PyxProject.Stub.NativeType
import PyxProject.Text.Nesting

/-!
# Arguments of a native function

An argument is read into one of three forms. It may already carry an annotation, be
a single word, or declare a native type before its name; a default value may follow
the last two. Writing it gives the annotation form.
-/

namespace PyxProject.Stub

/-- An argument of a native function. -/
inductive Argument where
  /-- An argument that is kept as it stands. -/
  | verbatim (text : Text)
  /-- A single word, such as `self`, `*args` or `x`. -/
  | bare (word : Text) (default? : Option Text)
  /-- A name with a native type. -/
  | typed (name native : Text) (default? : Option Text)
deriving DecidableEq, Repr

/-- Whether an equals sign after the given character belongs to a comparison. -/
def endsComparison (previous : Option Char) : Bool :=
  previous.any fun char => char == '=' || char == '<' || char == '>' || char == '!'

/-- Cut placed characters at the first equals sign outside brackets and literals
that is no part of a comparison. -/
def assignmentCut? (previous : Option Char) : List Text.Placed → Option (Text × Text)
  | [] => none
  | place :: rest =>
    if place.isTop '=' && !endsComparison previous &&
        !(rest.head?.any fun next => next.char == '=') then
      some ([], Text.unplace rest)
    else
      (assignmentCut? (some place.char) rest).map fun (before, after) =>
        (place.char :: before, after)

/-- Whether placed characters hold a colon outside brackets and literals with no
colon next to it. -/
def hasLoneColon (previous : Option Char) : List Text.Placed → Bool
  | [] => false
  | place :: rest =>
    (place.isTop ':' && previous != some ':' && !(rest.head?.any fun next => next.char == ':')) ||
      hasLoneColon (some place.char) rest

/-- Whether a declaration carries an annotation. A double colon does not count. -/
def carriesType (declaration : Text) : Bool := hasLoneColon none (Text.placed declaration)

/-- Drop a clause `not None` or `or None` at the end, if something with a name and a
type may stand before it. -/
def dropNoneClause (words : List Text) : List Text :=
  match words.reverse with
  | last :: beforeLast :: rest =>
    if last = "None" ∧ (beforeLast = "not" ∨ beforeLast = "or") ∧ rest ≠ [] then rest.reverse
    else words
  | _ => words

/-- Move the stars at the start of a name to the end of its type. -/
def moveStars (type : List Text) (name : Text) : Text × Text :=
  (Text.join " " type ++ name.takeWhile (· == '*'), name.dropWhile (· == '*'))

/-- Read one argument. -/
def Argument.read (text : Text) : Argument :=
  let argument := Text.trim text
  let (declaration, default?) :=
    match assignmentCut? none (Text.placed argument) with
    | some (before, after) => (Text.trim before, some (Text.trim after))
    | none => (argument, none)
  if carriesType declaration then .verbatim argument
  else
    let words := dropNoneClause (Text.words declaration)
    match words.getLast?, words.dropLast with
    | none, _ => .verbatim argument
    | some word, [] => .bare word default?
    | some word, type =>
      let (native, name) := moveStars type word
      .typed name native default?

/-- A default value as it is written after an argument. -/
def writeDefault : Option Text → Text
  | some value => "=" ++ value
  | none => []

/-- Write an argument in annotation form. -/
def Argument.write : Argument → Text
  | .verbatim text => text
  | .bare word default? => word ++ writeDefault default?
  | .typed name native default? =>
    name ++ ":" ++ shownType native .argument ++ writeDefault default?

/-- An argument in annotation form. -/
def argumentInStub (text : Text) : Text := (Argument.read text).write

end PyxProject.Stub
