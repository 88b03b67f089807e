import PyxProject.Text.Literal

/-!
# Brackets outside literals

Three questions are asked about brackets in code. Which characters stand outside
every bracket, where the group that a parenthesis opens ends, and how deep the
parentheses are at the end of a text. An unmatched closing bracket counts
differently in each: the first question ignores it, the second gives up, and the
third counts below zero.
-/

namespace PyxProject.Text

/-- Whether a character opens a bracket of any of the three kinds. -/
def isOpening (char : Char) : Bool := char == '(' || char == '[' || char == '\x7b'

/-- Whether a character closes a bracket of any of the three kinds. -/
def isClosing (char : Char) : Bool := char == ')' || char == ']' || char == '\x7d'

/-- A marked character together with the number of brackets open before it. -/
structure Placed extends Mark where
  depth : Nat
deriving DecidableEq, Repr

/-- The number of open brackets after a mark; it never falls below zero. -/
def Mark.depthAfter (mark : Mark) (depth : Nat) : Nat :=
  if mark.code && isOpening mark.char then depth + 1
  else if mark.code && isClosing mark.char then depth - 1
  else depth

/-- Give every mark the number of brackets open before it. -/
def placeFrom (depth : Nat) : List Mark → List Placed
  | [] => []
  | mark :: rest => ⟨mark, depth⟩ :: placeFrom (mark.depthAfter depth) rest

/-- Every character of a text, marked and placed. -/
def placed (text : Text) : List Placed := placeFrom 0 (marks text)

/-- The characters of a list of placed marks. -/
def unplace (list : List Placed) : Text := list.map fun place => place.char

/-- Whether a placed character is the given one, in code and outside brackets. -/
def Placed.isTop (place : Placed) (char : Char) : Bool :=
  place.toMark.is char && place.depth == 0

/-- The pieces of a text between the occurrences of a separator that stand in code
outside brackets. -/
def splitTop (separator : Char) (text : Text) : List Text :=
  (List.splitOnP (fun place => place.isTop separator) (placed text)).map unplace

/-- The positions at which a character stands in code outside brackets. -/
def topPositions (char : Char) (text : Text) : List Nat :=
  (placed text).zipIdx.filterMap fun (place, position) =>
    if place.isTop char then some position else none

/-- Look for the end of a bracket group. The result is the text up to the closing
parenthesis and the text after it; there is none if another bracket closes the
group or if a bracket closes that was never opened. -/
def groupEnd? (depth : Nat) : List Mark → Option (Text × Text)
  | [] => none
  | mark :: rest =>
    if mark.code && isClosing mark.char then
      match depth with
      | 0 => none
      | 1 => if mark.char = ')' then some ([], unmark rest) else none
      | deeper + 2 => (groupEnd? (deeper + 1) rest).map fun (inside, after) =>
          (mark.char :: inside, after)
    else
      (groupEnd? (mark.depthAfter depth) rest).map fun (inside, after) =>
        (mark.char :: inside, after)

/-- A text cut at its first parenthesis: before it, inside the group, after it. -/
structure Group where
  head : Text
  inside : Text
  tail : Text
deriving DecidableEq, Repr

/-- The group of the first opening parenthesis. That parenthesis is found whether
or not it stands in a literal; its partner is looked for in code. -/
def firstGroup? (text : Text) : Option Group :=
  let head := text.takeWhile (· != '(')
  (groupEnd? 0 ((marks text).drop head.length)).map fun (inside, tail) =>
    { head, inside := inside.drop 1, tail }

/-- Opening parentheses minus closing parentheses, in code. -/
def openParentheses (text : Text) : Int :=
  (marks text).foldl (fun depth mark =>
    if mark.is '(' then depth + 1 else if mark.is ')' then depth - 1 else depth) 0

end PyxProject.Text
