/-!
# Text as a list of characters

Source text, paths and file names are handled as lists of characters, so that
every operation is a structural recursion and can be reasoned about as one. The
module fixes the vocabulary that the rest of the library is written in, as far as the
lists of the standard library do not have it: dropping a run at the end, joining pieces,
and the classes of characters that are given by ranges of code points. Texts are cut with
`List.splitOn` and `List.splitOnP`.
-/

namespace PyxProject

/-- Text is the list of its characters. -/
abbrev Text := List Char

/-- A string literal may stand wherever text is expected. -/
instance : Coe String Text := ⟨String.toList⟩

namespace Text

/-- Drop the longest run of marked elements at the end. The programs of the library import
nothing but the core of Lean, so this stands for `List.rdropWhile`, which it is equal to. -/
def dropEndWhile {α : Type} (drop : α → Bool) (list : List α) : List α :=
  (list.reverse.dropWhile drop).reverse

/-- Join pieces with a separator between neighbours. -/
def join (separator : Text) (pieces : List Text) : Text :=
  separator.intercalate pieces

/-- Whether a text has a given beginning. -/
def startsWith (text start : Text) : Bool := start.isPrefixOf text

/-- The text before a given end, if it has that end. -/
def before? (text finish : Text) : Option Text :=
  if finish.isSuffixOf text then some (text.take (text.length - finish.length)) else none

/-- Whether a code point lies in one of the given inclusive ranges. -/
def inRanges (ranges : List (Nat × Nat)) (code : Nat) : Bool :=
  ranges.any fun (first, last) => first ≤ code && code ≤ last

end Text

end PyxProject
