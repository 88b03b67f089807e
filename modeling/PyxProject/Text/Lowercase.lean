import PyxProject.Text.Basic
import PyxProject.Text.CaseTable

/-!
# Lower case

The full lower-case mapping of Unicode on whole texts. Two capitals do not map one
to one. Capital I with a dot above becomes `i` and a combining dot. Capital sigma
becomes a final sigma at the end of a word: after a cased letter and not before
one, where marks that carry no case are passed over on both sides.
-/

namespace PyxProject.Text

/-- Lower case of one character, where that is one character. -/
def lowerChar (char : Char) : Char :=
  if char.toNat < 128 then char.toLower
  else match caseRuns.find? (·.contains char.toNat) with
    | some run => Char.ofNat (Int.toNat (char.toNat + run.shift))
    | none => char

/-- Whether the first character that is not passed over has case. -/
def casedFirst (text : Text) : Bool :=
  match text.dropWhile fun char => inRanges caseIgnorableRanges char.toNat with
  | [] => false
  | char :: _ => inRanges casedRanges char.toNat

/-- Lower case of a text, given the characters before it, nearest first. -/
def lowerAfter (before : Text) : Text → Text
  | [] => []
  | char :: rest =>
    let mapped :=
      if char = 'Σ' then (if casedFirst before && !casedFirst rest then ['ς'] else ['σ'])
      else if char = 'İ' then ['i', '\u0307']
      else [lowerChar char]
    mapped ++ lowerAfter (char :: before) rest

/-- Lower case of a text. -/
def lowercase (text : Text) : Text := lowerAfter [] text

end PyxProject.Text
