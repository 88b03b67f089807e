import PyxProject.Text.Basic

/-!
# Lines of a text

A line ends at a line feed, and one carriage return right before that line feed
belongs to the line end. A carriage return anywhere else is an ordinary character.
The last line may lack its line feed; an empty rest after the last line feed is no
line.
-/

namespace PyxProject.Text

/-- Drop one carriage return at the end. -/
def dropReturn (line : Text) : Text :=
  match line.getLast? with
  | some '\r' => line.dropLast
  | _ => line

/-- The lines of a text, without their ends. -/
def lines (text : Text) : List Text :=
  let pieces := text.splitOn '\n'
  let terminated := pieces.dropLast.map dropReturn
  match pieces.getLast? with
  | none | some [] => terminated
  | some last => terminated ++ [last]

/-- Lines written one after the other, each with a line feed. -/
def unlines (texts : List Text) : Text := texts.flatMap (· ++ ['\n'])

end PyxProject.Text
