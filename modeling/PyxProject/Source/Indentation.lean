import PyxProject.Source.Error
import PyxProject.Source.Line

/-!
# Indentation of a file

The unit of a file is the smallest positive number of leading spaces. A file is
accepted when no line is indented with another blank and every indentation is a
multiple of the unit. Nesting levels are counted in units.
-/

namespace PyxProject.Source

/-- The indentation of an accepted file. A file without indented lines has no unit. -/
structure Indentation where
  unit : Option Nat
deriving DecidableEq, Repr

/-- The smallest positive number of leading spaces. -/
def smallestIndent? (lines : List Line) : Option Nat :=
  ((lines.map Line.spaces).filter (0 < ·)).min?

/-- Determine the unit of a file and check every line against it. A line with a
tab is reported before any line that misses the unit. -/
def Indentation.infer (lines : List Line) : Except Error Indentation :=
  match lines.find? Line.tabbed with
  | some line => .error (.tab line.number)
  | none =>
    match smallestIndent? lines with
    | none => .ok ⟨none⟩
    | some unit =>
      match lines.find? fun line => line.spaces % unit ≠ 0 with
      | some line => .error (.misaligned line.number line.spaces unit)
      | none => .ok ⟨some unit⟩

/-- The width of one level in a file that shows no unit of its own. -/
def flatStep : Nat := 4

/-- The number of spaces that one level of nesting takes. -/
def Indentation.step (indentation : Indentation) : Nat := indentation.unit.getD flatStep

/-- The nesting level of a line. -/
def Indentation.level (indentation : Indentation) (line : Line) : Nat :=
  match indentation.unit with
  | none => 0
  | some unit => line.spaces / unit

end PyxProject.Source
