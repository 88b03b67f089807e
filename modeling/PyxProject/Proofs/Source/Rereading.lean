import PyxProject.Proofs.Source.CodeOffsets
import PyxProject.Proofs.Source.Numbers
import PyxProject.Proofs.Source.Widths

/-!
# Lines that are read again

Reading leaves nothing to be done over. The lines of a file come in the order of their numbers, a
line of the file is left out exactly if it is blank up to its comment, and the text of a line has no
blanks at its ends and no comment. Unless a tab took part in an indentation, a line can be written
down as its spaces and its text, and then the same is read from it (`read_written`). So a file that
is written from the lines of another has the same lines, one after the other (`readLines_settles`).
-/

namespace PyxProject.Text

/-- What is trimmed from a text without a comment brings no comment to light. The blanks in front
open no literal, so what is left is scanned as it was in the text. -/
theorem withoutComment_trim {text : Text} (uncommented : withoutComment text = text) :
    withoutComment (trim text) = trim text := by
  obtain ⟨before, after, parts, beforeBlank, _⟩ := trim_append text
  rw [withoutComment_eq_self_iff] at uncommented ⊢
  have marked : marks text = marksFrom .code before ++ (marks (trim text) ++
      marksFrom (regionAfter .code (trim text)) after) := by
    calc marks text
        = marks (before ++ (trim text ++ after)) := congrArg marks parts
      _ = marksFrom .code before ++ marksFrom .code (trim text ++ after) := by
          rw [marks, marksFrom_append, regionAfter_blanks beforeBlank]
      _ = _ := by rw [marksFrom_append, marks]
  intro mark member
  apply uncommented
  rw [marked]
  exact List.mem_append_right _ (List.mem_append_left _ member)

end PyxProject.Text

namespace PyxProject.Source

/-- A line that may be written down and read again. -/
structure Line.IsSettled (line : Line) : Prop where
  tight : Text.Tight line.text
  uncommented : Text.withoutComment line.text = line.text
  oneLine : '\n' ∉ line.text
  untabbed : line.tabbed = false

/-- Lines with numbers from one on. -/
def renumbered (lines : List Line) : List Line :=
  (lines.zipIdx 1).map fun (line, number) => { line with number }

/-- A line that is written down is read again, whatever its number. -/
theorem read_written {line : Line} (settled : line.IsSettled) (number : Nat) :
    Line.read? number line.written = some { line with number } := by
  have noSpace := Text.ne_blank_of_letter settled.tight.first (by decide : Text.isBlank ' ')
  have alone := read_of_tight settled.tight settled.uncommented number
  rw [Line.written, read_replicate_append number line.spaces noSpace, alone, Option.map_some,
    ← settled.untabbed]

section Settled

variable {lines : List Line} (settled : ∀ line ∈ lines, line.IsSettled)
include settled

/-- Lines that are written down are the lines of what is written. -/
theorem lines_written : Text.lines (Text.unlines (lines.map Line.written)) =
    lines.map Line.written := by
  apply Text.lines_unlines
  intro text member
  obtain ⟨line, inside, rfl⟩ := List.mem_map.mp member
  exact oneLine_indented line.spaces (settled line inside).oneLine (settled line inside).tight.last

/-- From a file whose lines are the lines that were written down, these are read, in order. -/
theorem readLines_of_written {rewritten : Text}
    (written : Text.lines rewritten = lines.map Line.written) :
    readLines rewritten = renumbered lines := by
  rw [readLines, written, List.zipIdx_map, List.filterMap_map, renumbered, ← List.filterMap_eq_map]
  apply List.filterMap_congr
  rintro ⟨line, number⟩ member
  have inside : line ∈ lines := List.fst_mem_of_mem_zipIdx member
  simp only [Function.comp_apply, Prod.map_apply, id_eq, read_written (settled line inside)]

end Settled

/-- The text of a line that is read holds no comment. -/
theorem uncommented_of_mem_readLines {content : Text} {line : Line}
    (member : line ∈ readLines content) : Text.withoutComment line.text = line.text := by
  obtain ⟨raw, _, readFrom⟩ := mem_readLines_iff.mp member
  rw [readFrom.text]
  exact Text.withoutComment_trim (Text.withoutComment_withoutComment raw)

/-- A line of a file is not read exactly if it is blank up to its comment. -/
theorem missing_iff {content raw : Text} {number : Nat}
    (located : rawLine? content number = some raw) :
    (∀ line ∈ readLines content, line.number ≠ number) ↔
      ∀ char ∈ Text.withoutComment raw, Text.isBlank char := by
  rw [← trimEnd_eq_nil_iff, ← codeOf]
  constructor
  · intro missing
    by_contra filled
    obtain ⟨line, read, _⟩ := read_eq_some number filled
    obtain ⟨same, readFrom⟩ := read_eq_some_iff.mp read
    exact missing line (mem_readLines_iff.mpr ⟨raw, same ▸ located, readFrom⟩) same
  · rintro empty line member rfl
    obtain ⟨other, found, readFrom⟩ := mem_readLines_iff.mp member
    obtain rfl : other = raw := Option.some.inj (found.symm.trans located)
    exact readFrom.filled empty

/-- Reading settles a file. The numbers of the lines increase. Each line is read from the line of
the file with its number, and its text has no blanks at its ends and no comment. A line of the file
is left out exactly if it is blank up to its comment. If no line is tabbed, then a file with a line
for each of them, spaces first and the text behind, has the same lines but for their numbers, and
there is such a file. -/
theorem readLines_settles (content : Text) :
    ((readLines content).Pairwise fun first second => first.number < second.number) ∧
      (∀ line ∈ readLines content,
        (∃ raw, rawLine? content line.number = some raw ∧ ReadFrom raw line) ∧
          Text.Tight line.text ∧ Text.withoutComment line.text = line.text) ∧
      (∀ number raw, rawLine? content number = some raw →
        ((∀ line ∈ readLines content, line.number ≠ number) ↔
          ∀ char ∈ Text.withoutComment raw, Text.isBlank char)) ∧
      ((∀ line ∈ readLines content, line.tabbed = false) →
        Text.lines (Text.unlines ((readLines content).map Line.written)) =
            (readLines content).map Line.written ∧
          ∀ rewritten, Text.lines rewritten = (readLines content).map Line.written →
            readLines rewritten = renumbered (readLines content)) := by
  refine ⟨readLines_increasing content, ?_, fun _ _ => missing_iff, ?_⟩
  · intro line member
    exact ⟨mem_readLines_iff.mp member, tight_of_mem_readLines member,
      uncommented_of_mem_readLines member⟩
  · intro untabbed
    have settled : ∀ line ∈ readLines content, line.IsSettled := fun line member =>
      { tight := tight_of_mem_readLines member
        uncommented := uncommented_of_mem_readLines member
        oneLine := oneLine_of_mem_readLines member
        untabbed := untabbed line member }
    exact ⟨lines_written settled, fun _ => readLines_of_written settled⟩

/-- A comment, a blank line with a tab and a number sign in a literal: two lines are read, and read
again from a file with other line ends. -/
theorem commented_file_settles :
    let content : Text := "# a\r\n  s = '# b' # c\n \t # d\nclass A:"
    rawLine? content 3 = some " \t # d" ∧ (∀ line ∈ readLines content, line.number ≠ 3) ∧
      ⟨2, 2, false, "s = '# b'"⟩ ∈ readLines content ∧
      Text.withoutComment "s = '# b'" = "s = '# b'".toList ∧
      (∀ line ∈ readLines content, line.tabbed = false) ∧
      readLines "  s = '# b'\r\nclass A:\n" =
        [⟨1, 2, false, "s = '# b'"⟩, ⟨2, 0, false, "class A:"⟩] := by
  intro content
  have read : readLines content =
      [⟨2, 2, false, "s = '# b'"⟩, ⟨4, 0, false, "class A:"⟩] := rfl
  have located : rawLine? content 3 = some " \t # d" := rfl
  have member : ⟨2, 2, false, "s = '# b'"⟩ ∈ readLines content := by simp [read]
  have untabbed : ∀ line ∈ readLines content, line.tabbed = false := by simp [read]
  obtain ⟨_, texts, missing, rewriting⟩ := readLines_settles content
  have again := (rewriting untabbed).2 "  s = '# b'\r\nclass A:\n" rfl
  refine ⟨located, (missing 3 _ located).mpr (by decide), member, (texts _ member).2.2, untabbed, ?_⟩
  rw [again, read]
  rfl

end PyxProject.Source
