import PyxProject.Proofs.Source.Layout
import PyxProject.Proofs.Text.Spacing

/-!
# Lines and their numbers

A line that is read from a file keeps the number of the line in the file, and the lines
without code are counted as well. A line is read exactly from the line with its number
(`mem_readLines_iff`): its indentation, whether another blank takes part in it, and its
text are those of that line. The numbers increase (`readLines_increasing`), so a search
from the top of a file finds the line with the smallest number (`find_eq_some_iff`).
-/

namespace PyxProject.Source

/-- The line of a file with a given number, counted from one. -/
def rawLine? (content : Text) : Nat → Option Text
  | 0 => none
  | position + 1 => (Text.lines content)[position]?

/-- Whether another blank than a space stands before the first letter of a line. -/
def TabIndented (raw : Text) : Prop := ∃ blank ∈ raw.takeWhile Text.isBlank, blank ≠ ' '

/-- What a line is read from, but for its number. -/
structure ReadFrom (raw : Text) (line : Line) : Prop where
  filled : codeOf raw ≠ []
  spaces : line.spaces = (raw.takeWhile (· == ' ')).length
  tabbed : line.tabbed ↔ TabIndented raw
  text : line.text = Text.trim (Text.withoutComment raw)

/-- A run at the start of a text ends in the first part of it, if something else stands
there. -/
theorem takeWhile_append_of_mem {first : Text} {char : Char} (member : char ∈ first)
    {keep : Char → Bool} (dropped : keep char = false) (second : Text) :
    (first ++ second).takeWhile keep = first.takeWhile keep := by
  rw [List.takeWhile_append, if_neg]
  intro whole
  have kept := List.takeWhile_eq_self_iff.mp (List.takeWhile_prefix keep |>.eq_of_length whole) char member
  rw [dropped] at kept
  cases kept

/-- Behind the spaces at the start of a text stands a blank exactly if another blank than
a space is among the blanks there. -/
theorem head_isBlank_iff (text : Text) :
    (text.dropWhile (· == ' ')).head?.any Text.isBlank ↔ TabIndented text := by
  induction text with
  | nil => simp [TabIndented]
  | cons char rest inductionHypothesis =>
    by_cases space : char = ' '
    · subst space
      have blank : Text.isBlank ' ' = true := by decide
      rw [List.dropWhile_cons_of_pos (by decide), inductionHypothesis]
      simp [TabIndented, blank]
    · rw [List.dropWhile_cons_of_neg (by simpa using space)]
      by_cases blank : Text.isBlank char
      · simp [TabIndented, blank, space]
      · simp [TabIndented, blank]

/-- What a line of a file starts with is what its code starts with. -/
theorem takeWhile_codeOf {raw : Text} (filled : codeOf raw ≠ []) {keep : Char → Bool}
    (letters : ∀ char, Text.isBlank char = false → keep char = false) :
    raw.takeWhile keep = (codeOf raw).takeWhile keep := by
  obtain ⟨rest, whole⟩ := codeOf_beginning raw
  obtain ⟨last, ends, letter⟩ := getLast_codeOf filled
  have run := takeWhile_append_of_mem (List.mem_of_getLast? ends) (letters last letter) rest
  rwa [whole] at run

/-- A line that is read has the number it is read with, and is read from what stands there. -/
theorem readFrom_of_read {number : Nat} {raw : Text} {line : Line}
    (read : Line.read? number raw = some line) : line.number = number ∧ ReadFrom raw line := by
  have filled : codeOf raw ≠ [] := by
    intro empty
    rw [read_eq_none number empty] at read
    cases read
  obtain ⟨found, readFound, tight, _⟩ := read_eq_some number filled
  obtain rfl : found = line := Option.some.inj (readFound.symm.trans read)
  have parts : found = ⟨number, (codeOf raw).length - ((codeOf raw).dropWhile (· == ' ')).length,
      ((codeOf raw).dropWhile (· == ' ')).head?.any Text.isBlank,
      Text.trimStart ((codeOf raw).dropWhile (· == ' '))⟩ := by
    unfold Line.read? at read
    dsimp only at read
    split at read
    · cases read
    · exact (Option.some.inj read).symm
  refine ⟨by rw [parts], filled, ?_, ?_, ?_⟩
  · have sum := congrArg List.length
      (List.takeWhile_append_dropWhile (p := (· == ' ')) (l := codeOf raw))
    rw [List.length_append] at sum
    rw [parts, takeWhile_codeOf filled fun _ => Text.beq_space_of_letter]
    exact Nat.sub_eq_of_eq_add sum.symm
  · rw [parts, head_isBlank_iff, TabIndented, TabIndented, takeWhile_codeOf filled fun _ => id]
  · have trimmed : Text.trim found.text = Text.trim (Text.withoutComment raw) := by
      rw [parts, trimStart_dropWhile_space, Text.trim_trimStart, codeOf, Text.trim_trimEnd]
    rw [← trimmed, Text.trim_of_tight tight]

/-- Nothing else can be read from a line than what stands there. -/
theorem read_eq_some_iff {number : Nat} {raw : Text} {line : Line} :
    Line.read? number raw = some line ↔ line.number = number ∧ ReadFrom raw line := by
  refine ⟨readFrom_of_read, ?_⟩
  rintro ⟨numbered, readFrom⟩
  obtain ⟨found, read, _, _⟩ := read_eq_some number readFrom.filled
  obtain ⟨foundNumber, foundFrom⟩ := readFrom_of_read read
  have same : found = line := by
    have tabbed : found.tabbed = line.tabbed :=
      Bool.eq_iff_iff.mpr (foundFrom.tabbed.trans readFrom.tabbed.symm)
    have spaces := foundFrom.spaces.trans readFrom.spaces.symm
    have texts := foundFrom.text.trans readFrom.text.symm
    cases found
    cases line
    simp_all
  rw [read, same]

/-- A line is read from a file exactly if it is read from the line with its number. -/
theorem mem_readLines_iff {content : Text} {line : Line} :
    line ∈ readLines content ↔
      ∃ raw, rawLine? content line.number = some raw ∧ ReadFrom raw line := by
  simp only [readLines, List.mem_filterMap, Prod.exists, read_eq_some_iff]
  constructor
  · rintro ⟨raw, number, member, rfl, readFrom⟩
    obtain ⟨counted, inside, same⟩ := List.mem_zipIdx member
    obtain ⟨position, numbered⟩ : ∃ position, line.number = position + 1 :=
      ⟨line.number - 1, by omega⟩
    refine ⟨raw, ?_, readFrom⟩
    rw [numbered, rawLine?, same]
    simp only [numbered, Nat.add_sub_cancel]
    exact List.getElem?_eq_getElem _
  · rintro ⟨raw, located, readFrom⟩
    refine ⟨raw, line.number, ?_, rfl, readFrom⟩
    cases number : line.number with
    | zero =>
      rw [number] at located
      cases located
    | succ position =>
      rw [number] at located
      rw [List.mk_mem_zipIdx_iff_le_and_getElem?_sub]
      exact ⟨by omega, by simpa [rawLine?] using located⟩

/-- The numbers of the lines that are read increase. -/
theorem readLines_increasing (content : Text) :
    (readLines content).Pairwise fun first second => first.number < second.number := by
  have numbered (raws : List Text) (start : Nat) :
      (raws.zipIdx start).Pairwise fun first second => first.2 < second.2 := by
    induction raws generalizing start with
    | nil => exact .nil
    | cons raw raws inductionHypothesis =>
      rw [List.zipIdx_cons, List.pairwise_cons]
      refine ⟨fun entry member => ?_, inductionHypothesis (start + 1)⟩
      exact Nat.lt_of_succ_le (List.mem_zipIdx member).1
  refine (numbered _ 1).filterMap _ ?_
  rintro ⟨raw, number⟩ ⟨otherRaw, otherNumber⟩ before line read other otherRead
  rw [(read_eq_some_iff.mp read).1, (read_eq_some_iff.mp otherRead).1]
  exact before

/-- A line is the first of the given lines with a property: no other line with it has a
smaller number. -/
structure IsFirst (property : Line → Prop) (lines : List Line) (line : Line) : Prop where
  member : line ∈ lines
  holds : property line
  smallest : ∀ other ∈ lines, property other → line.number ≤ other.number

section Numbered

variable {lines : List Line}
  (increasing : lines.Pairwise fun first second => first.number < second.number)
include increasing

/-- A search from the top finds the line with the smallest number. -/
theorem find_eq_some_iff {test : Line → Bool} {line : Line} :
    lines.find? test = some line ↔ IsFirst (fun line => test line) lines line := by
  induction lines with
  | nil =>
    constructor
    · rintro ⟨⟩
    · rintro ⟨⟨⟩⟩
  | cons first rest inductionHypothesis =>
    obtain ⟨below, increasing⟩ := List.pairwise_cons.mp increasing
    by_cases holds : test first
    · rw [List.find?_cons_of_pos holds]
      constructor
      · intro same
        obtain rfl := Option.some.inj same
        refine ⟨List.mem_cons_self, holds, fun other member _ => ?_⟩
        rcases List.mem_cons.mp member with rfl | later
        · exact Nat.le_refl _
        · exact Nat.le_of_lt (below other later)
      · rintro ⟨member, _, smallest⟩
        rcases List.mem_cons.mp member with rfl | later
        · rfl
        · have atMost := smallest first List.mem_cons_self holds
          have above := below line later
          omega
    · rw [List.find?_cons_of_neg holds, inductionHypothesis increasing]
      constructor
      · rintro ⟨member, found, smallest⟩
        refine ⟨List.mem_cons_of_mem _ member, found, List.forall_mem_cons.mpr ⟨?_, smallest⟩⟩
        exact fun other => absurd other holds
      · rintro ⟨member, found, smallest⟩
        rcases List.mem_cons.mp member with rfl | later
        · exact absurd found holds
        · exact ⟨later, found, (List.forall_mem_cons.mp smallest).2⟩

/-- There is one first line with a property. -/
theorem IsFirst.unique {property : Line → Prop} {first second : Line}
    (isFirst : IsFirst property lines first) (isSecond : IsFirst property lines second) :
    first = second := by
  classical
  have found {line : Line} (isFirst : IsFirst property lines line) :
      lines.find? (fun line => property line) = some line :=
    (find_eq_some_iff increasing).mpr (by simpa using isFirst)
  exact Option.some.inj ((found isFirst).symm.trans (found isSecond))

end Numbered

end PyxProject.Source
