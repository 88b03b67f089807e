import PyxProject.Proofs.Source.Layout
import PyxProject.Proofs.Text.Lines

/-!
# The width of the indentation

A file keeps its structure when every indentation is taken a number of times. The lines
that are read are then the same but for their indentation (`readLines_widen`), the unit
of the file is taken as many times (`infer_widen`), and no line changes its level
(`level_widen`).
-/

namespace PyxProject.Source

/-- A text with the spaces that it starts with taken a number of times. -/
def widenText (factor : Nat) (text : Text) : Text :=
  List.replicate (factor * (text.takeWhile (· == ' ')).length) ' ' ++ text.dropWhile (· == ' ')

/-- A file with every indentation taken a number of times. -/
def widen (factor : Nat) (content : Text) : Text := Text.mapLines (widenText factor) content

/-- A line with its indentation taken a number of times. -/
def Line.widen (factor : Nat) (line : Line) : Line := { line with spaces := factor * line.spaces }

/-- The indentation of a file with its unit taken a number of times. -/
def Indentation.widen (factor : Nat) (indentation : Indentation) : Indentation :=
  ⟨indentation.unit.map (factor * ·)⟩

/-- What follows the spaces at the start of a text starts with no space. -/
theorem head_rest (text : Text) : (text.dropWhile (· == ' ')).head? ≠ some ' ' := by
  intro space
  have stops := List.head?_dropWhile_not (· == ' ') text
  rw [space] at stops
  simp at stops

/-- Widening spaces in front of a text that starts with none. -/
theorem widenText_replicate_append (factor count : Nat) {rest : Text}
    (starts : rest.head? ≠ some ' ') :
    widenText factor (List.replicate count ' ' ++ rest) =
      List.replicate (factor * count) ' ' ++ rest := by
  obtain ⟨spaces, remaining⟩ := Text.run_of_rest ' ' count starts
  rw [widenText, spaces, remaining, List.length_replicate]

/-- Widening changes nothing in a text that starts with no space. -/
theorem widenText_of_head (factor : Nat) {text : Text} (starts : text.head? ≠ some ' ') :
    widenText factor text = text := by
  simpa using widenText_replicate_append factor 0 starts

/-- Widening leaves what follows the indentation as it is. -/
theorem widenText_append (factor : Nat) {last : Char} (other : last ≠ ' ') (text : Text) :
    widenText factor (text ++ [last]) = widenText factor text ++ [last] := by
  have starts : (text.dropWhile (· == ' ') ++ [last]).head? ≠ some ' ' := by
    rw [List.head?_append]
    cases rest : (text.dropWhile (· == ' ')).head? with
    | none => simpa using other
    | some char =>
      rw [Option.some_or, ← rest]
      exact head_rest text
  have whole : text ++ [last] = List.replicate (text.takeWhile (· == ' ')).length ' ' ++
      (text.dropWhile (· == ' ') ++ [last]) := by
    rw [← List.append_assoc, ← spaces_append_rest]
  rw [whole, widenText_replicate_append factor _ starts, widenText, List.append_assoc]

/-- What is read from a line, by the spaces that it starts with and the rest of it. The code of
the rest starts where the rest starts, so with no space. -/
theorem read_replicate_append (number count : Nat) {rest : Text} (starts : rest.head? ≠ some ' ') :
    Line.read? number (List.replicate count ' ' ++ rest) =
      (Line.read? number rest).map fun line => { line with spaces := count } := by
  have blank : ∀ char ∈ List.replicate count ' ', Text.isBlank char := by
    intro char member
    obtain rfl := (List.mem_replicate.mp member).2
    decide
  have uncommented : Text.withoutComment (List.replicate count ' ') = List.replicate count ' ' :=
    Text.withoutComment_of_absent fun member => by cases (List.mem_replicate.mp member).2
  have code : codeOf (List.replicate count ' ' ++ rest) =
      if codeOf rest = [] then [] else List.replicate count ' ' ++ codeOf rest := by
    rw [codeOf, withoutComment_append, if_pos uncommented, Text.regionAfter_blanks blank,
      trimEnd_append, trimEnd_blanks blank]
    rfl
  by_cases empty : codeOf rest = []
  · rw [if_pos empty] at code
    rw [read_eq_none number code, read_eq_none number empty]
    rfl
  · rw [if_neg empty] at code
    have codeStarts : (codeOf rest).head? ≠ some ' ' := by
      obtain ⟨after, whole⟩ := codeOf_beginning rest
      rw [← whole, List.head?_append_of_ne_nil _ empty] at starts
      exact starts
    have unindented := (Text.run_of_rest ' ' 0 codeStarts).2
    rw [List.replicate_zero, List.nil_append] at unindented
    have width : (List.replicate count ' ' ++ codeOf rest).length - (codeOf rest).length = count := by
      simp
    unfold codeOf at code unindented codeStarts width
    simp only [Line.read?, code, unindented, (Text.run_of_rest ' ' count codeStarts).2, width]
    split <;> rfl

/-- What is read from a widened line is the line that is read, widened. -/
theorem read_widenText (factor number : Nat) (raw : Text) :
    Line.read? number (widenText factor raw) = (Line.read? number raw).map (Line.widen factor) := by
  have starts := head_rest raw
  have widened : Line.read? number (widenText factor raw) =
      (Line.read? number (raw.dropWhile (· == ' '))).map fun line =>
        { line with spaces := factor * (raw.takeWhile (· == ' ')).length } :=
    read_replicate_append number _ starts
  have plain := read_replicate_append number (raw.takeWhile (· == ' ')).length starts
  rw [← spaces_append_rest] at plain
  rw [widened, plain, Option.map_map]
  rfl

/-- A widened text ends in a character other than a space if the text does. -/
theorem getLast_widenText {factor : Nat} {text : Text} {last : Char} (other : last ≠ ' ')
    (ends : (widenText factor text).getLast? = some last) : text.getLast? = some last := by
  by_cases empty : text.dropWhile (· == ' ') = []
  · rw [widenText, empty, List.append_nil] at ends
    exact absurd (List.mem_replicate.mp (List.mem_of_getLast? ends)).2 other
  · rw [widenText, List.getLast?_append_of_ne_nil _ empty] at ends
    rw [spaces_append_rest text, List.getLast?_append_of_ne_nil _ empty, ends]

/-- Nothing is left of a text by widening exactly if there was nothing. -/
theorem widenText_eq_nil_iff {factor : Nat} (positive : 0 < factor) (text : Text) :
    widenText factor text = [] ↔ text = [] := by
  constructor
  · intro empty
    obtain ⟨spaces, rest⟩ := List.append_eq_nil_iff.mp empty
    have none : (text.takeWhile (· == ' ')).length = 0 := by
      have count := congrArg List.length spaces
      rw [List.length_replicate] at count
      exact (Nat.mul_eq_zero.mp count).resolve_left (Nat.ne_of_gt positive)
    rw [spaces_append_rest text, none, rest]
    rfl
  · rintro rfl
    rfl

/-- The lines of a widened file. -/
theorem lines_widen {factor : Nat} (positive : 0 < factor) (content : Text) :
    Text.lines (widen factor content) = (Text.lines content).map (widenText factor) := by
  apply Text.lines_mapLines
  · intro line oneLine member
    simp only [widenText, List.mem_append, List.mem_replicate] at member
    rcases member with ⟨_, space⟩ | inside
    · cases space
    · exact oneLine ((List.dropWhile_sublist _).subset inside)
  · intro line
    by_cases returned : line.getLast? = some '\r'
    · have parts : line.dropLast ++ ['\r'] = line := List.dropLast_append_getLast? _ returned
      have dropped (text : Text) : Text.dropReturn (text ++ ['\r']) = text := by
        simp [Text.dropReturn]
      rw [← parts, widenText_append factor (by decide), dropped, dropped]
    · rw [Text.dropReturn_of_ends returned,
        Text.dropReturn_of_ends fun ends => returned (getLast_widenText (by decide) ends)]
  · exact widenText_eq_nil_iff positive

/-- The lines that are read from a widened file are those of the file, widened. -/
theorem readLines_widen {factor : Nat} (positive : 0 < factor) (content : Text) :
    readLines (widen factor content) = (readLines content).map (Line.widen factor) := by
  rw [readLines, readLines, lines_widen positive, List.zipIdx_map, List.filterMap_map,
    List.map_filterMap]
  apply List.filterMap_congr
  rintro ⟨raw, number⟩ _
  simp only [Function.comp_apply, Prod.map_apply, id_eq, read_widenText]

/-- The smallest indentation is taken as many times as all of them. -/
theorem smallestIndent_widen {factor : Nat} (positive : 0 < factor) (lines : List Line) :
    smallestIndent? (lines.map (Line.widen factor)) = (smallestIndent? lines).map (factor * ·) := by
  have indents : ((lines.map (Line.widen factor)).map Line.spaces).filter (0 < ·) =
      ((lines.map Line.spaces).filter (0 < ·)).map (factor * ·) := by
    have widened : (lines.map (Line.widen factor)).map Line.spaces =
        (lines.map Line.spaces).map (factor * ·) := by
      rw [List.map_map, List.map_map]
      rfl
    rw [widened, List.filter_map]
    congr 1
    apply List.filter_congr
    intro spaces _
    simp [positive]
  rw [smallestIndent?, indents]
  change _ = ((lines.map Line.spaces).filter (0 < ·)).min?.map (factor * ·)
  cases smallest : ((lines.map Line.spaces).filter (0 < ·)).min? with
  | none =>
    rw [List.min?_eq_none_iff.mp smallest]
    rfl
  | some unit =>
    obtain ⟨member, least⟩ := List.min?_eq_some_iff.mp smallest
    refine List.min?_eq_some_iff.mpr ⟨List.mem_map_of_mem member, fun spaces inside => ?_⟩
    obtain ⟨other, found, rfl⟩ := List.mem_map.mp inside
    exact Nat.mul_le_mul_left factor (least other found)

/-- The indentation of a widened file is accepted exactly if that of the file is, and
its unit is then the unit of the file, widened. -/
theorem infer_widen {factor : Nat} (positive : 0 < factor) (lines : List Line)
    (widened : Indentation) :
    Indentation.infer (lines.map (Line.widen factor)) = .ok widened ↔
      ∃ indentation, Indentation.infer lines = .ok indentation ∧
        widened = indentation.widen factor := by
  have tabbed : (lines.map (Line.widen factor)).find? Line.tabbed =
      (lines.find? Line.tabbed).map (Line.widen factor) := List.find?_map
  have misaligned (unit : Nat) :
      ((lines.map (Line.widen factor)).find? fun line => line.spaces % (factor * unit) ≠ 0) =
        (lines.find? fun line => line.spaces % unit ≠ 0).map (Line.widen factor) := by
    rw [List.find?_map]
    congr 2
    funext line
    have remainder : (line.widen factor).spaces % (factor * unit) = factor * (line.spaces % unit) :=
      Nat.mul_mod_mul_left factor line.spaces unit
    simp only [Function.comp_apply, remainder, ne_eq, Nat.mul_eq_zero, positive.ne', false_or]
  simp only [Indentation.infer, tabbed, smallestIndent_widen positive]
  cases lines.find? Line.tabbed with
  | some line => exact iff_of_false nofun nofun
  | none =>
    cases smallestIndent? lines with
    | none =>
      simp only [Option.map_none, Except.ok.injEq]
      constructor
      · intro same
        exact ⟨⟨none⟩, rfl, same.symm⟩
      · rintro ⟨indentation, rfl, rfl⟩
        rfl
    | some unit =>
      simp only [Option.map_some, misaligned]
      cases lines.find? fun line => line.spaces % unit ≠ 0 with
      | some line => exact iff_of_false nofun nofun
      | none =>
        simp only [Option.map_none, Except.ok.injEq]
        constructor
        · intro same
          exact ⟨⟨some unit⟩, rfl, same.symm⟩
        · rintro ⟨indentation, rfl, rfl⟩
          rfl

/-- A widened line has the level of the line. -/
theorem level_widen {factor : Nat} (positive : 0 < factor) (indentation : Indentation)
    (line : Line) :
    (indentation.widen factor).level (line.widen factor) = indentation.level line := by
  unfold Indentation.level Indentation.widen
  cases indentation.unit with
  | none => rfl
  | some unit => exact Nat.mul_div_mul_left _ _ positive

end PyxProject.Source
