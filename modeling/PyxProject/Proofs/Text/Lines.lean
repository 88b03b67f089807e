import PyxProject.Proofs.Text.Pieces
import PyxProject.Text.Lines

/-!
# Lines of a text

A text is taken apart into its lines one line at a time (`lines_append`), so lines that
are written one after the other are read back, as long as none of them holds a line feed
or ends in a carriage return (`lines_unlines`). A change that is made to each line on its
own is seen in the lines and nowhere else (`lines_mapLines`).
-/

namespace PyxProject.Text

/-- Change each line of a text. A line end that is marked by a carriage return as well is
part of the line here. -/
def mapLines (change : Text → Text) (text : Text) : Text :=
  join "\n" ((text.splitOn '\n').map change)

/-- A line that does not end in a carriage return is kept whole. -/
theorem dropReturn_of_ends {line : Text} (ends : line.getLast? ≠ some '\r') : dropReturn line = line := by
  unfold dropReturn
  split
  · rename_i returned
    exact absurd returned ends
  · rfl

/-- The first line of a text, and the lines of the rest. -/
theorem lines_append {line : Text} (oneLine : '\n' ∉ line) (rest : Text) :
    lines (line ++ '\n' :: rest) = dropReturn line :: lines rest := by
  obtain ⟨piece, pieces, found⟩ :=
    List.exists_cons_of_ne_nil (List.splitOn_ne_nil '\n' rest)
  rw [lines, lines, List.splitOn_append_cons_self, List.splitOn_eq_singleton oneLine, found]
  simp only [List.singleton_append, List.dropLast_cons_cons, List.map_cons, List.getLast?_cons_cons]
  cases (piece :: pieces).getLast? with
  | none => rfl
  | some last => cases last <;> rfl

/-- A text without line feeds is one line, unless it is empty. -/
theorem lines_of_line {line : Text} (filled : line ≠ []) (oneLine : '\n' ∉ line) :
    lines line = [line] := by
  cases line with
  | nil => exact absurd rfl filled
  | cons char rest =>
    rw [lines, List.splitOn_eq_singleton oneLine]
    rfl

/-- No line of a text holds a line feed. -/
theorem oneLine_of_mem_lines {text line : Text} (member : line ∈ lines text) : '\n' ∉ line := by
  have terminated (inside : line ∈ (text.splitOn '\n').dropLast.map dropReturn) :
      '\n' ∉ line := by
    obtain ⟨found, cut, rfl⟩ := List.mem_map.mp inside
    have whole := notMem_of_mem_splitOn ((List.dropLast_sublist _).subset cut)
    unfold dropReturn
    split
    · exact fun broken => whole ((List.dropLast_sublist _).subset broken)
    · exact whole
  unfold lines at member
  dsimp only at member
  split at member
  · exact terminated member
  · exact terminated member
  · rename_i last _ final
    rcases List.mem_append.mp member with inside | same
    · exact terminated inside
    · obtain rfl := List.mem_singleton.mp same
      exact notMem_of_mem_splitOn (List.mem_of_getLast? final)

/-- Lines that hold no line feed and do not end in a carriage return are read back as
they were written. -/
theorem lines_unlines {texts : List Text}
    (plain : ∀ text ∈ texts, '\n' ∉ text ∧ text.getLast? ≠ some '\r') :
    lines (unlines texts) = texts := by
  induction texts with
  | nil => rfl
  | cons text rest inductionHypothesis =>
    obtain ⟨oneLine, ends⟩ := plain text List.mem_cons_self
    have written : unlines (text :: rest) = text ++ '\n' :: unlines rest := by
      rw [unlines, List.flatMap_cons, List.append_assoc]
      rfl
    rw [written, lines_append oneLine, dropReturn_of_ends ends, inductionHypothesis fun other member =>
      plain other (List.mem_cons_of_mem _ member)]

/-- A change of each line that makes no new lines, leaves the line ends alone and takes
nothing but empty lines to empty lines changes the lines of a text. -/
theorem lines_mapLines {change : Text → Text}
    (oneLine : ∀ line, '\n' ∉ line → '\n' ∉ change line)
    (returned : ∀ line, dropReturn (change line) = change (dropReturn line))
    (empty : ∀ line, change line = [] ↔ line = []) (text : Text) :
    lines (mapLines change text) = (lines text).map change := by
  have pieces : (mapLines change text).splitOn '\n' = (text.splitOn '\n').map change := by
    refine List.splitOn_intercalate '\n' ?_ (by simp)
    intro line member
    obtain ⟨piece, inside, rfl⟩ := List.mem_map.mp member
    exact oneLine piece (notMem_of_mem_splitOn inside)
  have terminated : ((text.splitOn '\n').map change).dropLast.map dropReturn =
      ((text.splitOn '\n').dropLast.map dropReturn).map change := by
    rw [← List.map_dropLast, List.map_map, List.map_map]
    exact List.map_congr_left fun line _ => returned line
  rw [lines, lines, pieces]
  simp only [terminated, List.getLast?_map]
  cases (text.splitOn '\n').getLast? with
  | none => rfl
  | some last =>
    cases last with
    | nil =>
      have changed : change [] = [] := (empty []).mpr rfl
      simp [changed]
    | cons char rest =>
      cases changed : change (char :: rest) with
      | nil => cases (empty _).mp changed
      | cons other others => simp [changed]

end PyxProject.Text
