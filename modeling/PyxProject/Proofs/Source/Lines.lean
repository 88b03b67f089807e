import PyxProject.Proofs.Text.Lines
import PyxProject.Proofs.Text.Words
import PyxProject.Source.Indentation

/-!
# Reading lines

A line of a file holds code when something is left of it without its comment and
the blanks at its end. Reading gives exactly the lines that hold code, each with a
text that neither starts nor ends with a blank, and unless another blank than a space
takes part in the indentation the line can be written back from its parts.
-/

namespace PyxProject.Source

/-- A line of a file without its comment and without blanks at its end. -/
def codeOf (raw : Text) : Text := Text.trimEnd (Text.withoutComment raw)

/-- The lines of a file without comments, without blanks at their ends and without the
lines of which nothing is left. -/
def codeLines (content : Text) : List Text := ((Text.lines content).map codeOf).filter (· ≠ [])

/-- Nothing is left of a text by trimming its end exactly when it is blank throughout. -/
theorem trimEnd_eq_nil_iff (text : Text) :
    Text.trimEnd text = [] ↔ ∀ char ∈ text, Text.isBlank char := by
  simp [Text.trimEnd, Text.dropEndWhile]

/-- Nothing is left of a text by trimming exactly when it is blank throughout. -/
theorem trim_eq_nil_iff (text : Text) : Text.trim text = [] ↔ ∀ char ∈ text, Text.isBlank char := by
  rw [Text.trim, trimEnd_eq_nil_iff, Text.trimStart]
  constructor
  · intro blank char member
    rw [← List.takeWhile_append_dropWhile (p := Text.isBlank) (l := text)] at member
    rcases List.mem_append.mp member with start | rest
    · exact List.mem_takeWhile_imp start
    · exact blank char rest
  · intro blank char member
    exact blank char ((List.dropWhile_sublist _).subset member)

/-- What is left of a line is its beginning. -/
theorem codeOf_beginning (raw : Text) : codeOf raw <+: raw := by
  have uncommented : Text.withoutComment raw <+: raw := by
    have marked := (List.takeWhile_prefix (fun mark : Text.Mark => !mark.is '#')
      (l := Text.marks raw)).map Text.Mark.char
    rw [show (Text.marks raw).map Text.Mark.char = raw from Text.unmark_marks raw] at marked
    exact marked
  obtain ⟨dropped, whole, _⟩ := Text.rdropWhile_append Text.isBlank (Text.withoutComment raw)
  exact List.IsPrefix.trans ⟨dropped, whole.symm⟩ uncommented

/-- What is left of a line ends with no blank. -/
theorem getLast_codeOf {raw : Text} (filled : codeOf raw ≠ []) :
    ∃ last, (codeOf raw).getLast? = some last ∧ Text.isBlank last = false := by
  refine ⟨(codeOf raw).getLast filled, List.getLast?_eq_some_getLast filled, ?_⟩
  exact Bool.eq_false_iff.mpr
    (List.rdropWhile_last_not Text.isBlank (Text.withoutComment raw) filled)

/-- A line of which nothing is left is not read. -/
theorem read_eq_none {raw : Text} (number : Nat) (empty : codeOf raw = []) :
    Line.read? number raw = none := by
  have code : Text.trimEnd (Text.withoutComment raw) = [] := empty
  simp only [Line.read?, code]
  rfl

/-- A text cut after the spaces that it starts with. -/
theorem spaces_append_rest (text : Text) :
    text = List.replicate (text.takeWhile (· == ' ')).length ' ' ++ text.dropWhile (· == ' ') := by
  have spaces : text.takeWhile (· == ' ') =
      List.replicate (text.takeWhile (· == ' ')).length ' ' := by
    refine List.eq_replicate_iff.mpr ⟨rfl, fun char member => ?_⟩
    simpa using List.mem_takeWhile_imp member
  rw [← spaces, List.takeWhile_append_dropWhile]

/-- The spaces that a line starts with, and the rest. -/
theorem replicate_spaces_append (text : Text) :
    List.replicate (text.length - (text.dropWhile (· == ' ')).length) ' ' ++
      text.dropWhile (· == ' ') = text := by
  have whole : text.takeWhile (· == ' ') ++ text.dropWhile (· == ' ') = text :=
    List.takeWhile_append_dropWhile
  have count : (text.takeWhile (· == ' ')).length =
      text.length - (text.dropWhile (· == ' ')).length := by
    have lengths := congrArg List.length whole
    rw [List.length_append] at lengths
    omega
  rw [← count, ← spaces_append_rest]

/-- A line of which something is left is read. Its text is tight, and unless it is
tabbed it is written back as it was. -/
theorem read_eq_some {raw : Text} (number : Nat) (filled : codeOf raw ≠ []) :
    ∃ line, Line.read? number raw = some line ∧ Text.Tight line.text ∧
      (line.tabbed = false → line.written = codeOf raw) := by
  obtain ⟨last, ends, letter⟩ := getLast_codeOf filled
  have noSpace := Text.beq_space_of_letter letter
  have unindented : ((codeOf raw).dropWhile (· == ' ')).getLast? = some last :=
    Text.getLast_dropWhile ends noSpace
  have trimmed : (Text.trimStart ((codeOf raw).dropWhile (· == ' '))).getLast? = some last :=
    Text.getLast_dropWhile unindented letter
  have code : Text.trim ((codeOf raw).dropWhile (· == ' ')) ≠ [] := by
    intro blank
    have lastBlank := (trim_eq_nil_iff _).mp blank last (List.mem_of_getLast? unindented)
    rw [letter] at lastBlank
    cases lastBlank
  refine ⟨_, if_neg code, ⟨?_, last, trimmed, letter⟩, ?_⟩
  · have stops := List.head?_dropWhile_not Text.isBlank ((codeOf raw).dropWhile (· == ' '))
    change ∃ char, (Text.trimStart ((codeOf raw).dropWhile (· == ' '))).head? = some char ∧ _
    rw [← Text.trimStart] at stops
    cases start : Text.trimStart ((codeOf raw).dropWhile (· == ' ')) with
    | nil => simp [start] at trimmed
    | cons first rest =>
      rw [start] at stops
      exact ⟨first, rfl, by simpa using stops⟩
  · intro untabbed
    have startsWithout : Text.trimStart ((codeOf raw).dropWhile (· == ' ')) =
        (codeOf raw).dropWhile (· == ' ') := by
      change ((codeOf raw).dropWhile (· == ' ')).head?.any Text.isBlank = false at untabbed
      cases text : (codeOf raw).dropWhile (· == ' ') with
      | nil => rfl
      | cons first rest =>
        have first_letter : Text.isBlank first = false := by simpa [text] using untabbed
        simp [Text.trimStart, first_letter]
    change List.replicate ((codeOf raw).length - ((codeOf raw).dropWhile (· == ' ')).length) ' ' ++
      Text.trimStart ((codeOf raw).dropWhile (· == ' ')) = codeOf raw
    rw [startsWithout]
    exact replicate_spaces_append (codeOf raw)

/-- A line without comment and blanks around it is read as it is. -/
theorem read_of_tight {text : Text} (tight : Text.Tight text)
    (uncommented : Text.withoutComment text = text) (number : Nat) :
    Line.read? number text = some ⟨number, 0, false, text⟩ := by
  obtain ⟨first, starts, letter⟩ := tight.first
  have code : Text.trimEnd (Text.withoutComment text) = text := by
    rw [uncommented, Text.trimEnd_of_tight tight]
  have noSpace := Text.ne_blank_of_letter tight.first (by decide : Text.isBlank ' ')
  have unindented : text.dropWhile (· == ' ') = text := by
    simpa using (Text.run_of_rest ' ' 0 noSpace).2
  have filled : Text.trim text ≠ [] := by
    rw [Text.trim_of_tight tight]
    rintro rfl
    cases starts
  simp [Line.read?, code, unindented, filled, Text.trimStart_of_tight tight, starts, letter]

/-- Spaces in front of a text without line feeds that ends in no blank make no line end. -/
theorem oneLine_indented (spaces : Nat) {text : Text} (oneLine : '\n' ∉ text)
    (ends : ∃ char, text.getLast? = some char ∧ Text.isBlank char = false) :
    '\n' ∉ List.replicate spaces ' ' ++ text ∧
      (List.replicate spaces ' ' ++ text).getLast? ≠ some '\r' := by
  constructor
  · intro broken
    rcases List.mem_append.mp broken with space | inside
    · cases (List.mem_replicate.mp space).2
    · exact oneLine inside
  · obtain ⟨char, last, letter⟩ := ends
    rw [List.getLast?_append, last]
    exact Text.ne_blank_of_letter ⟨char, rfl, letter⟩ (by decide)

/-- Every line that is read has a tight text. -/
theorem tight_of_mem_readLines {content : Text} {line : Line} (member : line ∈ readLines content) :
    Text.Tight line.text := by
  obtain ⟨⟨raw, number⟩, _, read⟩ := List.mem_filterMap.mp member
  by_cases empty : codeOf raw = []
  · simp [read_eq_none number empty] at read
  · obtain ⟨other, readOther, tight, _⟩ := read_eq_some number empty
    obtain rfl : other = line := Option.some.inj (readOther.symm.trans read)
    exact tight

/-- A line that is read holds no line feed. -/
theorem oneLine_of_mem_readLines {content : Text} {line : Line} (member : line ∈ readLines content) :
    '\n' ∉ line.text := by
  obtain ⟨⟨raw, number⟩, inside, read⟩ := List.mem_filterMap.mp member
  have oneLine : '\n' ∉ raw := Text.oneLine_of_mem_lines (List.fst_mem_of_mem_zipIdx inside)
  simp only [Line.read?] at read
  split at read
  · cases read
  · obtain rfl := Option.some.inj read
    intro broken
    have inCode := (List.dropWhile_sublist _).subset ((List.dropWhile_sublist _).subset broken)
    exact oneLine ((codeOf_beginning raw).subset inCode)

/-- If no line is tabbed, the lines that are read, written back, are the lines of the
file without comments and blank lines. -/
theorem written_readLines {content : Text}
    (untabbed : ∀ line ∈ readLines content, line.tabbed = false) :
    (readLines content).map Line.written = codeLines content := by
  have numbered (raws : List Text) (start : Nat)
      (untabbed : ∀ line ∈ (raws.zipIdx start).filterMap
        fun entry => Line.read? entry.2 entry.1, line.tabbed = false) :
      ((raws.zipIdx start).filterMap fun entry => Line.read? entry.2 entry.1).map
          Line.written = (raws.map codeOf).filter (· ≠ []) := by
    induction raws generalizing start with
    | nil => rfl
    | cons raw raws inductionHypothesis =>
      rw [List.zipIdx_cons, List.filterMap_cons] at untabbed ⊢
      rw [List.map_cons]
      by_cases empty : codeOf raw = []
      · simp only [read_eq_none start empty] at untabbed ⊢
        rw [inductionHypothesis _ untabbed, List.filter_cons_of_neg (by simp [empty])]
      · obtain ⟨line, read, _, written⟩ := read_eq_some start empty
        simp only [read] at untabbed ⊢
        have lineUntabbed : line.tabbed = false := untabbed line List.mem_cons_self
        rw [List.map_cons, written lineUntabbed, List.filter_cons_of_pos (by simpa using empty),
          inductionHypothesis _ fun later member => untabbed later (List.mem_cons_of_mem _ member)]
  exact numbered _ 1 untabbed

/-- No line of an accepted file is tabbed. -/
theorem untabbed_of_infer {lines : List Line} {indentation : Indentation}
    (accepted : Indentation.infer lines = .ok indentation) :
    ∀ line ∈ lines, line.tabbed = false := by
  unfold Indentation.infer at accepted
  split at accepted
  · cases accepted
  · rename_i search
    intro line member
    simpa using List.find?_eq_none.mp search line member

/-- An accepted file has the smallest positive indentation as its unit. -/
theorem unit_of_infer {lines : List Line} {indentation : Indentation}
    (accepted : Indentation.infer lines = .ok indentation) :
    indentation = ⟨smallestIndent? lines⟩ := by
  unfold Indentation.infer at accepted
  split at accepted
  · cases accepted
  · split at accepted
    · rename_i flat
      rw [flat]
      exact (Except.ok.inj accepted).symm
    · rename_i unit smallest
      split at accepted
      · cases accepted
      · rw [smallest]
        exact (Except.ok.inj accepted).symm

/-- The unit of an accepted file is positive. -/
theorem unit_pos_of_infer {lines : List Line} {indentation : Indentation} {unit : Nat}
    (accepted : Indentation.infer lines = .ok indentation) (indented : indentation.unit = some unit) :
    0 < unit := by
  rw [unit_of_infer accepted] at indented
  have member := List.min?_mem indented
  simpa using (List.mem_filter.mp member).2

/-- The unit of an accepted file divides every indentation. -/
theorem multiple_of_infer {lines : List Line} {indentation : Indentation} {unit : Nat}
    (accepted : Indentation.infer lines = .ok indentation) (indented : indentation.unit = some unit) :
    ∀ line ∈ lines, unit ∣ line.spaces := by
  have smallest : smallestIndent? lines = some unit := by
    rw [unit_of_infer accepted] at indented
    exact indented
  unfold Indentation.infer at accepted
  split at accepted
  · cases accepted
  · simp only [smallest] at accepted
    split at accepted
    · cases accepted
    · rename_i search
      intro line member
      apply Nat.dvd_of_mod_eq_zero
      simpa using List.find?_eq_none.mp search line member

/-- A level of nesting takes some space in every accepted file. -/
theorem step_pos_of_infer {lines : List Line} {indentation : Indentation}
    (accepted : Indentation.infer lines = .ok indentation) : 0 < indentation.step := by
  unfold Indentation.step
  cases indented : indentation.unit with
  | none => decide
  | some unit => exact unit_pos_of_infer accepted indented

end PyxProject.Source
