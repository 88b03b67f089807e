import PyxProject.Proofs.Source.Lines
import PyxProject.Proofs.Text.Squeeze

/-!
# The layout of a file

The layout of a file is what may change while its code stays the same: lines that hold
no code, what follows the code on a line, and how wide the gaps between the words of a
line are. `Relayout` lists the changes, one at a time and on the text of the file.

What is left of a file when its layout is disregarded are its normal lines: the lines
that hold code, without their numbers and squeezed. They are found line by line
(`normalLines_join`), and no change of layout touches them
(`normalLines_eq_of_relayout`).
-/

namespace PyxProject.Source

/-- A line without its number and squeezed. -/
def Line.normal (line : Line) : Line := { line with number := 0, text := Text.squeeze line.text }

/-- The normal line that is read from a line of a file, unless it holds no code. -/
def Line.normal? (raw : Text) : Option Line := (Line.read? 0 raw).map Line.normal

/-- The lines of a file that hold code, without their numbers and squeezed. -/
def normalLines (content : Text) : List Line := (readLines content).map Line.normal

/-- Whether a text is blank or a comment, after blanks. -/
def isIdle (text : Text) : Bool := (Text.trimStart text).head?.all (· == '#')

/-- One change of layout. A file is given by the texts between its line feeds. -/
inductive Relayout : Text → Text → Prop
  /-- A line that is blank or holds only a comment is put in. -/
  | idleLine (above below : List Text) (line : Text) (oneLine : '\n' ∉ line) (idle : isIdle line) :
      Relayout (Text.join "\n" (above ++ below)) (Text.join "\n" (above ++ line :: below))
  /-- The blanks and the comment at the end of a line become others, where no literal is
  open. -/
  | ending (above below : List Text) (code old new : Text) (oneLine : '\n' ∉ code ++ old ++ new)
      (outside : Text.regionAfter .code code = .code) (idleOld : isIdle old)
      (idleNew : isIdle new) :
      Relayout (Text.join "\n" (above ++ (code ++ old) :: below))
        (Text.join "\n" (above ++ (code ++ new) :: below))
  /-- Blanks after the first character of a line that is none become other blanks, where
  no literal is open. -/
  | gap (above below : List Text) (before old new after : Text)
      (oneLine : '\n' ∉ before ++ old ++ new ++ after)
      (indented : ∃ char ∈ before, Text.isBlank char = false)
      (outside : Text.regionAfter .code before = .code)
      (oldFilled : old ≠ []) (oldBlank : ∀ char ∈ old, Text.isBlank char)
      (newFilled : new ≠ []) (newBlank : ∀ char ∈ new, Text.isBlank char) :
      Relayout (Text.join "\n" (above ++ (before ++ old ++ after) :: below))
        (Text.join "\n" (above ++ (before ++ new ++ after) :: below))

/-- Trimming the end of a text stops in its last part, unless that is blank. -/
theorem trimEnd_append (first second : Text) :
    Text.trimEnd (first ++ second) =
      if Text.trimEnd second = [] then Text.trimEnd first else first ++ Text.trimEnd second := by
  simp only [Text.trimEnd, Text.dropEndWhile, List.reverse_append, List.dropWhile_append,
    List.reverse_eq_nil_iff, List.isEmpty_iff]
  split <;> simp

/-- Nothing is left of blanks. -/
theorem trimEnd_blanks {blanks : Text} (allBlank : ∀ char ∈ blanks, Text.isBlank char) :
    Text.trimEnd blanks = [] := (trimEnd_eq_nil_iff blanks).mpr allBlank

/-- A comment starts in the first part of a text or in the second, which is then scanned
from where the first ends. -/
theorem withoutComment_append (first second : Text) :
    Text.withoutComment (first ++ second) =
      if Text.withoutComment first = first then
        first ++ Text.unmark ((Text.marksFrom (Text.regionAfter .code first) second).takeWhile
          fun mark => !mark.is '#')
      else Text.withoutComment first := by
  unfold Text.withoutComment Text.marks
  rw [Text.marksFrom_append, List.takeWhile_append]
  by_cases whole : ((Text.marksFrom .code first).takeWhile fun mark => !mark.is '#').length =
      (Text.marksFrom .code first).length
  · have noComment : (Text.marksFrom .code first).takeWhile (fun mark => !mark.is '#') =
        Text.marksFrom .code first := (List.takeWhile_prefix _).eq_of_length whole
    rw [if_pos whole, if_pos (by rw [noComment, Text.unmark_marksFrom]), Text.unmark,
      List.map_append]
    exact congrArg (· ++ _) (Text.unmark_marksFrom .code first)
  · rw [if_neg whole, if_neg]
    intro same
    apply whole
    have lengths := congrArg List.length (same.trans (Text.unmark_marksFrom .code first).symm)
    simpa [Text.unmark] using lengths

/-- Blanks at the end of a line are no part of its code. -/
theorem codeOf_append_blanks (raw : Text) {blanks : Text}
    (allBlank : ∀ char ∈ blanks, Text.isBlank char) : codeOf (raw ++ blanks) = codeOf raw := by
  unfold codeOf
  rw [withoutComment_append]
  split
  · rename_i whole
    have blank : ∀ char ∈ Text.unmark ((Text.marksFrom (Text.regionAfter .code raw) blanks).takeWhile
        fun mark => !mark.is '#'), Text.isBlank char := by
      intro char member
      apply allBlank
      rw [← Text.unmark_marksFrom (Text.regionAfter .code raw) blanks]
      exact ((List.takeWhile_sublist _).map Text.Mark.char).subset member
    rw [trimEnd_append, if_pos (trimEnd_blanks blank), whole]
  · rfl

/-- What is idle at the end of a line, where no literal is open, is no part of its code. -/
theorem codeOf_append_idle {code idle : Text} (outside : Text.regionAfter .code code = .code)
    (isIdle : isIdle idle) : codeOf (code ++ idle) = codeOf code := by
  have parts : idle.takeWhile Text.isBlank ++ Text.trimStart idle = idle :=
    List.takeWhile_append_dropWhile
  have allBlank : ∀ char ∈ idle.takeWhile Text.isBlank, Text.isBlank char := fun char member =>
    List.mem_takeWhile_imp member
  have commented (comment : Text) : Text.withoutComment (code ++ idle.takeWhile Text.isBlank ++
      '#' :: comment) = Text.withoutComment (code ++ idle.takeWhile Text.isBlank) := by
    rw [withoutComment_append]
    split
    · rename_i whole
      rw [Text.regionAfter_append, outside, Text.regionAfter_blanks allBlank, Text.marksFrom,
        List.takeWhile_cons_of_neg (by decide), whole]
      exact List.append_nil _
    · rfl
  rw [← codeOf_append_blanks code allBlank]
  cases rest : Text.trimStart idle with
  | nil =>
    rw [rest, List.append_nil] at parts
    rw [parts]
  | cons char comment =>
    obtain rfl : char = '#' := by simpa [Source.isIdle, rest] using isIdle
    rw [rest] at parts
    rw [codeOf, codeOf, ← commented comment, List.append_assoc, parts]

/-- A line that is idle holds no code. -/
theorem codeOf_of_idle {idle : Text} (isIdle : isIdle idle) : codeOf idle = [] :=
  codeOf_append_idle (rfl : Text.regionAfter .code [] = .code) isIdle

/-- What is read from a line is settled by its code. -/
theorem normal_congr {first second : Text} (same : codeOf first = codeOf second) :
    Line.normal? first = Line.normal? second := by
  unfold codeOf at same
  simp only [Line.normal?, Line.read?, same]

/-- A line without code gives no normal line. -/
theorem normal_eq_none {raw : Text} (empty : codeOf raw = []) : Line.normal? raw = none := by
  rw [Line.normal?, read_eq_none 0 empty]
  rfl

/-- Spaces at the start of a text are among the blanks there. -/
theorem trimStart_dropWhile_space (text : Text) :
    Text.trimStart (text.dropWhile (· == ' ')) = Text.trimStart text := by
  induction text with
  | nil => rfl
  | cons char rest inductionHypothesis =>
    by_cases space : char = ' '
    · subst space
      rw [List.dropWhile_cons_of_pos (by decide), inductionHypothesis]
      rfl
    · rw [List.dropWhile_cons_of_neg (by simpa using space)]

/-- The normal line of a line with code: its indentation and its squeezed text. -/
theorem normal_eq_some {raw : Text} (filled : codeOf raw ≠ []) :
    Line.normal? raw = some
      { number := 0
        spaces := (codeOf raw).length - ((codeOf raw).dropWhile (· == ' ')).length
        tabbed := ((codeOf raw).dropWhile (· == ' ')).head?.any Text.isBlank
        text := Text.squeeze (Text.trimStart (codeOf raw)) } := by
  obtain ⟨line, read, _⟩ := read_eq_some 0 filled
  rw [← trimStart_dropWhile_space, Line.normal?]
  unfold Line.read? at read ⊢
  simp only at read ⊢
  split at read
  · cases read
  · rename_i code
    rw [if_neg code]
    rfl

/-- Dropping at the start stops in the first part of a text, if something is left of it. -/
theorem dropWhile_append_of_mem {first : Text} {char : Char} (member : char ∈ first)
    (drop : Char → Bool) (kept : drop char = false) (second : Text) :
    (first ++ second).dropWhile drop = first.dropWhile drop ++ second ∧
      first.dropWhile drop ≠ [] := by
  have filled : first.dropWhile drop ≠ [] := by
    intro empty
    have dropped := List.dropWhile_eq_nil_iff.mp empty char member
    rw [kept] at dropped
    cases dropped
  refine ⟨?_, filled⟩
  rw [List.dropWhile_append, if_neg (by simpa using filled)]

/-- The code of a line around a run of blanks. Either the code ends before the run, or
it goes on after it. -/
theorem codeOf_gap_cases {before : Text} (outside : Text.regionAfter .code before = .code)
    (after : Text) :
    (∀ run, (∀ char ∈ run, Text.isBlank char) → codeOf (before ++ run ++ after) = codeOf before) ∨
      ∃ rest, (∃ last, rest.getLast? = some last ∧ Text.isBlank last = false) ∧
        ∀ run, (∀ char ∈ run, Text.isBlank char) →
          codeOf (before ++ run ++ after) = before ++ run ++ rest := by
  by_cases whole : Text.withoutComment before = before
  · have code (run : Text) (blank : ∀ char ∈ run, Text.isBlank char) :
        Text.withoutComment (before ++ run ++ after) =
          before ++ run ++ Text.withoutComment after := by
      have passed : (Text.marksFrom .code run).takeWhile (fun mark => !mark.is '#') =
          Text.marksFrom .code run := by
        apply List.takeWhile_eq_self_iff.mpr
        intro mark member
        have isBlank := (Text.marksFrom_blanks blank mark member).2
        simp [Text.Mark.is, Text.ne_of_isBlank isBlank '#' (by decide)]
      have wholeRun : Text.withoutComment (before ++ run) = before ++ run := by
        rw [withoutComment_append, if_pos whole, outside, passed, Text.unmark_marksFrom]
      rw [withoutComment_append, if_pos wholeRun, Text.regionAfter_append, outside,
        Text.regionAfter_blanks blank]
      rfl
    by_cases ended : Text.trimEnd (Text.withoutComment after) = []
    · refine .inl fun run blank => ?_
      rw [codeOf, code run blank, trimEnd_append, if_pos ended, trimEnd_append,
        if_pos (trimEnd_blanks blank), codeOf, whole]
    · refine .inr ⟨Text.trimEnd (Text.withoutComment after), ?_, fun run blank => ?_⟩
      · refine ⟨_, List.getLast?_eq_some_getLast ended, ?_⟩
        exact Bool.eq_false_iff.mpr
          (List.rdropWhile_last_not Text.isBlank (Text.withoutComment after) ended)
      · rw [codeOf, code run blank, trimEnd_append, if_neg ended]
  · refine .inl fun run _ => ?_
    rw [codeOf, List.append_assoc, withoutComment_append, if_neg whole, codeOf]

/-- How wide a gap in a text is does not matter when it is squeezed. -/
theorem squeeze_gap {before old new after : Text}
    (starts : ∃ char, before.head? = some char ∧ Text.isBlank char = false)
    (ends : ∃ char, after.getLast? = some char ∧ Text.isBlank char = false)
    (outside : Text.regionAfter .code before = .code)
    (oldFilled : old ≠ []) (oldBlank : ∀ char ∈ old, Text.isBlank char)
    (newFilled : new ≠ []) (newBlank : ∀ char ∈ new, Text.isBlank char) :
    Text.squeeze (before ++ (old ++ after)) = Text.squeeze (before ++ (new ++ after)) := by
  obtain ⟨first, head, letter⟩ := starts
  obtain ⟨last, final, lastLetter⟩ := ends
  have tight (run : Text) : Text.Tight (before ++ (run ++ after)) :=
    ⟨⟨first, by rw [List.head?_append, head]; rfl, letter⟩,
      ⟨last, by rw [List.getLast?_append, List.getLast?_append, final]; rfl, lastLetter⟩⟩
  have marks (run : Text) (blank : ∀ char ∈ run, Text.isBlank char) :
      Text.marks (Text.trim (before ++ (run ++ after))) =
        Text.marksFrom .code before ++ (Text.marksFrom .code run ++ Text.marksFrom .code after) := by
    rw [Text.trim_of_tight (tight run), Text.marks, Text.marksFrom_append, outside,
      Text.marksFrom_append, Text.regionAfter_blanks blank]
  have filled {run : Text} (filled : run ≠ []) : Text.marksFrom .code run ≠ [] := by
    cases run with
    | nil => exact absurd rfl filled
    | cons char run => exact List.cons_ne_nil _ _
  rw [Text.squeeze, Text.squeeze, marks old oldBlank, marks new newBlank]
  exact Text.squeezeMarks_run (filled oldFilled) (filled newFilled) (Text.marksFrom_blanks oldBlank)
    (Text.marksFrom_blanks newBlank) false _ _

/-- How wide a gap in the code of a line is does not matter to its normal line. -/
theorem normal_of_gap {before old new after : Text}
    (indented : ∃ char ∈ before, Text.isBlank char = false)
    (outside : Text.regionAfter .code before = .code)
    (oldFilled : old ≠ []) (oldBlank : ∀ char ∈ old, Text.isBlank char)
    (newFilled : new ≠ []) (newBlank : ∀ char ∈ new, Text.isBlank char) :
    Line.normal? (before ++ old ++ after) = Line.normal? (before ++ new ++ after) := by
  obtain ⟨char, member, letter⟩ := indented
  have noSpace := Text.beq_space_of_letter letter
  rcases codeOf_gap_cases outside after with ended | ⟨rest, ends, goesOn⟩
  · exact normal_congr ((ended old oldBlank).trans (ended new newBlank).symm)
  · have start := (dropWhile_append_of_mem member Text.isBlank letter []).2
    have normal (run : Text) (blank : ∀ char ∈ run, Text.isBlank char) :
        Line.normal? (before ++ run ++ after) = some
          { number := 0
            spaces := before.length - (before.dropWhile (· == ' ')).length
            tabbed := (before.dropWhile (· == ' ')).head?.any Text.isBlank
            text := Text.squeeze (Text.trimStart before ++ (run ++ rest)) } := by
      obtain ⟨unindented, filled⟩ := dropWhile_append_of_mem member (· == ' ') noSpace
        (run ++ rest)
      have trimmed := (dropWhile_append_of_mem member Text.isBlank letter (run ++ rest)).1
      have code : codeOf (before ++ run ++ after) = before ++ (run ++ rest) := by
        rw [goesOn run blank, List.append_assoc]
      have nonempty : before ++ (run ++ rest) ≠ [] :=
        List.append_ne_nil_of_left_ne_nil (List.ne_nil_of_mem member) _
      have width : (before ++ (run ++ rest)).length -
          (before.dropWhile (· == ' ') ++ (run ++ rest)).length =
          before.length - (before.dropWhile (· == ' ')).length := by
        simp only [List.length_append]
        omega
      rw [normal_eq_some (code ▸ nonempty), code, unindented, Text.trimStart, trimmed, width,
        List.head?_append_of_ne_nil _ filled]
      rfl
    have starts : ∃ char, (Text.trimStart before).head? = some char ∧ Text.isBlank char = false := by
      have stops := List.head?_dropWhile_not Text.isBlank before
      cases trimmed : Text.trimStart before with
      | nil => exact absurd trimmed start
      | cons first _ =>
        rw [← Text.trimStart, trimmed] at stops
        exact ⟨first, rfl, by simpa using stops⟩
    have inCode : Text.regionAfter .code (Text.trimStart before) = .code := by
      have parts : before.takeWhile Text.isBlank ++ Text.trimStart before = before :=
        List.takeWhile_append_dropWhile
      have blank : ∀ char ∈ before.takeWhile Text.isBlank, Text.isBlank char := fun char member =>
        List.mem_takeWhile_imp member
      rw [← parts, Text.regionAfter_append, Text.regionAfter_blanks blank] at outside
      exact outside
    rw [normal old oldBlank, normal new newBlank,
      squeeze_gap starts ends inCode oldFilled oldBlank newFilled newBlank]

/-- The normal lines of a file are found in the texts between its line feeds. What
belongs to the line ends has no part in them. -/
theorem normalLines_eq_pieces (content : Text) :
    normalLines content = (content.splitOn '\n').filterMap Line.normal? := by
  have numbered (number : Nat) (raw : Text) :
      (Line.read? number raw).map Line.normal = Line.normal? raw := by
    unfold Line.normal? Line.read?
    simp only
    split <;> rfl
  have read : normalLines content = (Text.lines content).filterMap Line.normal? := by
    have lines : ((Text.lines content).zipIdx 1).map Prod.fst = Text.lines content :=
      List.zipIdx_map_fst 1 _
    rw [normalLines, readLines, List.map_filterMap, ← lines, List.filterMap_map, lines]
    exact List.filterMap_congr fun entry _ => numbered entry.2 entry.1
  have terminated (raw : Text) : Line.normal? (Text.dropReturn raw) = Line.normal? raw := by
    unfold Text.dropReturn
    split
    · rename_i returned
      have parts : raw.dropLast ++ ['\r'] = raw := List.dropLast_append_getLast? _ returned
      have blank : ∀ char ∈ ['\r'], Text.isBlank char := by decide
      apply normal_congr
      rw [← codeOf_append_blanks raw.dropLast blank, parts]
    · rfl
  obtain ⟨pieces, last, found⟩ : ∃ pieces last, content.splitOn '\n' = pieces ++ [last] :=
    ⟨_, _, (List.dropLast_concat_getLast (List.splitOn_ne_nil '\n' content)).symm⟩
  rw [read, Text.lines, found]
  simp only [List.dropLast_concat, List.getLast?_concat]
  have earlier : (pieces.map Text.dropReturn).filterMap Line.normal? =
      pieces.filterMap Line.normal? := by
    rw [List.filterMap_map]
    exact List.filterMap_congr fun raw _ => terminated raw
  cases last with
  | nil =>
    have nothing : Line.normal? [] = none := normal_eq_none rfl
    simp [earlier, nothing]
  | cons char rest => simp [earlier]

/-- Joined texts have the normal lines that the texts have. -/
theorem normalLines_join (texts : List Text) :
    normalLines (Text.join "\n" texts) = texts.flatMap normalLines := by
  induction texts with
  | nil => rfl
  | cons text rest inductionHypothesis =>
    cases rest with
    | nil => simp [Text.join]
    | cons next rest =>
      have joined : Text.join "\n" (text :: next :: rest) =
          text ++ '\n' :: Text.join "\n" (next :: rest) := by
        rw [Text.join, List.intercalate_cons_cons, List.append_assoc]
        rfl
      have cut (after : Text) : (text ++ '\n' :: after).splitOn '\n' =
          text.splitOn '\n' ++ after.splitOn '\n' :=
        List.splitOn_append_cons_self text after
      rw [List.flatMap_cons, ← inductionHypothesis, joined]
      simp only [normalLines_eq_pieces, cut, List.filterMap_append]

/-- A single line has one normal line or none. -/
theorem normalLines_of_line {raw : Text} (oneLine : '\n' ∉ raw) :
    normalLines raw = (Line.normal? raw).toList := by
  rw [normalLines_eq_pieces, List.splitOn_eq_singleton oneLine, List.filterMap_cons]
  cases Line.normal? raw <;> rfl

/-- A change of layout leaves the normal lines of a file as they are. -/
theorem normalLines_eq_of_relayout {first second : Text} (changed : Relayout first second) :
    normalLines first = normalLines second := by
  cases changed with
  | idleLine above below line oneLine idle =>
    have nothing : normalLines line = [] := by
      rw [normalLines_of_line oneLine, normal_eq_none (codeOf_of_idle idle)]
      rfl
    simp only [normalLines_join, List.flatMap_append, List.flatMap_cons, nothing, List.nil_append]
  | ending above below code old new oneLine outside idleOld idleNew =>
    simp only [List.mem_append, not_or] at oneLine
    have same : normalLines (code ++ old) = normalLines (code ++ new) := by
      rw [normalLines_of_line (by simp [oneLine]), normalLines_of_line (by simp [oneLine]),
        normal_congr ((codeOf_append_idle outside idleOld).trans
          (codeOf_append_idle outside idleNew).symm)]
    simp only [normalLines_join, List.flatMap_append, List.flatMap_cons, same]
  | gap above below before old new after oneLine indented outside oldFilled oldBlank newFilled
      newBlank =>
    simp only [List.mem_append, not_or] at oneLine
    have same : normalLines (before ++ old ++ after) = normalLines (before ++ new ++ after) := by
      rw [normalLines_of_line (by simp [oneLine]), normalLines_of_line (by simp [oneLine]),
        normal_of_gap indented outside oldFilled oldBlank newFilled newBlank]
    simp only [normalLines_join, List.flatMap_append, List.flatMap_cons, same]

end PyxProject.Source
