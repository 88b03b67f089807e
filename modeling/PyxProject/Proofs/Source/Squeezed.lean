import PyxProject.Proofs.Source.Roles

/-!
# Reading squeezed lines

A line is read by several rules that cut it up in different ways: into words, at the
first parenthesis, at a colon in code, by its first and its last character. None of
them sees how wide a run of blanks is. The statements here say so rule by rule, for the
squeezed line in place of the line: it starts a definition, leaves a signature open and
binds names if the line does, its header is the squeezed header, and it has the same
role.
-/

namespace PyxProject.Source

/-- The search for the colon finds the same colon among the marks that squeezing keeps. The header
and the rest are squeezed on their own, since the colon is no blank. A mark that is kept comes
behind the space for the run before it. -/
theorem colonCut_squeezedMarks (depth : Int) (pending : Bool) (marks : List Text.Mark) :
    (colonCut? depth marks = none ∧ colonCut? depth (Text.squeezedMarks pending marks) = none) ∨
      ∃ header body, marks = header ++ body ∧
        colonCut? depth marks = some (Text.unmark header, Text.unmark body) ∧
        colonCut? depth (Text.squeezedMarks pending marks) =
          some (Text.squeezeMarks pending header, Text.squeezeMarks false body) := by
  induction marks generalizing depth pending with
  | nil => exact .inl ⟨rfl, rfl⟩
  | cons mark rest inductionHypothesis =>
    by_cases run : mark.code && Text.isBlank mark.char
    · have passed : headerStep depth mark = .proceed depth :=
        headerStep_of_isBlank depth (Bool.and_eq_true_iff.mp run).2
      have skipped : Text.squeezedMarks pending (mark :: rest) = Text.squeezedMarks true rest := by
        simp [Text.squeezedMarks, run]
      rw [skipped, colonCut_cons, passed]
      rcases inductionHypothesis depth true with ⟨none, noneKept⟩ | ⟨header, body, rfl, found, kept⟩
      · exact .inl ⟨by simp [none], noneKept⟩
      · refine .inr ⟨mark :: header, body, rfl, by simp [found, Text.unmark], ?_⟩
        simp [kept, Text.squeezeMarks, run]
    · have spaced (header : List Text.Mark) : Text.squeezeMarks pending (mark :: header) =
          (if pending then [' '] else []) ++ mark.char :: Text.squeezeMarks false header := by
        cases pending <;> simp [Text.squeezeMarks, run]
      have kept : colonCut? depth (Text.squeezedMarks pending (mark :: rest)) =
          (colonCut? depth (mark :: Text.squeezedMarks false rest)).map fun cut =>
            ((if pending then [' '] else []) ++ cut.1, cut.2) := by
        cases pending with
        | false => simp [Text.squeezedMarks, run]
        | true =>
          have space : headerStep depth ⟨' ', true⟩ = .proceed depth :=
            headerStep_of_isBlank depth (by decide)
          simp [Text.squeezedMarks, run, colonCut_cons depth ⟨' ', true⟩, space]
      rw [kept, colonCut_cons, colonCut_cons]
      cases step : headerStep depth mark with
      | proceed next =>
        rcases inductionHypothesis next false with ⟨none, noneKept⟩ | ⟨header, body, rfl, found, kept⟩
        · exact .inl ⟨by simp [none], by simp [noneKept]⟩
        · refine .inr ⟨mark :: header, body, rfl, by simp [found, Text.unmark], ?_⟩
          simp [kept, spaced]
      | refuse => exact .inl ⟨rfl, rfl⟩
      | finish =>
        obtain rfl := colon_of_finish step
        refine .inr ⟨[⟨':', true⟩], rest, rfl, rfl, ?_⟩
        rw [spaced, Text.unmark_squeezedMarks]
        rfl

/-- A line starts a definition if it does when squeezed. -/
theorem opensDefinition_squeeze (text : Text) :
    opensDefinition (Text.squeeze text) = opensDefinition text := by
  simp only [opensDefinition, Text.words_squeeze]

/-- The header of a squeezed line is the squeezed header, and it is a part of the line
only if the header is. -/
theorem headerOf_squeeze {text : Text} (tight : Text.Tight text) :
    headerOf (Text.squeeze text) = Text.squeeze (headerOf text) ∧
      (headerOf (Text.squeeze text) = Text.squeeze text ↔ headerOf text = text) := by
  have marks : Text.marks (Text.squeeze text) = Text.squeezedMarks false (Text.marks text) := by
    rw [Text.marks_squeeze, Text.trim_of_tight tight]
  have header := tight_headerOf tight
  unfold headerOf at header ⊢
  rw [opensDefinition_squeeze, marks]
  split
  · rcases colonCut_squeezedMarks 0 false (Text.marks text) with
      ⟨none, squeezedNone⟩ | ⟨before, after, whole, found, squeezedFound⟩
    · simp only [none, squeezedNone, and_self]
    · rename_i opens
      have blank : Text.trim (Text.squeezeMarks false after) = [] ↔ Text.trim (Text.unmark after) = [] := by
        have words := (Text.words_append_squeezeMarks [] after).1
        rw [List.nil_append, List.nil_append] at words
        rw [← Text.words_eq_nil_iff, ← Text.words_eq_nil_iff, words]
      simp only [opens, if_true, found, squeezedFound, blank] at header ⊢
      by_cases empty : Text.trim (Text.unmark after) = []
      · simp only [empty, if_true, and_self]
      · simp only [empty, if_false] at header ⊢
        have alone : Text.squeeze (Text.unmark before) = Text.squeezeMarks false before := by
          rw [Text.squeeze, Text.trim_of_tight header, Text.marks_of_append whole]
        refine ⟨alone.symm, iff_of_false ?_ ?_⟩
        · intro same
          have cut := (unmark_eq_of_colonCut squeezedFound).1
          rw [Text.unmark_squeezedMarks, ← Text.trim_of_tight tight, ← Text.squeeze, ← same] at cut
          apply empty
          have nothing : Text.squeezeMarks false after = [] := by simpa using cut
          rw [← blank, nothing]
          rfl
        · intro same
          have cut := (unmark_eq_of_colonCut found).1
          rw [Text.unmark_marks, ← same] at cut
          apply empty
          have nothing : Text.unmark after = [] := by simpa using cut
          rw [nothing]
          rfl
  · exact ⟨rfl, iff_of_true rfl rfl⟩

/-- A line leaves a signature open if it does when squeezed. -/
theorem opensSignature_squeeze {text : Text} (tight : Text.Tight text) :
    opensSignature (Text.squeeze text) = opensSignature text := by
  have head : Text.words ((Text.squeeze text).takeWhile (· != '(')) =
      Text.words (text.takeWhile (· != '(')) := by
    refine Text.words_takeWhile_congr (fun char blank => ?_) (Text.words_squeeze text)
    simpa using Text.ne_of_isBlank blank '(' (by decide)
  have assigns : '=' ∈ (Text.squeeze text).takeWhile (· != '(') ↔ '=' ∈ text.takeWhile (· != '(') := by
    rw [Text.mem_iff_mem_words (by decide), Text.mem_iff_mem_words (by decide), head]
  rw [Bool.eq_iff_iff, opensSignature_iff, opensSignature_iff, opensDefinition_squeeze, assigns,
    (headerOf_squeeze tight).1, Text.openParentheses_squeeze (tight_headerOf tight)]

/-- A squeezed line binds the names that the line binds. -/
theorem boundNames_squeeze (text : Text) : boundNames (Text.squeeze text) = boundNames text := by
  simp only [boundNames, Text.words_squeeze]

/-- Names that could be written in a file: each is a word. -/
def CythonNames.AreWords (names : CythonNames) : Prop :=
  ∀ name ∈ names.names, name ≠ [] ∧ ∀ char ∈ name, Text.isBlank char = false

/-- The names that a file binds are words. -/
theorem areWords_ofLines (lines : List Line) : (CythonNames.ofLines lines).AreWords := by
  intro name member
  obtain ⟨line, _, bound⟩ := List.mem_flatMap.mp member
  unfold boundNames at bound
  split at bound
  · split at bound
    · obtain ⟨item, _, named⟩ := List.mem_filterMap.mp bound
      have word : name ∈ Text.words item := by
        unfold boundName? at named
        split at named
        · rename_i only
          rw [only]
          simpa using (Option.some.inj named).symm
        · rename_i renamed
          rw [renamed]
          split at named
          · simp [Option.some.inj named]
          · cases named
        · cases named
      exact Text.letters_of_mem_words word
    · cases bound
  · cases bound

/-- A trimmed text starts with letters exactly if its first word does. -/
theorem startsWith_trim {text start : Text} (filled : start ≠ [])
    (letters : ∀ char ∈ start, Text.isBlank char = false) :
    Text.startsWith (Text.trim text) start ↔
      ∃ more rest, Text.words text = (start ++ more) :: rest := by
  rw [Text.startsWith, List.isPrefixOf_iff_prefix, ← Text.words_trim]
  constructor
  · rintro ⟨rest, whole⟩
    rw [← whole]
    obtain ⟨more, others, found, _⟩ := Text.words_letters_append filled letters rest
    exact ⟨more, others, found⟩
  · rintro ⟨more, rest, found⟩
    rcases Text.tight_trim text with empty | tight
    · simp [empty] at found
    · obtain ⟨first, starts, letter⟩ := tight.first
      obtain ⟨word, _, _, ⟨whole, words⟩ | ⟨blank, later, _, whole, words⟩⟩ :=
        Text.words_cases starts letter
      · have same : word = start ++ more := (List.cons.inj (words.symm.trans found)).1
        rw [whole, same]
        exact List.prefix_append start more
      · have same : word = start ++ more := (List.cons.inj (words.symm.trans found)).1
        rw [whole, same, List.append_assoc]
        exact List.prefix_append start _

/-- Whether a decorator addresses the compiler is settled by its words. -/
theorem addressesCompiler_congr {names : CythonNames} (areWords : names.AreWords)
    {first second : Text} (same : Text.words first = Text.words second) :
    addressesCompiler names first = addressesCompiler names second := by
  have words : Text.words (first.takeWhile (· != '(')) = Text.words (second.takeWhile (· != '(')) := by
    refine Text.words_takeWhile_congr (fun char blank => ?_) same
    simpa using Text.ne_of_isBlank blank '(' (by decide)
  have equals (name : Text) (filled : name ≠ [])
      (letters : ∀ char ∈ name, Text.isBlank char = false) :
      Text.trim (first.takeWhile (· != '(')) = name ↔
        Text.trim (second.takeWhile (· != '(')) = name := by
    rw [Text.trim_eq_iff_words filled letters, Text.trim_eq_iff_words filled letters, words]
  have module := equals "cython".toList (by decide) (by decide)
  have member : Text.startsWith (Text.trim (first.takeWhile (· != '('))) "cython.".toList =
      Text.startsWith (Text.trim (second.takeWhile (· != '('))) "cython.".toList := by
    rw [Bool.eq_iff_iff, startsWith_trim (by decide) (by decide),
      startsWith_trim (by decide) (by decide), words]
  have bound : names.binds (Text.trim (first.takeWhile (· != '('))) =
      names.binds (Text.trim (second.takeWhile (· != '('))) := by
    rw [Bool.eq_iff_iff, CythonNames.binds, CythonNames.binds, List.contains_iff_mem,
      List.contains_iff_mem]
    constructor
    · intro isBound
      obtain ⟨filled, letters⟩ := areWords _ isBound
      rwa [(equals _ filled letters).mp rfl]
    · intro isBound
      obtain ⟨filled, letters⟩ := areWords _ isBound
      rwa [(equals _ filled letters).mpr rfl]
  simp only [addressesCompiler, member, bound]
  congr 2
  exact Bool.eq_iff_iff.mpr (by simpa using module)

/-- A squeezed header has the role that it has unsqueezed. -/
theorem ofHeader_squeeze {names : CythonNames} (areWords : names.AreWords) {text : Text}
    (tight : Text.Tight text) :
    LineRole.ofHeader names (Text.squeeze text) = LineRole.ofHeader names text := by
  have compiler := addressesCompiler_congr areWords (Text.words_tail_squeeze tight)
  simp only [LineRole.ofHeader, Text.words_squeeze, Text.head_squeeze tight,
    Text.getLast_squeeze tight, compiler]

/-- The role of a line is the role of its header, if that is the line or the header of a
function. -/
theorem role_eq (names : CythonNames) (text : Text) :
    LineRole.of names text =
      if headerOf text = text then LineRole.ofHeader names text
      else match LineRole.ofHeader names (headerOf text) with
        | .functionHeader native => .functionHeader native
        | _ => .statement := by
  rcases role_cases names text with ⟨whole, role⟩ | ⟨part, ⟨native, role, header⟩ | ⟨role, other⟩⟩
  · rw [if_pos whole, role]
  · rw [if_neg part, role, header]
  · rw [if_neg part, role]
    cases header : LineRole.ofHeader names (headerOf text) with
    | functionHeader native => exact absurd header (other native)
    | _ => rfl

/-- A squeezed line has the role that it has unsqueezed. -/
theorem role_squeeze {names : CythonNames} (areWords : names.AreWords) {text : Text}
    (tight : Text.Tight text) :
    LineRole.of names (Text.squeeze text) = LineRole.of names text := by
  obtain ⟨header, whole⟩ := headerOf_squeeze tight
  rw [header] at whole
  rw [role_eq, role_eq]
  simp only [whole, header, ofHeader_squeeze areWords tight,
    ofHeader_squeeze areWords (tight_headerOf tight)]

end PyxProject.Source
