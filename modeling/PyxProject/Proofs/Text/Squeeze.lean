import PyxProject.Proofs.Text.Regions
import PyxProject.Proofs.Text.Words

/-!
# Squeezing a text

Squeezing replaces runs of blanks outside literals by single spaces. It changes no
word, and in a text without blanks at its ends neither the first nor the last
character. Where a squeezed text is written out as it is, its words can therefore be
read off the text before squeezing.

Squeezing is done on marks, and marking the result gives the marks that were kept, with
a space in code for each run (`marks_squeeze`). So the scanner reads a squeezed text as
it reads the text, and squeezing twice is squeezing once (`squeeze_squeeze`).
-/

namespace PyxProject.Text

/-- Squeezing what follows some text changes no word of the whole, neither when a run
of blanks has just been passed nor when not. A run that has been passed counts like
one blank. -/
theorem words_append_squeezeMarks (before : Text) (marks : List Mark) :
    words (before ++ squeezeMarks false marks) = words (before ++ unmark marks) ∧
      words (before ++ squeezeMarks true marks) = words (before ++ ' ' :: unmark marks) := by
  have space : isBlank ' ' := by decide
  induction marks generalizing before with
  | nil =>
    refine ⟨rfl, ?_⟩
    rw [squeezeMarks, List.append_nil, unmark, List.map_nil, words_append_blank space, words_nil,
      List.append_nil]
  | cons mark rest inductionHypothesis =>
    have shown : unmark (mark :: rest) = mark.char :: unmark rest := rfl
    rw [shown]
    by_cases run : mark.code && isBlank mark.char
    · have blank : isBlank mark.char := (Bool.and_eq_true_iff.mp run).2
      have passed := (inductionHypothesis before).2
      rw [words_append_blank space] at passed
      simp only [squeezeMarks, run, if_true, passed]
      constructor
      · rw [words_append_blank blank]
      · rw [words_append_blank space, words_cons_blank blank]
    · have plain := (inductionHypothesis (before ++ [mark.char])).1
      have spaced := (inductionHypothesis (before ++ [' ', mark.char])).1
      simp only [List.append_assoc, List.cons_append, List.nil_append] at plain spaced
      simp only [squeezeMarks, run, Bool.false_eq_true, if_false, if_true, plain, spaced, and_self]

/-- Squeezing changes no word. -/
@[simp]
theorem words_squeeze (text : Text) : words (squeeze text) = words text := by
  have kept := (words_append_squeezeMarks [] (marks (trim text))).1
  rw [List.nil_append, List.nil_append, unmark_marks, words_trim] at kept
  exact kept

/-- Squeezing keeps the first character of a tight text. -/
theorem head_squeeze {text : Text} (tight : Tight text) : (squeeze text).head? = text.head? := by
  obtain ⟨first, starts, letter⟩ := tight.first
  rw [squeeze, trim_of_tight tight]
  cases text with
  | nil => rfl
  | cons char rest =>
    obtain rfl : char = first := Option.some.inj starts
    simp [marks, marksFrom, squeezeMarks, letter]

/-- Squeezing keeps a last character that is not blank. -/
theorem getLast_squeezeMarks {marks : List Mark} {last : Char} (pending : Bool)
    (ends : (unmark marks).getLast? = some last) (letter : isBlank last = false) :
    (squeezeMarks pending marks).getLast? = some last := by
  induction marks generalizing pending with
  | nil => cases ends
  | cons mark rest inductionHypothesis =>
    have shown : unmark (mark :: rest) = mark.char :: unmark rest := rfl
    rw [shown, List.getLast?_cons] at ends
    cases remainder : (unmark rest).getLast? with
    | none =>
      have same : mark.char = last := by simpa [remainder] using ends
      have finished : rest = [] := by simpa [unmark] using remainder
      subst same finished
      cases pending <;> simp [squeezeMarks, letter]
    | some char =>
      have same : char = last := by simpa [remainder] using ends
      subst same
      have later (next : Bool) := inductionHypothesis next remainder
      cases pending <;> by_cases run : mark.code && isBlank mark.char <;>
        simp [squeezeMarks, run, later, List.getLast?_cons]

/-- Squeezing keeps the last character of a tight text. -/
theorem getLast_squeeze {text : Text} (tight : Tight text) :
    (squeeze text).getLast? = text.getLast? := by
  obtain ⟨last, ends, letter⟩ := tight.last
  rw [squeeze, trim_of_tight tight, ends]
  exact getLast_squeezeMarks false (by rw [unmark_marks, ends]) letter

/-- A tight text stays tight. -/
theorem tight_squeeze {text : Text} (tight : Tight text) : Tight (squeeze text) :=
  ⟨by rw [head_squeeze tight]; exact tight.first, by rw [getLast_squeeze tight]; exact tight.last⟩

/-- A word without delimiters passes the squeezing scanner as it is and leaves it in
code. -/
theorem squeezeMarks_word {word : Text} (letters : ∀ char ∈ word, isBlank char = false)
    (plain : ∀ char ∈ word, isDelimiter char = false) (rest : Text) :
    squeezeMarks false (marksFrom .code (word ++ rest)) =
      word ++ squeezeMarks false (marksFrom .code rest) := by
  induction word with
  | nil => rfl
  | cons char word inductionHypothesis =>
    have letter : isBlank char = false := letters char List.mem_cons_self
    have noDelimiter : isDelimiter char = false := plain char List.mem_cons_self
    have later := inductionHypothesis (fun other member => letters other (List.mem_cons_of_mem _ member))
      fun other member => plain other (List.mem_cons_of_mem _ member)
    simp [marksFrom, squeezeMarks, letter, Region.next, noDelimiter, later]

/-- That a word has no delimiters, as a test that can be run. -/
theorem undelimited_of_all {word : Text} (checked : word.all (fun char => !isDelimiter char) = true) :
    ∀ char ∈ word, isDelimiter char = false := by
  intro char member
  simpa using List.all_eq_true.mp checked char member

/-- After a run of blanks nothing is written, or a space comes first. -/
theorem squeezeMarks_pending (marks : List Mark) :
    squeezeMarks true marks = [] ∨ ∃ rest, squeezeMarks true marks = ' ' :: rest := by
  induction marks with
  | nil => exact .inl rfl
  | cons mark rest inductionHypothesis =>
    by_cases run : mark.code && isBlank mark.char
    · simpa [squeezeMarks, run] using inductionHypothesis
    · exact .inr ⟨mark.char :: squeezeMarks false rest, by simp [squeezeMarks, run]⟩

/-- A squeezed text is its first word, if that has no delimiters, and a space after it
unless that is all. -/
theorem squeeze_of_first_word {text word : Text} (tight : Tight text)
    (starts : (words text).head? = some word) (plain : ∀ char ∈ word, isDelimiter char = false) :
    squeeze text = word ∨ ∃ rest, squeeze text = word ++ ' ' :: rest := by
  obtain ⟨first, head, letter⟩ := tight.first
  obtain ⟨found, _, letters, alone | ⟨blank, rest, isBlank, whole, words⟩⟩ := words_cases head letter
  · rw [alone.2, List.head?_cons] at starts
    obtain rfl : found = word := Option.some.inj starts
    have kept := squeezeMarks_word letters plain []
    rw [squeeze, trim_of_tight tight, alone.1, marks]
    rw [List.append_nil] at kept
    exact .inl (by rw [kept]; exact List.append_nil found)
  · rw [words, List.head?_cons] at starts
    obtain rfl : found = word := Option.some.inj starts
    have kept := squeezeMarks_word letters plain (blank :: rest)
    have noDelimiter : isDelimiter blank = false := isDelimiter_of_isBlank isBlank
    have passed : squeezeMarks false (marksFrom .code (blank :: rest)) =
        squeezeMarks true (marksFrom .code rest) := by
      simp [marksFrom, squeezeMarks, Region.isCode, Region.next, noDelimiter, isBlank]
    rw [squeeze, trim_of_tight tight, whole, marks, kept, passed]
    rcases squeezeMarks_pending (marksFrom .code rest) with empty | ⟨remainder, spaced⟩
    · exact .inl (by rw [empty, List.append_nil])
    · exact .inr ⟨remainder, by rw [spaced]⟩

/-- The marks that squeezing keeps, with a space in code for each run of blanks that is
written. -/
def squeezedMarks (pending : Bool) : List Mark → List Mark
  | [] => []
  | mark :: rest =>
    if mark.code && isBlank mark.char then squeezedMarks true rest
    else if pending then ⟨' ', true⟩ :: mark :: squeezedMarks false rest
    else mark :: squeezedMarks false rest

/-- Squeezing writes the characters of the marks that it keeps. -/
theorem unmark_squeezedMarks (pending : Bool) (marks : List Mark) :
    unmark (squeezedMarks pending marks) = squeezeMarks pending marks := by
  induction marks generalizing pending with
  | nil => rfl
  | cons mark rest inductionHypothesis =>
    have shown (mark : Mark) (marks : List Mark) :
        unmark (mark :: marks) = mark.char :: unmark marks := rfl
    by_cases run : mark.code && isBlank mark.char
    · simp only [squeezedMarks, squeezeMarks, run, if_true, inductionHypothesis]
    · cases pending <;>
        simp only [squeezedMarks, squeezeMarks, run, Bool.false_eq_true, if_false, if_true, shown,
          inductionHypothesis]

/-- The scanner reads what squeezing writes as it read the text. A run of blanks is
passed in code, and one space leaves the scanner there as well. -/
theorem marksFrom_squeezeMarks (region : Region) (pending : Bool)
    (inCode : pending = true → region = .code) (text : Text) :
    marksFrom region (squeezeMarks pending (marksFrom region text)) =
      squeezedMarks pending (marksFrom region text) := by
  induction text generalizing region pending with
  | nil => rfl
  | cons char text inductionHypothesis =>
    by_cases run : region.isCode char && isBlank char
    · obtain ⟨code, blank⟩ := Bool.and_eq_true_iff.mp run
      obtain rfl : region = .code := region_of_isCode code
      have later := inductionHypothesis .code true fun _ => rfl
      simp only [marksFrom, squeezeMarks, squeezedMarks, run, if_true, next_code_of_isBlank blank]
      exact later
    · have later := inductionHypothesis (region.next char) false (by simp)
      cases pending with
      | false => simp only [marksFrom, squeezeMarks, squeezedMarks, run, Bool.false_eq_true,
          if_false, later]
      | true =>
        obtain rfl : region = .code := inCode rfl
        have space : Region.code.next ' ' = .code := rfl
        have isCode : Region.code.isCode ' ' = true := rfl
        simp only [marksFrom, squeezeMarks, squeezedMarks, run, Bool.false_eq_true, if_false,
          if_true, space, isCode, later]

/-- The marks of a squeezed text. -/
theorem marks_squeeze (text : Text) :
    marks (squeeze text) = squeezedMarks false (marks (trim text)) :=
  marksFrom_squeezeMarks .code false (by simp) (trim text)

/-- What has been squeezed is written by squeezing as it is. -/
theorem squeezeMarks_squeezedMarks (pending : Bool) (marks : List Mark) :
    squeezeMarks false (squeezedMarks pending marks) = squeezeMarks pending marks := by
  have space : isBlank ' ' := by decide
  induction marks generalizing pending with
  | nil => rfl
  | cons mark rest inductionHypothesis =>
    by_cases run : mark.code && isBlank mark.char
    · simp only [squeezedMarks, squeezeMarks, run, if_true, inductionHypothesis]
    · cases pending <;>
        simp only [squeezedMarks, squeezeMarks, run, space, Bool.false_eq_true, Bool.and_self,
          if_false, if_true, inductionHypothesis]

/-- Squeezing a tight text twice is squeezing it once. -/
theorem squeeze_squeeze {text : Text} (tight : Tight text) :
    squeeze (squeeze text) = squeeze text := by
  rw [squeeze, trim_of_tight (tight_squeeze tight), marks_squeeze, squeezeMarks_squeezedMarks]
  rfl

/-- Without its first character a squeezed text has the words that the text has without
it. -/
theorem words_tail_squeeze {text : Text} (tight : Tight text) :
    words (squeeze text).tail = words text.tail := by
  obtain ⟨first, starts, letter⟩ := tight.first
  rw [squeeze, trim_of_tight tight]
  cases text with
  | nil => rfl
  | cons char rest =>
    obtain rfl : char = first := Option.some.inj starts
    have kept := (words_append_squeezeMarks [] (marksFrom (Region.code.next char) rest)).1
    rw [List.nil_append, List.nil_append, unmark_marksFrom] at kept
    simpa [marks, marksFrom, squeezeMarks, letter] using kept

/-- A sum over the marks of a text to which blanks in code contribute nothing is kept by
squeezing. -/
theorem total_squeezedMarks {weight : Mark → Int}
    (blanks : ∀ mark : Mark, mark.code → isBlank mark.char → weight mark = 0)
    (pending : Bool) (marks : List Mark) :
    total weight (squeezedMarks pending marks) = total weight marks := by
  have space : weight ⟨' ', true⟩ = 0 := blanks _ rfl (by decide)
  induction marks generalizing pending with
  | nil => rfl
  | cons mark rest inductionHypothesis =>
    by_cases run : mark.code && isBlank mark.char
    · obtain ⟨code, blank⟩ := Bool.and_eq_true_iff.mp run
      have passed : weight mark = 0 := blanks mark code blank
      simp only [squeezedMarks, run, if_true, inductionHypothesis, total, passed, Int.zero_add]
    · cases pending <;>
        simp only [squeezedMarks, run, Bool.false_eq_true, if_false, if_true, total,
          inductionHypothesis, space, Int.zero_add]

/-- What a run of blanks in code consists of does not matter to squeezing. -/
theorem squeezeMarks_run {first second : List Mark} (filled : first ≠ []) (otherFilled : second ≠ [])
    (blank : ∀ mark ∈ first, mark.code ∧ isBlank mark.char)
    (otherBlank : ∀ mark ∈ second, mark.code ∧ isBlank mark.char) (pending : Bool)
    (before after : List Mark) :
    squeezeMarks pending (before ++ (first ++ after)) =
      squeezeMarks pending (before ++ (second ++ after)) := by
  have passed {run : List Mark} (filled : run ≠ [])
      (blank : ∀ mark ∈ run, mark.code ∧ isBlank mark.char) (pending : Bool) :
      squeezeMarks pending (run ++ after) = squeezeMarks true after := by
    induction run generalizing pending with
    | nil => exact absurd rfl filled
    | cons mark run inductionHypothesis =>
      obtain ⟨⟨code, isBlank⟩, blank⟩ := List.forall_mem_cons.mp blank
      simp only [List.cons_append, squeezeMarks, code, isBlank, Bool.and_self, if_true]
      cases run with
      | nil => rfl
      | cons next run => exact inductionHypothesis (List.cons_ne_nil next run) blank true
  induction before generalizing pending with
  | nil => rw [List.nil_append, List.nil_append, passed filled blank, passed otherFilled otherBlank]
  | cons mark before inductionHypothesis =>
    simp only [List.cons_append, squeezeMarks, inductionHypothesis]

end PyxProject.Text
