import PyxProject.Proofs.Text.Squeeze

/-!
# Blanks around and inside the parts of a text

A text is often given by its parts: words in a row, or what stands on either side of a
sign. How many blanks come between the parts is left open. The words of a text are the
words that were laid out in it (`spaced_iff`), and trimming or squeezing a text that is
cut at a sign trims or squeezes what stands on either side (`trim_append_cons`,
`squeezeInner_append_cons`).

A part that is squeezed inside a text may keep a space at either end. Without those it is
the squeezed part (`trim_squeezeInner`), so a squeezed text can be taken apart before or
after squeezing. Where there are no literals, squeezing leaves the words with single spaces
between them (`squeeze_eq_join_words`).
-/

namespace PyxProject.Text

/-- Words laid out in a text, with blanks before them, after them and between any two. -/
inductive Spaced : List Text → Text → Prop
  /-- Without words there are blanks only. -/
  | blanks {blanks : Text} (allBlank : ∀ char ∈ blanks, isBlank char) : Spaced [] blanks
  /-- A word comes first, after blanks. What follows it starts with a blank, if anything does. -/
  | word {blanks word rest : Text} {others : List Text} (allBlank : ∀ char ∈ blanks, isBlank char)
      (filled : word ≠ []) (letters : ∀ char ∈ word, isBlank char = false)
      (apart : ∀ char ∈ rest.head?, isBlank char) (later : Spaced others rest) :
      Spaced (word :: others) (blanks ++ (word ++ rest))

/-- Blanks at the start belong to no word. -/
theorem words_blanks_append {blanks : Text} (allBlank : ∀ char ∈ blanks, isBlank char)
    (text : Text) : words (blanks ++ text) = words text := by
  induction blanks with
  | nil => rfl
  | cons blank blanks inductionHypothesis =>
    obtain ⟨first, allBlank⟩ := List.forall_mem_cons.mp allBlank
    rw [List.cons_append, words_cons_blank first, inductionHypothesis allBlank]

/-- Where a text is cut at signs, blanks at its ends belong to no word of a piece. -/
theorem map_words_split_trim {cut : Char → Bool} (uncut : ∀ char, isBlank char → cut char = false)
    (text : Text) : ((trim text).splitOnP cut).map words = (text.splitOnP cut).map words := by
  obtain ⟨before, after, parts, beforeBlank, afterBlank⟩ := trim_append text
  have whole {blanks : Text} (allBlank : ∀ char ∈ blanks, isBlank char) :
      blanks.splitOnP cut = [blanks] :=
    List.splitOnP_eq_singleton fun char member => uncut char (allBlank char member)
  have start (text : Text) :
      ((before ++ text).splitOnP cut).map words = (text.splitOnP cut).map words := by
    obtain ⟨piece, pieces, found⟩ := List.exists_cons_of_ne_nil (List.splitOnP_ne_nil cut text)
    have alone : before.splitOnP cut = [] ++ [before] := whole beforeBlank
    rw [splitOnP_append before alone found, found]
    simp [words_blanks_append beforeBlank]
  have finish (text : Text) :
      ((text ++ after).splitOnP cut).map words = (text.splitOnP cut).map words := by
    obtain ⟨initial, last, found⟩ : ∃ initial last, text.splitOnP cut = initial ++ [last] :=
      ⟨_, _, (List.dropLast_concat_getLast (List.splitOnP_ne_nil cut text)).symm⟩
    rw [splitOnP_append text found (whole afterBlank), found]
    simp [words_append_blanks afterBlank]
  calc ((trim text).splitOnP cut).map words
      = ((before ++ (trim text ++ after)).splitOnP cut).map words := by rw [start, finish]
    _ = (text.splitOnP cut).map words := by rw [← parts]

/-- The words that are laid out in a text are its words. -/
theorem words_of_spaced {list : List Text} {text : Text} (spaced : Spaced list text) :
    words text = list := by
  induction spaced with
  | blanks allBlank => simpa using words_append_blanks allBlank []
  | @word blanks word rest others allBlank filled letters apart later inductionHypothesis =>
    rw [words_blanks_append allBlank]
    cases rest with
    | nil =>
      rw [List.append_nil, words_of_letters filled letters, ← inductionHypothesis]
      rfl
    | cons blank rest =>
      have first : isBlank blank := apart blank rfl
      rw [words_append_of_letters filled letters first, ← inductionHypothesis,
        words_cons_blank first]

/-- Every text lays out its words. -/
theorem spaced_words (text : Text) : Spaced (words text) text := by
  have parts : text.takeWhile isBlank ++ trimStart text = text := List.takeWhile_append_dropWhile
  have allBlank : ∀ char ∈ text.takeWhile isBlank, isBlank char := fun _ member =>
    List.mem_takeWhile_imp member
  have stops := List.head?_dropWhile_not isBlank text
  cases start : trimStart text with
  | nil =>
    rw [start, List.append_nil] at parts
    rw [parts] at allBlank
    rw [show words text = [] by simpa using words_append_blanks allBlank []]
    exact .blanks allBlank
  | cons first rest =>
    have letter : isBlank first = false := by
      rw [← trimStart, start] at stops
      simpa using stops
    have starts : (first :: rest).head? = some first := rfl
    obtain ⟨word, filled, letters, ⟨whole, found⟩ | ⟨blank, later, isBlank, whole, found⟩⟩ :=
      words_cases starts letter
    · have alone : Spaced [word] (text.takeWhile isBlank ++ (word ++ [])) :=
        .word allBlank filled letters (by simp) (.blanks (List.forall_mem_nil _))
      rw [List.append_nil] at alone
      rwa [← words_trimStart, start, found, ← parts, start, whole]
    · have shorter : (blank :: later).length < text.length := by
        have positive : 0 < word.length := List.length_pos_iff.mpr filled
        rw [← parts, start, whole, List.length_append, List.length_append]
        omega
      have inductionHypothesis := spaced_words (blank :: later)
      rw [words_cons_blank isBlank] at inductionHypothesis
      have apart : ∀ char ∈ (blank :: later).head?, Text.isBlank char := by simpa using isBlank
      have more := Spaced.word allBlank filled letters apart inductionHypothesis
      rwa [← words_trimStart, start, found, ← parts, start, whole]
termination_by text.length

/-- Words are laid out in a text exactly if they are its words. -/
theorem spaced_iff {list : List Text} {text : Text} : Spaced list text ↔ words text = list :=
  ⟨words_of_spaced, fun same => same ▸ spaced_words text⟩

/-- What holds of blanks and of the characters of words holds where the words are laid out. -/
theorem forall_of_spaced {property : Char → Prop} (blanks : ∀ char, isBlank char → property char)
    {list : List Text} (inWords : ∀ word ∈ list, ∀ char ∈ word, property char) {text : Text}
    (spaced : Spaced list text) : ∀ char ∈ text, property char := by
  intro char member
  by_cases blank : isBlank char
  · exact blanks char blank
  · obtain ⟨word, found, inside⟩ := (mem_iff_mem_words (Bool.eq_false_iff.mpr blank)).mp member
    rw [words_of_spaced spaced] at found
    exact inWords word found char inside

/-- A run without blanks stands in a text exactly if it stands in one of its words. A run across
two parts would hold the blank that the second one starts with. -/
theorem infix_iff_mem_words {pattern text : Text} (filled : pattern ≠ [])
    (letters : ∀ char ∈ pattern, isBlank char = false) :
    pattern <:+: text ↔ ∃ word ∈ words text, pattern <:+: word := by
  have after {first second : Text} (apart : ∀ char ∈ second.head?, isBlank char) :
      pattern <:+: first ++ second ↔ pattern <:+: first ∨ pattern <:+: second := by
    rw [List.infix_append_iff]
    refine ⟨?_, fun either => either.imp_right .inl⟩
    rintro (before | behind | ⟨start, finish, rfl, ends, begins⟩)
    · exact .inl before
    · exact .inr behind
    · cases finish with
      | nil => exact .inl (by simpa using ends.isInfix)
      | cons char finish =>
        obtain ⟨more, rfl⟩ := begins
        have letter := letters char (by simp)
        rw [apart char rfl] at letter
        cases letter
  have behind {blanks : Text} (allBlank : ∀ char ∈ blanks, isBlank char) (text : Text) :
      pattern <:+: blanks ++ text ↔ pattern <:+: text := by
    induction blanks with
    | nil => rfl
    | cons blank blanks inductionHypothesis =>
      obtain ⟨first, allBlank⟩ := List.forall_mem_cons.mp allBlank
      rw [List.cons_append, List.infix_cons_iff, inductionHypothesis allBlank, or_iff_right]
      intro start
      obtain ⟨char, pattern, rfl⟩ := List.exists_cons_of_ne_nil filled
      obtain ⟨rfl, _⟩ := List.cons_prefix_cons.mp start
      rw [letters char List.mem_cons_self] at first
      cases first
  have laidOut {list : List Text} {text : Text} (spaced : Spaced list text) :
      pattern <:+: text ↔ ∃ word ∈ list, pattern <:+: word := by
    induction spaced with
    | blanks allBlank =>
      have alone := behind allBlank []
      rw [List.append_nil] at alone
      simpa [alone] using filled
    | @word blanks word rest others allBlank _ _ apart _ inductionHypothesis =>
      rw [behind allBlank, after apart, inductionHypothesis]
      simp
  exact laidOut (spaced_words text)

/-- Words joined by single spaces are like a text that lays them out, in any respect in which
texts are compared part by part and a run of blanks is like a space. The last character is a
letter, so a run of blanks is followed by another word. -/
theorem alike_join_of_spaced {Alike : Text → Text → Prop} (refl : ∀ text, Alike text text)
    (append : ∀ {first second third fourth : Text}, Alike first second → Alike third fourth →
      Alike (first ++ third) (second ++ fourth))
    (run : ∀ {blanks : Text}, blanks ≠ [] → (∀ char ∈ blanks, isBlank char) → Alike " " blanks)
    {list : List Text} {text : Text} (spaced : Spaced list text) (filled : list ≠ [])
    (ends : ∀ last ∈ text.getLast?, isBlank last = false) :
    Alike (join " " list) (trimStart text) := by
  induction spaced with
  | blanks _ => exact absurd rfl filled
  | @word blanks word rest others allBlank wordFilled letters apart later inductionHypothesis =>
    have start : trimStart (blanks ++ (word ++ rest)) = word ++ rest := by
      obtain ⟨first, remainder, rfl⟩ := List.exists_cons_of_ne_nil wordFilled
      rw [trimStart, List.dropWhile_append_of_pos allBlank]
      simp [letters first List.mem_cons_self]
    rw [start]
    cases rest with
    | nil =>
      obtain rfl : others = [] := (words_of_spaced later).symm
      rw [join, List.intercalate_singleton, List.append_nil]
      exact refl word
    | cons blank rest =>
      have first : isBlank blank := apart blank rfl
      have restEnds : ∀ last ∈ (blank :: rest).getLast?, isBlank last = false := by
        intro last same
        apply ends
        rw [← List.append_assoc, List.getLast?_append_of_ne_nil _ (List.cons_ne_nil _ _)]
        exact same
      have otherFilled : others ≠ [] := by
        rintro rfl
        have none : words (blank :: rest) = [] := words_of_spaced later
        have same := List.getLast?_eq_some_getLast (List.cons_ne_nil blank rest)
        obtain ⟨other, found, _⟩ :=
          (mem_iff_mem_words (restEnds _ same)).mp (List.mem_of_getLast? same)
        rw [none] at found
        cases found
      have parts : (blank :: rest).takeWhile isBlank ++ trimStart (blank :: rest) = blank :: rest :=
        List.takeWhile_append_dropWhile
      have between : Alike " " ((blank :: rest).takeWhile isBlank) :=
        run (by simp [first]) fun _ member => List.mem_takeWhile_imp member
      have joined := append (refl word) (append between (inductionHypothesis otherFilled restEnds))
      obtain ⟨next, further, rfl⟩ := List.exists_cons_of_ne_nil otherFilled
      rw [parts] at joined
      rwa [join, List.intercalate_cons_cons, List.append_assoc]

/-- The words of a tight text joined by single spaces are like the text. -/
theorem alike_join_words {Alike : Text → Text → Prop} (refl : ∀ text, Alike text text)
    (append : ∀ {first second third fourth : Text}, Alike first second → Alike third fourth →
      Alike (first ++ third) (second ++ fourth))
    (run : ∀ {blanks : Text}, blanks ≠ [] → (∀ char ∈ blanks, isBlank char) → Alike " " blanks)
    {text : Text} (tight : Tight text) : Alike (join " " (words text)) text := by
  obtain ⟨first, starts, letter⟩ := tight.first
  obtain ⟨last, ends, lastLetter⟩ := tight.last
  have filled : words text ≠ [] := by
    obtain ⟨word, found, _⟩ := (mem_iff_mem_words letter).mp (List.mem_of_head? starts)
    exact List.ne_nil_of_mem found
  have endsWithLetter : ∀ char ∈ text.getLast?, isBlank char = false := by
    intro char same
    obtain rfl : last = char := Option.some.inj (ends.symm.trans same)
    exact lastLetter
  have start : trimStart text = text := by
    cases text with
    | nil => rfl
    | cons char rest =>
      obtain rfl : char = first := Option.some.inj starts
      simp [trimStart, letter]
  have joined := alike_join_of_spaced refl append run (spaced_words text) filled endsWithLetter
  rwa [start] at joined

/-- Dropping blanks at the start stops at a letter. -/
theorem trimStart_append_cons {letter : Char} (isLetter : isBlank letter = false)
    (before after : Text) : trimStart (before ++ letter :: after) = trimStart before ++ letter :: after := by
  rw [trimStart, List.dropWhile_append]
  split
  · rename_i empty
    rw [trimStart, List.isEmpty_iff.mp empty]
    simp [isLetter]
  · rfl

/-- Trimming a text that is cut at a letter trims what stands on either side of it. -/
theorem trim_append_cons {letter : Char} (isLetter : isBlank letter = false) (before after : Text) :
    trim (before ++ letter :: after) = trimStart before ++ letter :: trimEnd after := by
  rw [trim, trimStart_append_cons isLetter]
  exact rdropWhile_append_cons isLetter _ _

/-- Blanks around a text are trimmed away. -/
theorem trim_between_blanks {before after : Text} (beforeBlank : ∀ char ∈ before, isBlank char)
    (afterBlank : ∀ char ∈ after, isBlank char) (text : Text) :
    trim (before ++ (text ++ after)) = trim text := by
  have start : trimStart (before ++ (text ++ after)) = trimStart (text ++ after) :=
    List.dropWhile_append_of_pos beforeBlank
  rw [trim, start, trim, trimStart, trimStart, List.dropWhile_append]
  split
  · rename_i empty
    have gone : after.dropWhile isBlank = [] := by simpa using afterBlank
    rw [gone, List.isEmpty_iff.mp empty]
  · exact rdropWhile_append_of_all afterBlank _

/-- Nothing is left to drop at a start that has been trimmed. -/
theorem trimStart_trimStart (text : Text) : trimStart (trimStart text) = trimStart text :=
  List.dropWhile_idempotent _ _

/-- Trimming twice is trimming once, also where only one end was trimmed before. -/
theorem trim_trimStart (text : Text) : trim (trimStart text) = trim text := by
  have parts : text.takeWhile isBlank ++ (trimStart text ++ []) = text := by
    rw [List.append_nil]
    exact List.takeWhile_append_dropWhile
  have allBlank : ∀ char ∈ text.takeWhile isBlank, isBlank char := fun _ member =>
    List.mem_takeWhile_imp member
  have trimmed := trim_between_blanks allBlank (List.forall_mem_nil _) (trimStart text)
  rw [parts] at trimmed
  exact trimmed.symm

/-- Trimming gives the same whether or not the end has been trimmed before. -/
theorem trim_trimEnd (text : Text) : trim (trimEnd text) = trim text := by
  obtain ⟨blanks, parts, allBlank⟩ := rdropWhile_append isBlank text
  have trimmed : trim ([] ++ (trimEnd text ++ blanks)) = trim (trimEnd text) :=
    trim_between_blanks (List.forall_mem_nil _) allBlank (trimEnd text)
  have whole : trimEnd text ++ blanks = text := parts.symm
  rw [List.nil_append, whole] at trimmed
  exact trimmed.symm

/-- Trimming twice is trimming once. -/
@[simp]
theorem trim_trim (text : Text) : trim (trim text) = trim text := by
  rcases tight_trim text with empty | tight
  · rw [empty]
    rfl
  · exact trim_of_tight tight

/-- Blanks at the ends of a text are dropped when it is squeezed. -/
@[simp]
theorem squeeze_trim (text : Text) : squeeze (trim text) = squeeze text := by
  rw [squeeze, trim_trim, squeeze]

/-- A squeezed text ends like the trimmed one. -/
theorem getLast_squeeze_eq (text : Text) : (squeeze text).getLast? = (trim text).getLast? := by
  rw [← squeeze_trim]
  rcases tight_trim text with empty | tight
  · rw [empty]
    rfl
  · exact getLast_squeeze tight

/-- A squeezed text has no blanks at its ends. -/
@[simp]
theorem trim_squeeze (text : Text) : trim (squeeze text) = squeeze text := by
  rw [← squeeze_trim]
  rcases tight_trim text with empty | tight
  · rw [empty]
    rfl
  · exact trim_of_tight (tight_squeeze tight)

/-- Squeezing leaves nothing of a blank text only. -/
theorem squeeze_eq_nil_iff (text : Text) : squeeze text = [] ↔ trim text = [] := by
  rw [← trim_squeeze, ← words_eq_nil_iff, words_squeeze, words_eq_nil_iff]

/-- What is written for a run of blanks that has been passed. -/
def gap (pending : Bool) : Text := if pending then [' '] else []

/-- A gap is blank. -/
theorem blank_gap (pending : Bool) : ∀ char ∈ gap pending, isBlank char := by
  cases pending <;> decide

/-- Whether squeezing has just passed a run of blanks, after some marks. -/
def pendingAfter (pending : Bool) : List Mark → Bool
  | [] => pending
  | mark :: rest => pendingAfter (mark.code && isBlank mark.char) rest

/-- A mark that is kept is written after the run of blanks before it. -/
theorem squeezeMarks_kept (pending : Bool) {mark : Mark}
    (kept : (mark.code && isBlank mark.char) = false) (rest : List Mark) :
    squeezeMarks pending (mark :: rest) = gap pending ++ mark.char :: squeezeMarks false rest := by
  cases pending <;> simp only [squeezeMarks, kept, gap] <;> rfl

/-- Marks are squeezed part by part. -/
theorem squeezeMarks_append (pending : Bool) (first second : List Mark) :
    squeezeMarks pending (first ++ second) =
      squeezeMarks pending first ++ squeezeMarks (pendingAfter pending first) second := by
  induction first generalizing pending with
  | nil => rfl
  | cons mark first inductionHypothesis =>
    by_cases run : mark.code && isBlank mark.char
    · rw [List.cons_append, squeezeMarks, if_pos run, squeezeMarks, if_pos run, pendingAfter, run]
      exact inductionHypothesis true
    · have kept : (mark.code && isBlank mark.char) = false := Bool.eq_false_iff.mpr run
      rw [List.cons_append, squeezeMarks_kept pending kept, squeezeMarks_kept pending kept,
        pendingAfter, kept, inductionHypothesis, List.append_assoc, List.cons_append]

/-- Runs of blanks are passed part by part. -/
theorem pendingAfter_append (pending : Bool) (first second : List Mark) :
    pendingAfter pending (first ++ second) = pendingAfter (pendingAfter pending first) second := by
  induction first generalizing pending with
  | nil => rfl
  | cons mark first inductionHypothesis =>
    rw [List.cons_append, pendingAfter, pendingAfter]
    exact inductionHypothesis _

/-- A text squeezed as the part of another: a run of blanks at either end is one space. -/
def squeezeInner (text : Text) : Text :=
  squeezeMarks false (marks text) ++ gap (pendingAfter false (marks text))

/-- Squeezing a text that is cut at a sign in code squeezes what stands on either side. -/
theorem squeezeInner_append_cons {first : Text} (whole : regionAfter .code first = .code)
    {sign : Char} (letter : isBlank sign = false) (plain : isDelimiter sign = false)
    (second : Text) :
    squeezeInner (first ++ sign :: second) = squeezeInner first ++ sign :: squeezeInner second := by
  have next : Region.code.next sign = .code := by simp [Region.next, plain]
  have parts : marks (first ++ sign :: second) =
      marks first ++ ⟨sign, Region.code.isCode sign⟩ :: marks second := by
    rw [marks, marksFrom_append, whole, marksFrom, next]
    rfl
  have kept : ((⟨sign, Region.code.isCode sign⟩ : Mark).code && isBlank sign) = false := by
    simp [letter]
  have pending : pendingAfter false (marks (first ++ sign :: second)) =
      pendingAfter false (marks second) := by
    rw [parts, pendingAfter_append, pendingAfter, kept]
  rw [squeezeInner, pending, parts, squeezeMarks_append, squeezeMarks_kept _ kept, squeezeInner,
    squeezeInner]
  simp only [List.append_assoc, List.cons_append]

/-- Squeezing leaves the scanner in the region in which the text leaves it. -/
theorem regionAfter_squeezeMarks (region : Region) (pending : Bool)
    (inCode : pending = true → region = .code) (text : Text) :
    regionAfter region (squeezeMarks pending (marksFrom region text)) = regionAfter region text := by
  induction text generalizing region pending with
  | nil => rfl
  | cons char text inductionHypothesis =>
    by_cases run : region.isCode char && isBlank char
    · obtain ⟨code, blank⟩ := Bool.and_eq_true_iff.mp run
      obtain rfl : region = .code := region_of_isCode code
      rw [marksFrom, squeezeMarks, if_pos run, regionAfter_cons, next_code_of_isBlank blank]
      exact inductionHypothesis .code true fun _ => rfl
    · have space : regionAfter region (gap pending) = region := by
        cases pending with
        | false => rfl
        | true =>
          rw [inCode rfl]
          rfl
      rw [marksFrom, squeezeMarks_kept pending (Bool.eq_false_iff.mpr run), regionAfter_append, space,
        regionAfter_cons, regionAfter_cons]
      exact inductionHypothesis _ false (by simp)

/-- Squeezing blanks leaves blanks. -/
theorem blank_squeezeMarks (pending : Bool) {marks : List Mark}
    (allBlank : ∀ mark ∈ marks, isBlank mark.char) :
    ∀ char ∈ squeezeMarks pending marks, isBlank char := by
  induction marks generalizing pending with
  | nil => exact List.forall_mem_nil _
  | cons mark rest inductionHypothesis =>
    obtain ⟨first, allBlank⟩ := List.forall_mem_cons.mp allBlank
    by_cases run : mark.code && isBlank mark.char
    · rw [squeezeMarks, if_pos run]
      exact inductionHypothesis true allBlank
    · rw [squeezeMarks_kept pending (Bool.eq_false_iff.mpr run)]
      intro char member
      rcases List.mem_append.mp member with space | later
      · exact blank_gap pending char space
      · rcases List.mem_cons.mp later with rfl | further
        · exact first
        · exact inductionHypothesis false allBlank char further

/-- A text that ends with a letter and blanks behind it ends in the same way when it is
squeezed, also where the letter stands in a literal. -/
theorem squeezeInner_finish {letter : Char} (isLetter : isBlank letter = false) {finish : Text}
    (allBlank : ∀ char ∈ finish, isBlank char) (text : Text) :
    ∃ blanks, squeezeInner (text ++ letter :: finish) = squeezeInner text ++ letter :: blanks ∧
      ∀ char ∈ blanks, isBlank char := by
  have kept : (((⟨letter, (regionAfter .code text).isCode letter⟩ : Mark)).code && isBlank letter) =
      false := by
    simp [isLetter]
  refine ⟨squeezeMarks false (marksFrom ((regionAfter .code text).next letter) finish) ++
    gap (pendingAfter false (marksFrom ((regionAfter .code text).next letter) finish)), ?_, ?_⟩
  · rw [squeezeInner, marks, marksFrom_append, marksFrom, squeezeMarks_append, pendingAfter_append,
      squeezeMarks_kept _ kept, pendingAfter, kept, squeezeInner]
    simp only [marks, List.append_assoc, List.cons_append]
  · intro char member
    rcases List.mem_append.mp member with first | second
    · exact blank_squeezeMarks false (forall_marksFrom allBlank _) char first
    · exact blank_gap _ char second

/-- Without the spaces at its ends, a part that is squeezed inside a text is the squeezed part.
The first mark of the trimmed text is kept, so a run before it is written in front of it. -/
@[simp]
theorem trim_squeezeInner (text : Text) : trim (squeezeInner text) = squeeze text := by
  obtain ⟨before, after, parts, beforeBlank, afterBlank⟩ := trim_append text
  have marked : marks text = marks before ++ (marks (trim text) ++
      marksFrom (regionAfter .code (trim text)) after) := by
    nth_rewrite 1 [parts]
    rw [marks, marksFrom_append, regionAfter_blanks beforeBlank, marksFrom_append]
    rfl
  have middle (pending : Bool) : ∃ spaces, (∀ char ∈ spaces, isBlank char) ∧
      squeezeMarks pending (marks (trim text)) = spaces ++ squeezeMarks false (marks (trim text)) := by
    rcases tight_trim text with empty | tight
    · refine ⟨[], List.forall_mem_nil _, ?_⟩
      rw [empty]
      rfl
    · obtain ⟨first, starts, letter⟩ := tight.first
      obtain ⟨rest, whole⟩ : ∃ rest, trim text = first :: rest := by
        cases trimmed : trim text with
        | nil => simp [trimmed] at starts
        | cons char rest => exact ⟨rest, by simpa [trimmed] using starts⟩
      have kept : ((⟨first, Region.code.isCode first⟩ : Mark).code && isBlank first) = false := by
        simp [letter]
      refine ⟨gap pending, blank_gap pending, ?_⟩
      rw [whole, marks, marksFrom, squeezeMarks_kept pending kept, squeezeMarks_kept false kept]
      rfl
  obtain ⟨spaces, spacesBlank, squeezed⟩ := middle (pendingAfter false (marks before))
  have same : squeeze text = squeezeMarks false (marks (trim text)) := rfl
  rw [squeezeInner, marked, squeezeMarks_append, squeezeMarks_append, squeezed, ← same,
    List.append_assoc, List.append_assoc, List.append_assoc, ← List.append_assoc _ spaces,
    trim_between_blanks, trim_squeeze]
  · intro char member
    rcases List.mem_append.mp member with first | second
    · exact blank_squeezeMarks false (forall_marksFrom beforeBlank .code) char first
    · exact spacesBlank char second
  · intro char member
    rcases List.mem_append.mp member with first | second
    · exact blank_squeezeMarks _ (forall_marksFrom afterBlank _) char first
    · exact blank_gap _ char second

/-- A text that is cut at a letter in code is squeezed part by part, with no space at its
ends. -/
theorem squeeze_append_cons {first : Text} (whole : regionAfter .code first = .code)
    {letter : Char} (isLetter : isBlank letter = false) (plain : isDelimiter letter = false)
    (second : Text) :
    squeeze (first ++ letter :: second) =
      trimStart (squeezeInner first) ++ letter :: trimEnd (squeezeInner second) := by
  rw [← trim_squeezeInner, squeezeInner_append_cons whole isLetter plain, trim_append_cons isLetter]

/-- A part of a text that is squeezed inside it keeps its words. -/
@[simp]
theorem words_squeezeInner (text : Text) : words (squeezeInner text) = words text := by
  rw [← words_trim, trim_squeezeInner, words_squeeze]

/-- Squeezing drops no character that is not blank, and adds none. -/
theorem mem_squeezeInner_iff {char : Char} (letter : isBlank char = false) (text : Text) :
    char ∈ squeezeInner text ↔ char ∈ text := by
  rw [mem_iff_mem_words letter, words_squeezeInner, ← mem_iff_mem_words letter]

/-- Squeezing a text without literals leaves its words with single spaces between them, and
one in front for a run of blanks there. -/
theorem squeezeMarks_of_spaced {list : List Text} {text : Text} (spaced : Spaced list text)
    (undelimited : ∀ char ∈ text, isDelimiter char = false) (pending : Bool) :
    squeezeMarks pending (marks text) =
      if list = [] then [] else gap (pending || text.head?.any isBlank) ++ join " " list := by
  have passed (pending : Bool) {blanks : Text} (allBlank : ∀ char ∈ blanks, isBlank char) (rest : Text) :
      squeezeMarks pending (marks (blanks ++ rest)) =
        squeezeMarks (pending || !blanks.isEmpty) (marks rest) := by
    induction blanks generalizing pending with
    | nil => simp
    | cons blank blanks inductionHypothesis =>
      obtain ⟨first, allBlank⟩ := List.forall_mem_cons.mp allBlank
      rw [List.cons_append, marks, marksFrom, next_code_of_isBlank first, squeezeMarks,
        if_pos (by simp [isCode_of_isBlank first, first]), ← marks, inductionHypothesis true allBlank]
      simp
  induction spaced generalizing pending with
  | @blanks blanks allBlank =>
    have alone := passed pending allBlank []
    rw [List.append_nil] at alone
    simpa [marks, marksFrom, squeezeMarks] using alone
  | @word blanks word rest others allBlank filled letters apart later inductionHypothesis =>
    obtain ⟨first, word, rfl⟩ := List.exists_cons_of_ne_nil filled
    obtain ⟨letter, letters⟩ := List.forall_mem_cons.mp letters
    have plain : isDelimiter first = false := undelimited first (by simp)
    have wordPlain : ∀ char ∈ word, isDelimiter char = false := fun char member =>
      undelimited char (by simp [member])
    have starts : (blanks ++ (first :: word ++ rest)).head?.any isBlank = !blanks.isEmpty := by
      cases blanks with
      | nil => simpa using letter
      | cons blank blanks => simpa using allBlank blank List.mem_cons_self
    have written : squeezeMarks false (marks rest) =
        if others = [] then [] else ' ' :: join " " others := by
      rw [inductionHypothesis fun char member => undelimited char (by simp [member])]
      cases rest with
      | nil =>
        obtain rfl : others = [] := (words_of_spaced later).symm
        rfl
      | cons blank rest => simp [apart blank rfl, gap]
    rw [passed pending allBlank, starts, List.cons_append, marks, marksFrom,
      squeezeMarks_kept _ (by simp [letter]), Region.next, if_neg (by simpa using plain),
      squeezeMarks_word letters wordPlain, ← marks, written, if_neg (List.cons_ne_nil _ _)]
    cases others with
    | nil => simp [join]
    | cons next others => simp [join]

/-- A text without literals is squeezed to its words with single spaces between them. -/
theorem squeeze_eq_join_words {text : Text} (undelimited : ∀ char ∈ text, isDelimiter char = false) :
    squeeze text = join " " (words text) := by
  have inside : ∀ char ∈ trim text, isDelimiter char = false := by
    obtain ⟨before, after, parts, _, _⟩ := trim_append text
    intro char member
    apply undelimited
    rw [parts]
    simp [member]
  have starts : (trim text).head?.any isBlank = false := by
    rcases tight_trim text with empty | tight
    · rw [empty]
      rfl
    · obtain ⟨first, head, letter⟩ := tight.first
      rw [head]
      exact letter
  rw [squeeze, squeezeMarks_of_spaced (spaced_words (trim text)) inside, words_trim, starts]
  split
  · rename_i none
    rw [none]
    rfl
  · rfl

end PyxProject.Text
