import Mathlib.Data.List.TakeWhile
import PyxProject.Proofs.Text.Pieces
import PyxProject.Text.Blank

/-!
# Words and trimming

The words of a text are settled by two equations: a blank separates what stands on
its two sides (`words_append_blank`), and a run without blanks is one word
(`words_of_letters`). Everything else about words follows from them, and so does
that blanks at the ends of a text do not matter.
-/

namespace PyxProject.Text

/-- The empty text has no words. -/
@[simp]
theorem words_nil : words [] = [] := rfl

/-- A blank separates the words before it from the words after it. -/
theorem words_append_blank {blank : Char} (isBlank : isBlank blank) (before after : Text) :
    words (before ++ blank :: after) = words before ++ words after := by
  rw [words, List.splitOnP_append_cons before after isBlank, List.filter_append]
  rfl

/-- A blank at the start belongs to no word. -/
theorem words_cons_blank {blank : Char} (isBlank : isBlank blank) (text : Text) :
    words (blank :: text) = words text := by
  simpa using words_append_blank isBlank [] text

/-- Blanks at the end belong to no word. -/
theorem words_append_blanks {blanks : Text} (allBlank : ∀ char ∈ blanks, isBlank char)
    (text : Text) : words (text ++ blanks) = words text := by
  induction blanks generalizing text with
  | nil => rw [List.append_nil]
  | cons blank rest inductionHypothesis =>
    have restBlank : ∀ char ∈ rest, isBlank char := fun char member =>
      allBlank char (List.mem_cons_of_mem _ member)
    have restEmpty : words rest = [] := by simpa using inductionHypothesis restBlank []
    rw [words_append_blank (allBlank blank List.mem_cons_self), restEmpty, List.append_nil]

/-- Changing characters one by one changes them in the words, if blanks and nothing else become
blanks. -/
theorem words_map {change : Char → Char} (blanks : ∀ char, isBlank (change char) = isBlank char)
    (text : Text) : words (text.map change) = (words text).map (List.map change) := by
  have cut : isBlank ∘ change = isBlank := funext blanks
  have filled : ((fun piece : Text => decide (piece ≠ [])) ∘ List.map change) =
      fun piece => decide (piece ≠ []) := by
    funext piece
    simp
  rw [words, words, splitOnP_map, cut, List.filter_map, filled]

/-- The words of two texts stay apart if the second starts with a blank. -/
theorem words_append_of_apart {first second : Text} (apart : ∀ char ∈ second.head?, isBlank char) :
    words (first ++ second) = words first ++ words second := by
  cases second with
  | nil => simp
  | cons blank second =>
    have isBlank : isBlank blank := apart blank rfl
    rw [words_append_blank isBlank, words_cons_blank isBlank]

/-- A run without blanks is one word. -/
theorem words_of_letters {word : Text} (filled : word ≠ [])
    (letters : ∀ char ∈ word, isBlank char = false) : words word = [word] := by
  simp [words, List.splitOnP_eq_singleton letters, filled]

/-- A run without blanks before a blank is the first word. -/
theorem words_append_of_letters {word : Text} {blank : Char} (filled : word ≠ [])
    (letters : ∀ char ∈ word, isBlank char = false) (isBlank : isBlank blank) (rest : Text) :
    words (word ++ blank :: rest) = word :: words rest := by
  rw [words_append_blank isBlank, words_of_letters filled letters]
  rfl

/-- A text that starts with no blank is its first word, and a blank and more after it
unless that is all. -/
theorem words_cases {text : Text} {first : Char} (starts : text.head? = some first)
    (letter : isBlank first = false) :
    ∃ word, word ≠ [] ∧ (∀ char ∈ word, isBlank char = false) ∧
      ((text = word ∧ words text = [word]) ∨
        ∃ blank rest, isBlank blank ∧ text = word ++ blank :: rest ∧
          words text = word :: words rest) := by
  cases found : text.find? isBlank with
  | none =>
    have letters : ∀ char ∈ text, isBlank char = false := by simpa using List.find?_eq_none.mp found
    have filled : text ≠ [] := by
      rintro rfl
      cases starts
    exact ⟨text, filled, letters, .inl ⟨rfl, words_of_letters filled letters⟩⟩
  | some blank =>
    obtain ⟨stops, word, rest, whole, unmarked⟩ := List.find?_eq_some_iff_append.mp found
    have letters : ∀ char ∈ word, isBlank char = false := by simpa using unmarked
    have filled : word ≠ [] := by
      rintro rfl
      rw [whole] at starts
      obtain rfl : blank = first := Option.some.inj starts
      rw [stops] at letter
      cases letter
    refine ⟨word, filled, letters, .inr ⟨blank, rest, stops, whole, ?_⟩⟩
    rw [whole, words_append_of_letters filled letters stops]

/-- What stands before the first blank is the beginning of the first word. The word cannot end
before that beginning does, since that holds no blank. -/
theorem words_letters_append {start : Text} (filled : start ≠ [])
    (letters : ∀ char ∈ start, isBlank char = false) (rest : Text) :
    ∃ more others, words (start ++ rest) = (start ++ more) :: others ∧ others ⊆ words rest := by
  obtain ⟨first, starts⟩ : ∃ first, (start ++ rest).head? = some first := by
    cases start with
    | nil => exact absurd rfl filled
    | cons char _ => exact ⟨char, rfl⟩
  have letter : isBlank first = false := by
    cases start with
    | nil => exact absurd rfl filled
    | cons char _ =>
      obtain rfl : char = first := Option.some.inj starts
      exact letters char List.mem_cons_self
  obtain ⟨word, _, _, alone | ⟨blank, later, isBlank, whole, found⟩⟩ := words_cases starts letter
  · exact ⟨rest, [], by rw [alone.2, alone.1], List.nil_subset _⟩
  · obtain ⟨more, more_eq⟩ : ∃ more, word = start ++ more := by
      rcases List.append_eq_append_iff.mp whole with ⟨more, same, _⟩ | ⟨more, same, shifted⟩
      · exact ⟨more, same⟩
      · cases more with
        | nil => exact ⟨[], by rw [same, List.append_nil, List.append_nil]⟩
        | cons char more =>
          obtain ⟨rfl, _⟩ := List.cons.inj shifted
          have noBlank := letters blank (by rw [same]; simp)
          rw [isBlank] at noBlank
          cases noBlank
    refine ⟨more, words later, by rw [found, more_eq], ?_⟩
    rw [more_eq, List.append_assoc, List.append_cancel_left_eq] at whole
    rw [whole, words_append_blank isBlank]
    exact List.subset_append_right _ _

/-- The first character of a line is the first character of its first word. -/
theorem head_of_words {text word : Text} {rest : List Text} {char : Char}
    (starts : text.head? = some char) (letter : isBlank char = false)
    (found : words text = word :: rest) : word.head? = some char := by
  cases text with
  | nil => cases starts
  | cons first text =>
    obtain rfl : first = char := Option.some.inj starts
    have letters : ∀ other ∈ [first], isBlank other = false := by simpa using letter
    obtain ⟨more, others, longer, _⟩ :=
      words_letters_append (List.cons_ne_nil first []) letters text
    rw [List.singleton_append, found] at longer
    obtain ⟨rfl, _⟩ := List.cons.inj longer
    rfl

/-- The first word of a text is the first word of a beginning of it, if that beginning ends with a
character that the word lacks. What follows the word in the beginning ends with that character as
well. A beginning without blanks would put its last character into the word. -/
theorem words_of_beginning {start rest word : Text} {others : List Text} {last : Char}
    (ends : start.getLast? = some last) (letter : isBlank last = false) (absent : last ∉ word)
    (found : words (start ++ rest) = word :: others) :
    ∃ later, words start = word :: words later ∧ others = words (later ++ rest) ∧
      later.getLast? = some last := by
  induction start with
  | nil => cases ends
  | cons char start inductionHypothesis =>
    by_cases blank : isBlank char
    · rw [List.cons_append, words_cons_blank blank] at found
      rw [words_cons_blank blank]
      apply inductionHypothesis _ found
      cases start with
      | nil =>
        obtain rfl : char = last := Option.some.inj ends
        rw [blank] at letter
        cases letter
      | cons _ _ => rwa [List.getLast?_cons_cons] at ends
    · have starts : (char :: start).head? = some char := rfl
      obtain ⟨first, filled, letters, alone | ⟨separator, later, isBlank, whole, split⟩⟩ :=
        words_cases starts (Bool.eq_false_iff.mpr blank)
      · obtain ⟨more, _, longer, _⟩ := words_letters_append filled letters rest
        rw [← alone.1, found] at longer
        obtain ⟨rfl, _⟩ := List.cons.inj longer
        exact absurd (List.mem_append_left _ (List.mem_of_getLast? ends)) absent
      · rw [whole, List.append_assoc, List.cons_append,
          words_append_of_letters filled letters isBlank] at found
        obtain ⟨rfl, rfl⟩ := List.cons.inj found
        refine ⟨later, split, rfl, ?_⟩
        rw [whole, List.getLast?_append, List.getLast?_cons] at ends
        cases remainder : later.getLast? with
        | none =>
          obtain rfl : separator = last := by simpa [remainder] using ends
          rw [isBlank] at letter
          cases letter
        | some _ => simpa [remainder] using ends

/-- Words that are joined end like the text, unless that ends in a blank. -/
theorem getLast_join_words {text : Text} {last : Char} (ends : text.getLast? = some last)
    (letter : isBlank last = false) : (join " " (words text)).getLast? = some last := by
  obtain ⟨final, isLast, finalEnds⟩ := getLast_splitOnP isBlank ends letter
  obtain ⟨initial, cut⟩ := List.getLast?_eq_some_iff.mp isLast
  have filled : final ≠ [] := by
    rintro rfl
    cases finalEnds
  refine getLast_join ?_ finalEnds
  rw [words, cut, List.filter_append, List.filter_cons_of_pos (by simpa using filled)]
  exact List.getLast?_concat

/-- Where two texts meet at letters, one word is made of two, and no space stands in between. -/
theorem join_words_append {first second : Text} {last next : Char}
    (ends : first.getLast? = some last) (letter : isBlank last = false)
    (starts : second.head? = some next) (nextLetter : isBlank next = false) :
    join " " (words (first ++ second)) = join " " (words first) ++ join " " (words second) := by
  obtain ⟨final, isLast, finalEnds⟩ := getLast_splitOnP isBlank ends letter
  obtain ⟨initial, firstCut⟩ := List.getLast?_eq_some_iff.mp isLast
  obtain ⟨rest, rfl⟩ := List.head?_eq_some_iff.mp starts
  obtain ⟨piece, pieces, restCut⟩ := List.exists_cons_of_ne_nil (List.splitOnP_ne_nil isBlank rest)
  have secondCut := splitOnP_cons_of_not nextLetter restCut
  have filled : final ≠ [] := by
    rintro rfl
    cases finalEnds
  simp only [words, splitOnP_append first firstCut secondCut, firstCut, secondCut, List.filter_append,
    List.filter_cons, List.filter_nil, List.append_eq_nil_iff, filled, reduceCtorEq, and_false, ne_eq,
    not_false_eq_true, decide_true, if_true]
  exact join_meet " " _ final (next :: piece) _

/-- A text that starts and ends with a character that is not blank. -/
structure Tight (text : Text) : Prop where
  first : ∃ char, text.head? = some char ∧ isBlank char = false
  last : ∃ char, text.getLast? = some char ∧ isBlank char = false

/-- What follows a tight text may be tight or nothing. -/
theorem Tight.append {first second : Text} (before : Tight first)
    (after : second = [] ∨ Tight second) : Tight (first ++ second) := by
  rcases after with rfl | after
  · rwa [List.append_nil]
  · obtain ⟨char, starts, letter⟩ := before.first
    obtain ⟨last, ends, lastLetter⟩ := after.last
    refine ⟨⟨char, ?_, letter⟩, ⟨last, ?_, lastLetter⟩⟩
    · rw [List.head?_append, starts, Option.some_or]
    · rw [List.getLast?_append, ends, Option.some_or]

/-- What stands in front of a tight text may be tight or nothing. -/
theorem Tight.prepend {first second : Text} (before : first = [] ∨ Tight first)
    (after : Tight second) : Tight (first ++ second) := by
  rcases before with rfl | before
  · exact after
  · exact before.append (.inr after)

/-- A run without blanks is tight unless it is empty. -/
theorem tight_of_letters {word : Text} (letters : ∀ char ∈ word, isBlank char = false) :
    word = [] ∨ Tight word := by
  by_cases empty : word = []
  · exact .inl empty
  · exact .inr
      ⟨⟨word.head empty, List.head?_eq_some_head empty, letters _ (List.head_mem empty)⟩,
        ⟨word.getLast empty, List.getLast?_eq_some_getLast empty, letters _ (List.getLast_mem empty)⟩⟩

/-- A letter is no space. -/
theorem beq_space_of_letter {char : Char} (letter : isBlank char = false) : (char == ' ') = false := by
  apply beq_false_of_ne
  rintro rfl
  cases letter

/-- No blank stands where a letter does. -/
theorem ne_blank_of_letter {found? : Option Char}
    (letter : ∃ char, found? = some char ∧ isBlank char = false) {blank : Char}
    (blanks : isBlank blank) : found? ≠ some blank := by
  obtain ⟨char, rfl, isLetter⟩ := letter
  rintro ⟨rfl⟩
  rw [blanks] at isLetter
  cases isLetter

/-- A tight text has no blanks to drop at its start. -/
theorem trimStart_of_tight {text : Text} (tight : Tight text) : trimStart text = text := by
  obtain ⟨first, starts, letter⟩ := tight.first
  cases text with
  | nil => rfl
  | cons char rest =>
    obtain rfl : char = first := Option.some.inj starts
    simp [trimStart, letter]

/-- A tight text has no blanks to drop at its end. -/
theorem trimEnd_of_tight {text : Text} (tight : Tight text) : trimEnd text = text := by
  obtain ⟨last, ends, letter⟩ := tight.last
  exact rdropWhile_of_getLast ends letter

/-- Trimming changes nothing in a tight text. -/
theorem trim_of_tight {text : Text} (tight : Tight text) : trim text = text := by
  rw [trim, trimStart_of_tight tight, trimEnd_of_tight tight]

/-- Blanks at the start of a text belong to no word. -/
theorem words_trimStart (text : Text) : words (trimStart text) = words text := by
  induction text with
  | nil => rfl
  | cons char rest inductionHypothesis =>
    by_cases blank : isBlank char
    · rw [words_cons_blank blank, ← inductionHypothesis]
      simp [trimStart, blank]
    · simp [trimStart, blank]

/-- Blanks at the ends of a text belong to no word. -/
theorem words_trim (text : Text) : words (trim text) = words text := by
  obtain ⟨blanks, whole, allBlank⟩ := rdropWhile_append isBlank (trimStart text)
  have finish : words (trimStart text) = words (trim text) := by
    rw [whole]
    exact words_append_blanks allBlank _
  rw [← finish, words_trimStart]

/-- What trimming drops is blank. -/
theorem trim_append (text : Text) :
    ∃ before after, text = before ++ (trim text ++ after) ∧ (∀ char ∈ before, isBlank char) ∧
      ∀ char ∈ after, isBlank char := by
  obtain ⟨after, finish, allBlank⟩ := rdropWhile_append isBlank (trimStart text)
  refine ⟨text.takeWhile isBlank, after, ?_, fun _ member => List.mem_takeWhile_imp member, allBlank⟩
  rw [trim, trimEnd, dropEndWhile_eq_rdropWhile, ← finish, trimStart, List.takeWhile_append_dropWhile]

/-- Trimming leaves nothing or a tight text. -/
theorem tight_trim (text : Text) : trim text = [] ∨ Tight (trim text) := by
  by_cases empty : trim text = []
  · exact .inl empty
  · have last : isBlank ((trim text).getLast empty) = false :=
      Bool.eq_false_iff.mpr (List.rdropWhile_last_not isBlank (trimStart text) empty)
    refine .inr ⟨?_, _, List.getLast?_eq_some_getLast empty, last⟩
    have stops := List.head?_dropWhile_not isBlank text
    cases start : trimStart text with
    | nil =>
      rw [trim, start] at empty
      exact absurd rfl empty
    | cons first rest =>
      have letter : isBlank first = false := by
        rw [← trimStart, start] at stops
        simpa using stops
      exact ⟨first, head_rdropWhile (by rw [start]; rfl) letter, letter⟩

/-- A text without words is blank. -/
theorem words_eq_nil_iff (text : Text) : words text = [] ↔ trim text = [] := by
  rw [← words_trim]
  constructor
  · intro none
    rcases tight_trim text with empty | tight
    · exact empty
    · obtain ⟨first, starts, letter⟩ := tight.first
      obtain ⟨word, _, _, ⟨_, found⟩ | ⟨_, _, _, _, found⟩⟩ := words_cases starts letter <;>
        simp [found] at none
  · intro empty
    rw [empty]
    rfl

/-- A word is not empty and holds no blank. -/
theorem letters_of_mem_words {text word : Text} (member : word ∈ words text) :
    word ≠ [] ∧ ∀ char ∈ word, isBlank char = false := by
  obtain ⟨piece, filled⟩ := List.mem_filter.mp member
  refine ⟨by simpa using filled, ?_⟩
  exact unmarked_of_mem_splitOnP piece

/-- A word of a text that is cut at a sign holds the sign or is a word of one of the parts. -/
theorem mem_words_append_cons {sign : Char} (letter : isBlank sign = false) {before after word : Text}
    (member : word ∈ words (before ++ sign :: after)) :
    sign ∈ word ∨ word ∈ words before ∨ word ∈ words after := by
  obtain ⟨initial, last, beforeCut⟩ : ∃ initial last, before.splitOnP isBlank = initial ++ [last] :=
    ⟨_, _, (List.dropLast_concat_getLast (List.splitOnP_ne_nil isBlank before)).symm⟩
  obtain ⟨piece, pieces, afterCut⟩ := List.exists_cons_of_ne_nil (List.splitOnP_ne_nil isBlank after)
  have cut := splitOnP_append before beforeCut (splitOnP_cons_of_not letter afterCut)
  simp only [words, cut, beforeCut, afterCut, List.mem_filter] at member ⊢
  obtain ⟨found, filled⟩ := member
  rcases List.mem_append.mp found with first | second
  · exact .inr (.inl ⟨List.mem_append_left _ first, filled⟩)
  · rcases List.mem_cons.mp second with rfl | later
    · exact .inl (List.mem_append_right _ List.mem_cons_self)
    · exact .inr (.inr ⟨List.mem_cons_of_mem _ later, filled⟩)

/-- A word of joined texts holds the sign between them or is a word of one of them. -/
theorem mem_words_join {sign : Char} (letter : isBlank sign = false) {pieces : List Text} {word : Text}
    (member : word ∈ words (join [sign] pieces)) :
    sign ∈ word ∨ ∃ piece ∈ pieces, word ∈ words piece := by
  induction pieces with
  | nil => cases member
  | cons piece pieces inductionHypothesis =>
    cases pieces with
    | nil =>
      rw [join, List.intercalate_singleton] at member
      exact .inr ⟨piece, List.mem_cons_self, member⟩
    | cons next pieces =>
      rw [join, List.intercalate_cons_cons, List.append_assoc, List.singleton_append] at member
      rcases mem_words_append_cons letter member with inside | first | second
      · exact .inl inside
      · exact .inr ⟨piece, List.mem_cons_self, first⟩
      · refine (inductionHypothesis second).imp_right ?_
        rintro ⟨other, listed, found⟩
        exact ⟨other, List.mem_cons_of_mem _ listed, found⟩

/-- A character that is not blank stands in a text exactly if it stands in one of its
words. -/
theorem mem_iff_mem_words {text : Text} {char : Char} (letter : isBlank char = false) :
    char ∈ text ↔ ∃ word ∈ words text, char ∈ word := by
  rw [mem_iff_mem_splitOnP letter]
  constructor
  · rintro ⟨piece, member, inside⟩
    refine ⟨piece, List.mem_filter.mpr ⟨member, ?_⟩, inside⟩
    simpa using List.ne_nil_of_mem inside
  · rintro ⟨word, member, inside⟩
    exact ⟨word, (List.mem_filter.mp member).1, inside⟩

/-- The words of a beginning of a text, if that ends for another reason than a blank,
are settled by the words of the text. -/
theorem words_takeWhile_congr {keep : Char → Bool} (blanks : ∀ char, isBlank char → keep char)
    {first second : Text} (same : words first = words second) :
    words (first.takeWhile keep) = words (second.takeWhile keep) := by
  have filtered (text : Text) : words (text.takeWhile keep) =
      (takePieces keep (words text)).filter (· ≠ []) := by
    rw [words, splitOnP_takeWhile blanks, words, filter_takePieces]
  rw [filtered, filtered, same]

/-- Trimming leaves one word exactly if the text has that word only. In the trimmed text the last
character is no blank, so it would stand in a second word. -/
theorem trim_eq_iff_words {text word : Text} (filled : word ≠ [])
    (letters : ∀ char ∈ word, isBlank char = false) : trim text = word ↔ words text = [word] := by
  constructor
  · intro trimmed
    rw [← words_trim, trimmed, words_of_letters filled letters]
  · intro alone
    rw [← words_trim] at alone
    rcases tight_trim text with empty | tight
    · simp [empty] at alone
    · obtain ⟨first, starts, letter⟩ := tight.first
      obtain ⟨last, ends, lastLetter⟩ := tight.last
      obtain ⟨found, _, _, ⟨whole, only⟩ | ⟨blank, rest, isBlank, whole, found⟩⟩ :=
        words_cases starts letter
      · rw [whole]
        exact (List.cons.inj (only.symm.trans alone)).1
      · have noMore : words rest = [] := (List.cons.inj (found.symm.trans alone)).2
        have member : last ∈ blank :: rest := by
          rw [whole, List.getLast?_append_of_ne_nil _ (List.cons_ne_nil _ _)] at ends
          exact List.mem_of_getLast? ends
        rcases List.mem_cons.mp member with rfl | later
        · rw [isBlank] at lastLetter
          cases lastLetter
        · obtain ⟨other, second, _⟩ := (mem_iff_mem_words lastLetter).mp later
          rw [noMore] at second
          cases second

end PyxProject.Text
