import PyxProject.Proofs.Stub.Arguments
import PyxProject.Proofs.Stub.Noninterference

/-!
# Lines that open blocks

The lines in question start with the reserved word of a statement that has a suite, or
declare a native block: a native keyword, qualifiers, and a word such as `struct`. A stub is
meant to show none of them, and it is said here exactly which of them it shows
(`isKept_iff_of_block_line`).

A reserved word is only looked for at the head of a line that ends in a colon, and only as a
word between blanks, apart from colons behind it. A line with the suite on it, or with a sign
directly behind the word, counts as a statement and is kept in the body of a class. The word
of a native block is only looked for right behind the keyword, so with a qualifier between
the two the line counts as a function.
-/

namespace PyxProject.Stub

open Source

/-- The reserved words of the statements that have a suite. -/
def suiteWords : List Text :=
  ["if", "elif", "else", "for", "while", "with", "try", "except", "finally"]

/-- The words of native blocks other than enumerations. -/
def declarationBlockWords : List Text := ["struct", "union", "cppclass", "extern", "packed", "fused"]

/-- What stands before the first blank of a text. -/
def untilBlank (text : Text) : Text := text.takeWhile fun char => !Text.isBlank char

/-- What stands behind a word up to the first blank belongs to that word. -/
theorem words_append_untilBlank {word : Text} (isWord : IsIdentifier word) (rest : Text) :
    ∃ others, Text.words (word ++ rest) = (word ++ untilBlank rest) :: others := by
  have parts : word ++ rest =
      (word ++ untilBlank rest) ++ rest.dropWhile fun char => !Text.isBlank char := by
    rw [untilBlank, List.append_assoc, List.takeWhile_append_dropWhile]
  have apart : ∀ char ∈ (rest.dropWhile fun char => !Text.isBlank char).head?, Text.isBlank char := by
    have stops := List.head?_dropWhile_not (fun char => !Text.isBlank char) rest
    intro char first
    simpa [Option.mem_def.mp first] using stops
  have letters : ∀ char ∈ word ++ untilBlank rest, Text.isBlank char = false := by
    intro char member
    rcases List.mem_append.mp member with inWord | behind
    · exact isWord.word.1 char inWord
    · simpa using List.mem_takeWhile_imp behind
  have filled : word ++ untilBlank rest ≠ [] := List.append_ne_nil_of_left_ne_nil isWord.filled _
  have words : Text.words (word ++ rest) = (word ++ untilBlank rest) ::
      Text.words (rest.dropWhile fun char => !Text.isBlank char) := by
    rw [parts, Text.words_append_of_apart apart, Text.words_of_letters filled letters]
    rfl
  exact ⟨_, words⟩

/-- A word is what stands before the first character that is in no name. -/
theorem takeWhile_isNameChar {word rest : Text} (isWord : IsIdentifier word)
    (apart : ∀ char ∈ rest.head?, isNameChar char = false) :
    (word ++ rest).takeWhile isNameChar = word := by
  have none : rest.takeWhile isNameChar = [] := by
    cases rest with
    | nil => rfl
    | cons char rest => exact List.takeWhile_cons_of_neg (by simp [apart char rfl])
  rw [List.takeWhile_append_of_pos isWord.chars, none, List.append_nil]

/-- What is left of a word and what stands behind it, once the colons at the end are dropped,
is another word only if that is the same and there were only colons. -/
theorem dropColons_eq_iff {word other rest : Text} (isWord : IsIdentifier word)
    (isOther : IsIdentifier other) (apart : ∀ char ∈ rest.head?, isNameChar char = false) :
    dropColons (word ++ rest) = other ↔ word = other ∧ ∀ char ∈ rest, char = ':' := by
  constructor
  · intro same
    obtain ⟨colons, parts, allColons⟩ := Text.rdropWhile_append (· == ':') (word ++ rest)
    rw [← Text.dropEndWhile_eq_rdropWhile, ← dropColons, same] at parts
    have colonsApart : ∀ char ∈ colons.head?, isNameChar char = false := by
      intro char first
      obtain rfl : char = ':' := by simpa using allColons char (List.mem_of_mem_head? first)
      decide
    have sameWord : word = other := by
      rw [← takeWhile_isNameChar isWord apart, parts, takeWhile_isNameChar isOther colonsApart]
    subst sameWord
    rw [List.append_cancel_left parts]
    exact ⟨rfl, by simpa using allColons⟩
  · rintro ⟨rfl, colons⟩
    have ends := List.getLast?_eq_some_getLast isWord.filled
    have inName : isNameChar (word.getLast isWord.filled) := isWord.chars _ (List.getLast_mem _)
    rw [dropColons, Text.dropEndWhile_eq_rdropWhile, Text.rdropWhile_append_of_all (by simpa using colons)]
    exact Text.rdropWhile_of_getLast ends (beq_false_of_ne (ne_of_isNameChar inName ':' (by decide)))

/-- The words of a table of names that is asked with colons dropped. -/
theorem contains_dropColons {table : List Text} (names : ∀ name ∈ table, IsIdentifier name)
    {word rest : Text} (listed : word ∈ table) (apart : ∀ char ∈ rest.head?, isNameChar char = false) :
    table.contains (dropColons (word ++ rest)) ↔ ∀ char ∈ rest, char = ':' := by
  rw [List.contains_iff_mem]
  constructor
  · intro found
    exact ((dropColons_eq_iff (names word listed) (names _ found) apart).mp rfl).2
  · intro colons
    rwa [(dropColons_eq_iff (names word listed) (names word listed) apart).mpr ⟨rfl, colons⟩]

/-- The characters up to the first blank start like the text. -/
theorem apart_untilBlank {rest : Text} (apart : ∀ char ∈ rest.head?, isNameChar char = false) :
    ∀ char ∈ (untilBlank rest).head?, isNameChar char = false := by
  intro char first
  rw [untilBlank, List.head?_takeWhile] at first
  exact apart char (Option.mem_filter_iff.mp first).1

/-- The words of statement blocks are names. -/
theorem identifier_of_statementBlock : ∀ word ∈ statementBlockWords, IsIdentifier word := by
  have names : ∀ word ∈ statementBlockWords, word ≠ [] ∧ ∀ char ∈ word, isNameChar char := by decide
  exact fun word member => ⟨(names word member).1, (names word member).2⟩

/-- The words that decide about a line when they come first, apart from those of blocks. -/
def leadingWords : List Text :=
  ["import", "cimport", "from", "def", "async", "cdef", "cpdef", "class", "cdef:"]

/-- A line that starts otherwise is tested for a block only: it ends in a colon, and without
colons its first word is one of those that open blocks. -/
theorem role_of_other {text first : Text} {rest : List Text} (words : Text.words text = first :: rest)
    (unlisted : first ∉ leadingWords) (noSign : text.head? ≠ some '@') (names : CythonNames) :
    LineRole.of names text =
      if text.getLast? = some ':' ∧ statementBlockWords.contains (dropColons first) then .blockHeader
      else .statement := by
  have other {known : Text} (listed : known ∈ leadingWords) : (first == known) = false :=
    beq_false_of_ne fun same => unlisted (same ▸ listed)
  have noImport : formsImport (first :: rest) = false := by
    refine formsImport_of_other ?_ (other (by decide))
    rw [isImportKeyword, other (by decide), other (by decide), Bool.or_self]
  have noNative : nativeKeywords.contains first = false := by
    have listed : ∀ word ∈ nativeKeywords, word ∈ leadingWords := by decide
    rw [Bool.eq_false_iff, ne_eq, List.contains_iff_mem]
    exact fun native => unlisted (listed first native)
  have noPlain : startsPlain (first :: rest) = false := by
    rw [startsPlain, other (by decide), other (by decide), Bool.false_and, Bool.or_self]
  have noDefinition : opensDefinition text = false := by
    simp only [opensDefinition, words, noPlain, List.head?_cons, Option.any_some, noNative, Bool.or_self]
  have whole : headerOf text = text := by rw [headerOf, noDefinition]; rfl
  have noClass : (first == "class") = false := other (by decide)
  have noBare : (first == "cdef:") = false := other (by decide)
  rw [LineRole.of, whole, if_neg (lt_irrefl _)]
  simp only [LineRole.ofHeader, words, noImport, noSign, noClass, noNative, noPlain, noBare,
    Bool.false_or, Bool.false_and, Bool.false_eq_true, if_false]
  by_cases ends : text.getLast? = some ':' <;> simp [ends]

/-- The words of native blocks are names. -/
theorem identifier_of_nativeBlock : ∀ word ∈ nativeBlockWords, IsIdentifier word := by
  have names : ∀ word ∈ nativeBlockWords, word ≠ [] ∧ ∀ char ∈ word, isNameChar char := by decide
  exact fun word member => ⟨(names word member).1, (names word member).2⟩

/-- A line that starts with the reserved word of a suite opens a block if it ends in a colon
and nothing but colons stands directly behind the word. Else it is a statement. -/
theorem role_of_suite {word rest : Text} (reserved : word ∈ suiteWords)
    (apart : ∀ char ∈ rest.head?, isNameChar char = false) (names : CythonNames) :
    LineRole.of names (word ++ rest) =
      if (word ++ rest).getLast? = some ':' ∧ ∀ char ∈ untilBlank rest, char = ':' then .blockHeader
      else .statement := by
  have facts : ∀ word ∈ suiteWords, word ∈ statementBlockWords ∧ word.head? ≠ some '@' := by decide
  obtain ⟨listed, starts⟩ := facts word reserved
  have isWord := identifier_of_statementBlock word listed
  obtain ⟨others, words⟩ := words_append_untilBlank isWord rest
  have unlisted : word ++ untilBlank rest ∉ leadingWords := by
    have stems : ∀ known ∈ leadingWords, known.takeWhile isNameChar ∉ suiteWords := by decide
    intro found
    have stem := stems _ found
    rw [takeWhile_isNameChar isWord (apart_untilBlank apart)] at stem
    exact stem reserved
  have noSign : (word ++ rest).head? ≠ some '@' := by
    rwa [List.head?_append_of_ne_nil _ isWord.filled]
  rw [role_of_other words unlisted noSign]
  simp only [contains_dropColons identifier_of_statementBlock listed (apart_untilBlank apart)]

/-- If a colon stands behind what a header search passes, the header ends there. -/
theorem tail_of_colon {stem tail : Text}
    (plain : ∀ char ∈ stem, Text.isNeutral char ∧ endsSearch char = false) {more : Text}
    (opens : opensDefinition (stem ++ ':' :: (more ++ ":")))
    (header : headerOf (stem ++ ':' :: (more ++ ":")) = stem ++ tail) : tail = ":" := by
  have filled : Text.trim (more ++ ":") ≠ [] := by
    have colon : ':' ∈ more ++ ":" := by simp
    obtain ⟨word, found, _⟩ := (Text.mem_iff_mem_words (by decide)).mp colon
    rw [ne_eq, ← Text.words_eq_nil_iff]
    exact List.ne_nil_of_mem found
  rw [headerOf_append_colon (Text.unbroken_of_neutral plain) opens, if_neg filled] at header
  exact (List.append_cancel_left header).symm

/-- The parts of a line that declares a native block: the keyword, the qualifiers, the word
that says what is declared, and what stands between it and the colon. -/
structure NativeBlock where
  keyword : Text
  qualifiers : List Text
  word : Text
  rest : Text
  isKeyword : keyword ∈ nativeKeywords
  areQualifiers : ∀ qualifier ∈ qualifiers, qualifier ∈ Stub.qualifiers
  isBlockWord : word ∈ declarationBlockWords
  apart : ∀ char ∈ rest.head?, isNameChar char = false

namespace NativeBlock

variable (block : NativeBlock)

/-- A text lays out the parts, with any blanks between the words. -/
def LaidOut (text : Text) : Prop :=
  ∃ front blanks, Text.Spaced (block.keyword :: block.qualifiers) front ∧ blanks ≠ [] ∧
    (∀ char ∈ blanks, Text.isBlank char) ∧ text = front ++ (blanks ++ (block.word ++ (block.rest ++ ":")))

/-- The word is not found where it is looked for: a qualifier stands before it, or a sign other
than the colon directly behind it. -/
def Overlooked : Prop :=
  block.qualifiers ≠ [] ∨ ∃ char ∈ block.rest.head?, Text.isBlank char = false ∧ char ≠ ':'

/-- The word is one of those that open native blocks. -/
theorem listed : block.word ∈ nativeBlockWords := by
  have included : ∀ word ∈ declarationBlockWords, word ∈ nativeBlockWords := by decide
  exact included _ block.isBlockWord

/-- The word is a name. -/
theorem isWord : IsIdentifier block.word := identifier_of_nativeBlock _ block.listed

/-- What follows the native keyword decides whether a block or a function is declared. -/
theorem ofNative_eq {found : Text} {others : List Text}
    (apart : ∀ char ∈ found.head?, isNameChar char = false) :
    LineRole.ofNative (block.qualifiers ++ (block.word ++ found) :: others) =
      if block.qualifiers = [] ∧ ∀ char ∈ found, char = ':' then .blockHeader
      else .functionHeader true := by
  have qualifierFacts : ∀ qualifier ∈ Stub.qualifiers, qualifier ≠ "enum".toList ∧
      nativeBlockWords.contains (dropColons qualifier) = false := by decide
  cases given : block.qualifiers with
  | nil =>
    have noEnum : block.word ++ found ≠ "enum".toList := by
      intro same
      have stem := takeWhile_isNameChar block.isWord apart
      rw [same] at stem
      exact absurd (stem ▸ block.isBlockWord) (by decide)
    rw [List.nil_append, LineRole.ofNative, if_neg fun isEnum => noEnum isEnum.1]
    simp only [contains_dropColons identifier_of_nativeBlock block.listed apart, true_and]
  | cons qualifier qualifiers =>
    obtain ⟨noEnum, noBlock⟩ := qualifierFacts qualifier (block.areQualifiers _ (by simp [given]))
    rw [List.cons_append, LineRole.ofNative, if_neg fun isEnum => noEnum isEnum.1, noBlock]
    simp

/-- Keyword, qualifiers and word hold nothing that a header search reacts to. -/
theorem stem_plain {stem : Text}
    (spaced : Text.Spaced (block.keyword :: (block.qualifiers ++ [block.word])) stem) :
    ∀ char ∈ stem, Text.isNeutral char ∧ endsSearch char = false := by
  have plain : ∀ word ∈ nativeKeywords ++ Stub.qualifiers ++ declarationBlockWords, ∀ char ∈ word,
      Text.isNeutral char ∧ endsSearch char = false := by decide
  refine unsearched_of_spaced (fun word member => plain word ?_) spaced
  simp only [List.mem_cons, List.mem_append, List.not_mem_nil, or_false] at member ⊢
  rcases member with rfl | qualifier | rfl
  · exact .inl (.inl block.isKeyword)
  · exact .inl (.inr (block.areQualifiers word qualifier))
  · exact .inr block.isBlockWord

/-- What stands up to the end of the word is passed by a header search, and what follows it
only adds to the last word. -/
theorem stem_of_laidOut {text : Text} (laidOut : block.LaidOut text) :
    ∃ stem, text = stem ++ (block.rest ++ ":") ∧
      (∀ char ∈ stem, Text.isNeutral char ∧ endsSearch char = false) ∧
      ∀ tail, Text.words (stem ++ tail) =
        block.keyword :: (block.qualifiers ++ Text.words (block.word ++ tail)) := by
  obtain ⟨front, blanks, spaced, filled, blank, rfl⟩ := laidOut
  have words (tail : Text) : Text.words ((front ++ (blanks ++ block.word)) ++ tail) =
      block.keyword :: (block.qualifiers ++ Text.words (block.word ++ tail)) := by
    have apart : ∀ char ∈ (blanks ++ (block.word ++ tail)).head?, Text.isBlank char := by
      rw [List.head?_append_of_ne_nil _ filled]
      exact fun char first => blank char (List.mem_of_mem_head? first)
    rw [List.append_assoc, List.append_assoc, Text.words_append_of_apart apart,
      Text.words_of_spaced spaced, Text.words_blanks_append blank]
    rfl
  have alone : Text.words (front ++ (blanks ++ block.word)) =
      block.keyword :: (block.qualifiers ++ [block.word]) := by
    have word := Text.words_of_letters block.isWord.filled block.isWord.word.1
    have empty := words []
    rwa [List.append_nil, List.append_nil, word] at empty
  exact ⟨_, by simp, block.stem_plain (Text.spaced_iff.mpr alone), words⟩

/-- A header of a line with these parts goes on behind the word, up to a colon. There are only
colons before the next blank if a blank or a colon follows the word. -/
theorem header_of_laidOut {text : Text} (laidOut : block.LaidOut text) :
    ∃ found others, Text.words (headerOf text) =
        block.keyword :: (block.qualifiers ++ (block.word ++ found) :: others) ∧
      (headerOf text).getLast? = some ':' ∧ (∀ char ∈ found.head?, isNameChar char = false) ∧
      ((∀ char ∈ found, char = ':') ↔ ∀ char ∈ block.rest.head?, Text.isBlank char ∨ char = ':') := by
  obtain ⟨stem, rfl, plain, words⟩ := block.stem_of_laidOut laidOut
  have colonless : ':' ∉ stem := fun member => absurd (plain ':' member).2 (by decide)
  obtain ⟨tail, finish, header, parts, ends⟩ :=
    headerOf_append colonless (by simp : (stem ++ (block.rest ++ ":")).getLast? = some ':')
  obtain ⟨others, found⟩ := words_append_untilBlank block.isWord tail
  refine ⟨untilBlank tail, others, by rw [header, words, found], ?_, ?_⟩
  · rw [header, List.getLast?_append, ends, Option.some_or]
  obtain ⟨first, tail, rfl⟩ : ∃ first rest, tail = first :: rest := by
    cases tail with
    | nil => cases ends
    | cons first tail => exact ⟨first, tail, rfl⟩
  cases given : block.rest with
  | nil =>
    rw [given] at parts
    obtain ⟨rfl, rest⟩ := List.cons.inj parts
    obtain ⟨rfl, _⟩ := List.append_eq_nil_iff.mp rest.symm
    decide
  | cons char more =>
    have opens : opensDefinition (stem ++ (block.rest ++ ":")) := by
      simp only [opensDefinition, words, List.head?_cons, Option.any_some,
        List.contains_iff_mem.mpr block.isKeyword, Bool.or_true]
    rw [given] at parts header opens
    obtain ⟨rfl, rest⟩ := List.cons.inj parts
    have apart : isNameChar char = false := block.apart char (by simp [given])
    refine ⟨apart_untilBlank (by simpa using apart), ?_⟩
    by_cases blank : Text.isBlank char
    · simp [untilBlank, blank]
    by_cases colon : char = ':'
    · subst colon
      have alone := tail_of_colon plain opens header
      have onlyColon : ∀ char ∈ untilBlank ":", char = ':' := by decide
      rw [alone]
      exact iff_of_true onlyColon (by simp)
    · simp [untilBlank, blank, colon]

/-- The header of a line with these parts is that of a class if `class` is a word of it, and
else that of a function if the word of the block is overlooked. -/
theorem ofHeader_of_laidOut {text : Text} (laidOut : block.LaidOut text) (names : CythonNames) :
    ("class".toList ∈ Text.words (headerOf text) →
        LineRole.ofHeader names (headerOf text) = .classHeader) ∧
      ("class".toList ∉ Text.words (headerOf text) → block.Overlooked →
        LineRole.ofHeader names (headerOf text) = .functionHeader true) ∧
      ("class".toList ∉ Text.words (headerOf text) → ¬block.Overlooked →
        LineRole.ofHeader names (headerOf text) = .blockHeader) := by
  obtain ⟨found, others, words, ends, apart, colons⟩ := block.header_of_laidOut laidOut
  have overlooked : block.Overlooked ↔ ¬(block.qualifiers = [] ∧ ∀ char ∈ found, char = ':') := by
    simp only [Overlooked, colons, not_and_or, not_forall, not_or, exists_prop, Bool.not_eq_true, ne_eq]
  rw [overlooked, ofHeader_of_keyword ends words (.inr block.isKeyword), words, block.ofNative_eq apart]
  refine ⟨fun isClass => if_pos isClass, fun noClass seen => ?_, fun noClass seen => ?_⟩
  · rw [if_neg noClass, if_neg seen]
  · rw [if_neg noClass, if_pos (not_not.mp seen)]

end NativeBlock

/-- Definitions are kept, and statements in the body of a class. -/
theorem isKept_iff (entry : Entry) :
    entry.isKept ↔ entry.role.isDefinition ∨ entry.role = .statement ∧ entry.placement.inClass := by
  cases role : entry.role <;> simp [Entry.isKept, role, LineRole.isDefinition]

/-- A line that starts with the reserved word of a suite is kept exactly in the body of a class,
and only if it does not end in a colon or another sign stands directly behind the word. -/
theorem isKept_suite_iff {word rest text : Text} (reserved : word ∈ suiteWords)
    (apart : ∀ char ∈ rest.head?, isNameChar char = false) (parts : text = word ++ rest)
    {names : CythonNames} {entry : Entry} (role : entry.role = LineRole.of names text) :
    entry.isKept ↔ entry.placement.inClass ∧
      (text.getLast? ≠ some ':' ∨ ∃ char ∈ untilBlank rest, char ≠ ':') := by
  rw [parts, role_of_suite reserved apart, ← parts] at role
  rw [isKept_iff, role]
  split
  · rename_i opens
    simpa [LineRole.isDefinition, opens.1] using fun _ => opens.2
  · rename_i noBlock
    have either : text.getLast? ≠ some ':' ∨ ∃ char ∈ untilBlank rest, char ≠ ':' := by
      simpa only [not_and_or, not_forall, exists_prop] using noBlock
    simp [LineRole.isDefinition, either]

/-- A line that declares a native block is kept exactly if the word of the block is overlooked, if
it counts as a class, or if it stands in the body of a class with more behind its header. The
cases are those of its role: the header is the whole line, or more stands behind the header of a
function, or behind another header, and then the line is a statement. -/
theorem NativeBlock.isKept_laidOut_iff (block : NativeBlock) {text : Text} (laidOut : block.LaidOut text)
    {names : CythonNames} {entry : Entry} (role : entry.role = LineRole.of names text) :
    entry.isKept ↔
      (block.Overlooked ∧ "class".toList ∉ Text.words (headerOf text)) ∨
      ("class".toList ∈ Text.words text ∧ headerOf text = text) ∨
      (entry.placement.inClass ∧ headerOf text ≠ text) := by
  obtain ⟨isClass, isFunction, isBlock⟩ := block.ofHeader_of_laidOut laidOut names
  rw [isKept_iff]
  rcases role_cases names text with ⟨whole, same⟩ | ⟨cut, ⟨native, same, header⟩ | ⟨same, header⟩⟩
  · rw [whole] at isClass isFunction isBlock ⊢
    rw [role, same]
    by_cases classWord : "class".toList ∈ Text.words text
    · rw [isClass classWord]
      exact iff_of_true (.inl rfl) (.inr (.inl ⟨classWord, rfl⟩))
    by_cases overlooked : block.Overlooked
    · rw [isFunction classWord overlooked]
      exact iff_of_true (.inl rfl) (.inl ⟨overlooked, classWord⟩)
    · rw [isBlock classWord overlooked]
      refine iff_of_false (by simp [LineRole.isDefinition]) ?_
      rintro (⟨seen, _⟩ | ⟨found, _⟩ | ⟨_, cut⟩)
      · exact overlooked seen
      · exact classWord found
      · exact cut rfl
  · have noClass : "class".toList ∉ Text.words (headerOf text) := by
      intro classWord
      rw [isClass classWord] at header
      cases header
    have overlooked : block.Overlooked := by
      by_contra seen
      rw [isBlock noClass seen] at header
      cases header
    rw [role, same]
    exact iff_of_true (.inl rfl) (.inl ⟨overlooked, noClass⟩)
  · rw [role, same]
    constructor
    · rintro (definition | ⟨_, inClass⟩)
      · cases definition
      · exact .inr (.inr ⟨inClass, cut⟩)
    · rintro (⟨overlooked, noClass⟩ | ⟨_, whole⟩ | ⟨inClass, _⟩)
      · exact absurd (isFunction noClass overlooked) (header true)
      · exact absurd whole cut
      · exact .inr ⟨rfl, inClass⟩

/-- Which of the lines are kept that start with the reserved word of a suite, and which of those
that declare a native block. -/
theorem isKept_iff_of_block_line {content : Text} {pairs : List (Source.Line × Entry)}
    (found : annotated content = .ok pairs) {line : Source.Line} {entry : Entry}
    (member : (line, entry) ∈ pairs) :
    (∀ word rest, word ∈ suiteWords → (∀ char ∈ rest.head?, isNameChar char = false) →
        line.text = word ++ rest →
      (entry.isKept ↔ entry.placement.inClass ∧
        (line.text.getLast? ≠ some ':' ∨ ∃ char ∈ untilBlank rest, char ≠ ':'))) ∧
    ∀ block : NativeBlock, block.LaidOut line.text →
      (entry.isKept ↔
        (block.Overlooked ∧ "class".toList ∉ Text.words (headerOf line.text)) ∨
        ("class".toList ∈ Text.words line.text ∧ headerOf line.text = line.text) ∨
        (entry.placement.inClass ∧ headerOf line.text ≠ line.text)) := by
  have role := role_of_mem_annotated found member
  constructor
  · exact fun word rest reserved apart text => isKept_suite_iff reserved apart text role
  · exact fun block laidOut => block.isKept_laidOut_iff laidOut role

/-- A block, a class with the suite on the line of its condition, and a qualified native block. -/
def blockSample : Text :=
  "if D:\n  x = 1\nclass A:\n  if D: x = 1\n".toList ++ "cdef public struct P:\n  int x\n"

/-- The lines of the sample with their entries. -/
def blockSampleOutline : List (Source.Line × Entry) :=
  [(⟨1, 0, false, "if D:"⟩, ⟨.blockHeader, 0, ⟨false, false⟩⟩),
   (⟨2, 2, false, "x = 1"⟩, ⟨.statement, 1, ⟨false, false⟩⟩),
   (⟨3, 0, false, "class A:"⟩, ⟨.classHeader, 0, ⟨false, false⟩⟩),
   (⟨4, 2, false, "if D: x = 1"⟩, ⟨.statement, 1, ⟨true, false⟩⟩),
   (⟨5, 0, false, "cdef public struct P:"⟩, ⟨.functionHeader true, 0, ⟨false, false⟩⟩),
   (⟨6, 2, false, "int x"⟩, ⟨.statement, 1, ⟨false, true⟩⟩)]

/-- Of these the block is left out, and the line with the suite and the native block are kept. -/
theorem isKept_in_blockSample :
    annotated blockSample = .ok blockSampleOutline ∧
      (∃ line entry, (line, entry) ∈ blockSampleOutline ∧ line.text = "if D:" ∧ ¬entry.isKept) ∧
      (∃ line entry, (line, entry) ∈ blockSampleOutline ∧ line.text = "if D: x = 1" ∧ entry.isKept) ∧
      ∃ line entry, (line, entry) ∈ blockSampleOutline ∧ line.text = "cdef public struct P:" ∧
        entry.isKept := by
  have found : annotated blockSample = .ok blockSampleOutline := rfl
  have reserved : "if".toList ∈ suiteWords := by decide
  let block : NativeBlock :=
    ⟨"cdef", ["public"], "struct", " P", by decide, by decide, by decide, by decide⟩
  have laidOut : block.LaidOut "cdef public struct P:" :=
    ⟨"cdef public", " ", Text.spaced_iff.mpr (by decide), by decide, by decide, by decide⟩
  refine ⟨found, ⟨_, _, .head _, rfl, ?_⟩, ⟨_, _, .tail _ (.tail _ (.tail _ (.head _))), rfl, ?_⟩,
    ⟨_, _, .tail _ (.tail _ (.tail _ (.tail _ (.head _)))), rfl, ?_⟩⟩
  · rw [(isKept_iff_of_block_line found (.head _)).1 "if" " D:" reserved (by decide) rfl]
    exact fun kept => absurd kept.1 (by decide)
  · exact ((isKept_iff_of_block_line found (.tail _ (.tail _ (.tail _ (.head _))))).1 "if" " D: x = 1"
      reserved (by decide) rfl).mpr ⟨rfl, .inl (by decide)⟩
  · exact ((isKept_iff_of_block_line found (.tail _ (.tail _ (.tail _ (.tail _ (.head _)))))).2 block
      laidOut).mpr (.inl ⟨.inl (by decide), by decide⟩)

/-- Lines with a suite behind the condition, with a sign directly behind the reserved word, and
native blocks with a qualifier are written to the stub. -/
theorem block_lines_are_written :
    generate "class A:\n    if DEBUG: x = 1\n    y = 2\n" =
        .ok ["class A:", "    if DEBUG: x = 1", "    y = 2"] ∧
      generate "class A:\n    y = 2\n    if(DEBUG):\n        x = 1\n" =
        .ok ["class A:", "    y = 2", "    if(DEBUG):"] ∧
      generate "cdef public struct P:\n    int x\n" = .ok ["def public struct P:", "    ..."] :=
  ⟨rfl, rfl, rfl⟩

end PyxProject.Stub
