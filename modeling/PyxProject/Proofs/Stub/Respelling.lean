import Mathlib.Logic.Relation
import PyxProject.Proofs.Text.LetterCase
import PyxProject.Proofs.Text.Spacing
import PyxProject.Stub.NativeType

/-!
# Spellings of native types

One native type is spelled in many ways: with capitals, with wide gaps between its words, with
blanks at its ends and before its stars. `Respelled` lists the changes, one at a time and on any
text. None of them touches the form in which a type is looked up (`normalize_of_respelled`), so
every spelling of a type that the table holds is shown as that type is. What is shown is no spelling
that the table takes for something else, so it stays as it is when it is shown again
(`shownType_stable`).
-/

namespace PyxProject.Stub

/-- One change in how a native type is spelled. -/
inductive Respelled : Text → Text → Prop
  /-- Letters of ASCII change their case. -/
  | letters (first second : Text) (same : first.map Char.toLower = second.map Char.toLower) :
      Respelled first second
  /-- Blanks between words become other blanks. -/
  | gap (before old new after : Text) (oldFilled : old ≠ [])
      (oldBlank : ∀ char ∈ old, Text.isBlank char) (newFilled : new ≠ [])
      (newBlank : ∀ char ∈ new, Text.isBlank char) :
      Respelled (before ++ old ++ after) (before ++ new ++ after)
  /-- Blanks at the start come, go or become other blanks. -/
  | start (old new after : Text) (oldBlank : ∀ char ∈ old, Text.isBlank char)
      (newBlank : ∀ char ∈ new, Text.isBlank char) : Respelled (old ++ after) (new ++ after)
  /-- Blanks at the end come, go or become other blanks. -/
  | finish (before old new : Text) (oldBlank : ∀ char ∈ old, Text.isBlank char)
      (newBlank : ∀ char ∈ new, Text.isBlank char) : Respelled (before ++ old) (before ++ new)
  /-- Blanks before a star come, go or become other blanks. -/
  | star (before old new after : Text) (oldBlank : ∀ char ∈ old, Text.isBlank char)
      (newBlank : ∀ char ∈ new, Text.isBlank char) :
      Respelled (before ++ old ++ '*' :: after) (before ++ new ++ '*' :: after)

/-- The words of a native type with single spaces between them and the stars attached. -/
def compact (native : Text) : Text := attachStars (Text.join " " (Text.words native))

/-- Stars are attached one character at a time: a space goes if a star stands behind it. -/
theorem attachStars_cons (char : Char) (rest : Text) :
    attachStars (char :: rest) =
      if char = ' ' ∧ rest.head? = some '*' then attachStars rest else char :: attachStars rest := by
  by_cases spaced : char = ' ' ∧ rest.head? = some '*'
  · obtain ⟨rfl, starts⟩ := spaced
    obtain ⟨others, rfl⟩ := List.head?_eq_some_iff.mp starts
    simp [attachStars]
  · rw [if_neg spaced, attachStars]
    rintro others rfl rfl
    exact spaced ⟨rfl, rfl⟩

/-- Stars are attached part by part, unless a space before a star is cut off from it. -/
theorem attachStars_append {first second : Text}
    (together : first.getLast? = some ' ' → second.head? ≠ some '*') :
    attachStars (first ++ second) = attachStars first ++ attachStars second := by
  induction first with
  | nil => rfl
  | cons char rest inductionHypothesis =>
    rw [List.cons_append, attachStars_cons, attachStars_cons]
    cases rest with
    | nil =>
      have kept : ¬(char = ' ' ∧ second.head? = some '*') := by
        rintro ⟨rfl, starts⟩
        exact together rfl starts
      simp [kept, attachStars]
    | cons next rest =>
      rw [List.getLast?_cons_cons] at together
      rw [inductionHypothesis together, List.cons_append, List.head?_cons, List.head?_cons]
      split <;> rfl

/-- The case of ASCII letters has no part in attaching stars. -/
theorem attachStars_map_toLower (text : Text) :
    attachStars (text.map Char.toLower) = (attachStars text).map Char.toLower := by
  have space := Text.toLower_eq_iff ' ' (by decide +kernel)
  have star := Text.toLower_eq_iff '*' (by decide +kernel)
  induction text with
  | nil => rfl
  | cons char rest inductionHypothesis =>
    have starts : (rest.map Char.toLower).head? = some '*' ↔ rest.head? = some '*' := by
      cases rest with
      | nil => rfl
      | cons next _ => simp [star]
    rw [List.map_cons, attachStars_cons, attachStars_cons, inductionHypothesis]
    simp only [space, starts]
    split <;> rfl

/-- The case of ASCII letters does not show in the form in which a type is looked up. -/
theorem normalize_map_toLower (native : Text) :
    normalize (native.map Char.toLower) = normalize native := by
  have compacted : compact (native.map Char.toLower) = (compact native).map Char.toLower := by
    have joined := Text.join_map Char.toLower " " (Text.words native)
    rw [compact, Text.words_map_toLower, compact, ← attachStars_map_toLower, ← joined]
    rfl
  change Text.lowercase (compact (native.map Char.toLower)) = Text.lowercase (compact native)
  rw [compacted, Text.lowercase_map_toLower]

/-- The words of a text that starts with a star start with it as well. -/
theorem head_join_star (after : Text) :
    (Text.join " " (Text.words ('*' :: after))).head? = some '*' := by
  obtain ⟨more, others, words, _⟩ :=
    Text.words_letters_append (List.cons_ne_nil '*' []) (by decide) after
  rw [← List.singleton_append, words, Text.head_join (by simp)]
  rfl

/-- A star behind a blank starts a word, and the space that is put before that word goes. -/
theorem compact_blank_star {blank : Char} (isBlank : Text.isBlank blank) (before after : Text) :
    compact (before ++ blank :: '*' :: after) = compact before ++ compact ('*' :: after) := by
  have filled : Text.words ('*' :: after) ≠ [] := by
    intro none
    have starts := head_join_star after
    rw [none] at starts
    cases starts
  have attached : attachStars (" " ++ Text.join " " (Text.words ('*' :: after))) =
      compact ('*' :: after) := by
    change attachStars (' ' :: Text.join " " (Text.words ('*' :: after))) = _
    rw [attachStars_cons, if_pos ⟨rfl, head_join_star after⟩, compact]
  rw [compact, Text.words_append_blank isBlank, compact]
  by_cases empty : Text.words before = []
  · rw [empty]
    rfl
  · rw [Text.join_append " " empty filled, attachStars_append (by simp), attached]

/-- A star behind a letter goes on with its word, which does not end in a space. -/
theorem compact_letter_star {before : Text} {last : Char} (ends : before.getLast? = some last)
    (letter : Text.isBlank last = false) (after : Text) :
    compact (before ++ '*' :: after) = compact before ++ compact ('*' :: after) := by
  have apart := Text.ne_blank_of_letter ⟨last, Text.getLast_join_words ends letter, letter⟩
    (by decide : Text.isBlank ' ')
  rw [compact, Text.join_words_append ends letter rfl (by decide),
    attachStars_append fun space => absurd space apart, compact, compact]

/-- A star ends what stands before it: both parts may be compacted on their own. -/
theorem compact_append_star (before after : Text) :
    compact (before ++ '*' :: after) = compact before ++ compact ('*' :: after) := by
  rcases List.eq_nil_or_concat' before with rfl | ⟨init, last, rfl⟩
  · rfl
  by_cases blank : Text.isBlank last
  · have dropped : compact (init ++ [last]) = compact init := by
      rw [compact, Text.words_append_blank blank, Text.words_nil, List.append_nil, ← compact]
    rw [dropped, List.append_assoc, List.singleton_append, compact_blank_star blank]
  · exact compact_letter_star List.getLast?_concat (Bool.eq_false_iff.mpr blank) after

/-- A change of spelling does not show in the form in which a type is looked up. -/
theorem normalize_of_respelled {first second : Text} (changed : Respelled first second) :
    normalize first = normalize second := by
  cases changed with
  | letters _ _ same => rw [← normalize_map_toLower first, same, normalize_map_toLower]
  | gap before old new after oldFilled oldBlank newFilled newBlank =>
    have words {blanks : Text} (filled : blanks ≠ []) (allBlank : ∀ char ∈ blanks, Text.isBlank char) :
        Text.words (before ++ blanks ++ after) = Text.words before ++ Text.words after := by
      obtain ⟨blank, rest, rfl⟩ := List.exists_cons_of_ne_nil filled
      obtain ⟨isBlank, restBlank⟩ := List.forall_mem_cons.mp allBlank
      rw [List.append_assoc, List.cons_append, Text.words_append_blank isBlank,
        Text.words_blanks_append restBlank]
    rw [normalize, normalize, words oldFilled oldBlank, words newFilled newBlank]
  | start old new after oldBlank newBlank =>
    rw [normalize, normalize, Text.words_blanks_append oldBlank, Text.words_blanks_append newBlank]
  | finish before old new oldBlank newBlank =>
    rw [normalize, normalize, Text.words_append_blanks oldBlank, Text.words_append_blanks newBlank]
  | star before old new after oldBlank newBlank =>
    have compacted {blanks : Text} (allBlank : ∀ char ∈ blanks, Text.isBlank char) :
        compact (before ++ blanks ++ '*' :: after) = compact before ++ compact ('*' :: after) := by
      rw [compact_append_star, compact, Text.words_append_blanks allBlank, ← compact]
    change Text.lowercase (compact _) = Text.lowercase (compact _)
    rw [compacted oldBlank, compacted newBlank]

/-- However a native type is respelled, it is looked up in the same form. -/
theorem normalize_of_respellings {first second : Text}
    (changed : Relation.EqvGen Respelled first second) : normalize first = normalize second := by
  have alike : Equivalence fun first second => normalize first = normalize second :=
    eq_equivalence.comap normalize
  have each : Respelled ≤ fun first second => normalize first = normalize second :=
    fun _ _ => normalize_of_respelled
  exact alike.eqvGen_iff.mp (Relation.EqvGen.mono each _ _ changed)

/-- What a type is looked up for depends on the form in which it is looked up only. -/
theorem pythonType_congr {first second : Text} (same : normalize first = normalize second)
    (position : Position) : pythonType? first position = pythonType? second position := by
  simp only [pythonType?, same]

/-- A spelling of the table has the type that stands beside it. -/
theorem pythonType_of_mem {known : Text} {type : PythonType} (member : (known, type) ∈ nativeTypes)
    (position : Position) : pythonType? known position = some type := by
  have table : ∀ entry ∈ nativeTypes, pythonType? entry.1 .argument = some entry.2 ∧
      pythonType? entry.1 .result = some entry.2 := by decide +kernel
  obtain ⟨argument, result⟩ := table (known, type) member
  cases position with
  | argument => exact argument
  | result => exact result

/-- Only `void` has the type of nothing, and only as a result. -/
theorem pythonType_eq_none_iff (native : Text) (position : Position) :
    pythonType? native position = some .none ↔ position = .result ∧ normalize native = "void" := by
  by_cases void : normalize native = "void"
  · cases position <;> simp [pythonType?, void]
  · have table : ∀ entry ∈ nativeTypes, entry.2 ≠ .none := by decide +kernel
    simp only [pythonType?, void, if_false, and_false, iff_false]
    intro found
    obtain ⟨entry, located, isNone⟩ := Option.map_eq_some_iff.mp found
    exact table entry (List.mem_of_find?_eq_some located) isNone

/-- A spelling of the table is shown as the type that stands beside it. -/
theorem shownType_of_mem {known : Text} {type : PythonType} (member : (known, type) ∈ nativeTypes)
    (position : Position) : shownType known position = type.spelling := by
  rw [shownType, pythonType_of_mem member position]

/-- What is shown for a type is shown again as it is. The table holds it as a type of its own, unless
it is the type of nothing, which no spelling of the table stands for. -/
theorem shownType_spelling (type : PythonType) (position : Position) :
    shownType type.spelling position = type.spelling := by
  cases type with
  | none => cases position <;> decide +kernel
  | bool | int | float | complex | str => exact shownType_of_mem (by decide +kernel) position

/-- A shown type is the type that was found, or the trimmed text if none was. -/
theorem shownType_cases (native : Text) (position : Position) :
    (∃ type, pythonType? native position = some type ∧ shownType native position = type.spelling) ∨
      pythonType? native position = none ∧ shownType native position = Text.trim native := by
  rw [shownType]
  cases pythonType? native position with
  | none => exact .inr ⟨rfl, rfl⟩
  | some type => exact .inl ⟨type, rfl, rfl⟩

/-- What is shown for a native type is settled. It stays as it is when it is shown again. It is one of
six types or the trimmed text, and the type of nothing is found for `void` as a result only. However a
spelling of the table is changed, by the case of its letters, the blanks between its words and at its
ends, and blanks before a star, it is shown as the type that the table gives. -/
theorem shownType_stable (native : Text) (position : Position) :
    shownType (shownType native position) position = shownType native position ∧
      (shownType native position ∈ (["bool", "int", "float", "complex", "str", "None"] : List Text) ∨
        shownType native position = Text.trim native) ∧
      (pythonType? native position = some .none ↔ position = .result ∧ normalize native = "void") ∧
      ∀ known type, (known, type) ∈ nativeTypes → Relation.EqvGen Respelled known native →
        shownType native position = shownType known position ∧
          shownType known position = type.spelling := by
  refine ⟨?_, ?_, pythonType_eq_none_iff native position, ?_⟩
  · rcases shownType_cases native position with ⟨type, _, shown⟩ | ⟨unknown, shown⟩
    · rw [shown, shownType_spelling]
    · have same : normalize (Text.trim native) = normalize native := by
        rw [normalize, normalize, Text.words_trim]
      have unknownAgain := (pythonType_congr same position).trans unknown
      rw [shown, shownType, unknownAgain]
      exact Text.trim_trim native
  · rcases shownType_cases native position with ⟨type, _, shown⟩ | ⟨_, shown⟩
    · left
      rw [shown]
      cases type <;> decide
    · exact .inr shown
  · intro known type member changed
    have same := pythonType_congr (normalize_of_respellings changed) position
    refine ⟨?_, shownType_of_mem member position⟩
    rw [shownType, shownType, ← same, pythonType_of_mem member position]

/-- A pointer to characters, in capitals, with a tab and with blanks before and behind the star. -/
theorem shownType_of_wide_pointer :
    ("const char*".toList, PythonType.str) ∈ nativeTypes ∧
      Relation.EqvGen Respelled "const char*" "Const \tCHAR *  " ∧
      shownType "Const \tCHAR *  " .argument = "str".toList := by
  have member : ("const char*".toList, PythonType.str) ∈ nativeTypes := by decide +kernel
  have letters := Respelled.letters "const char*" "Const CHAR*" (by decide)
  have gap := Respelled.gap "Const" " " " \t" "CHAR*" (by decide) (by decide) (by decide) (by decide)
  have star := Respelled.star "Const \tCHAR" "" " " "" (by decide) (by decide)
  have finish := Respelled.finish "Const \tCHAR *" "" "  " (by decide) (by decide)
  have changed : Relation.EqvGen Respelled "const char*" "Const \tCHAR *  " :=
    .trans _ _ _ (.rel _ _ letters)
      (.trans _ _ _ (.rel _ _ gap) (.trans _ _ _ (.rel _ _ star) (.rel _ _ finish)))
  obtain ⟨same, known⟩ :=
    (shownType_stable "Const \tCHAR *  " .argument).2.2.2 "const char*" .str member changed
  exact ⟨member, changed, same.trans known⟩

end PyxProject.Stub
