import PyxProject.Proofs.Stub.Arguments

/-!
# Translating a native header

A native header is a keyword, qualifiers, the words of a return type, a name with stars in
front of it, arguments in parentheses, a suffix, perhaps an arrow with another return type,
and a colon (`NativeForm`). Any text that lays out these parts is read into the name, the
return type and the arguments (`read_of_laidOut`) and written from them; qualifiers and
suffix leave no trace.

Reading starts with squeezing, so the parts of the text are taken apart first and squeezed
one by one (`read_squeeze`).
-/

namespace PyxProject.Stub

open Source

/-- A text without the blanks and the colons that are dropped at the end of a header. -/
def withoutColons (text : Text) : Text := Text.trimEnd (dropColons (Text.trimEnd text))

/-- Dropping colons and blanks at the end stops at any other sign. -/
theorem withoutColons_append_cons {sign : Char} (letter : Text.isBlank sign = false)
    (other : sign ≠ ':') (before after : Text) :
    withoutColons (before ++ sign :: after) = before ++ sign :: withoutColons after := by
  have trimmed (after : Text) :
      Text.trimEnd (before ++ sign :: after) = before ++ sign :: Text.trimEnd after :=
    Text.rdropWhile_append_cons letter before after
  have dropped (after : Text) :
      dropColons (before ++ sign :: after) = before ++ sign :: dropColons after :=
    Text.rdropWhile_append_cons (by simpa using other) before after
  rw [withoutColons, trimmed, dropped, trimmed, withoutColons]

/-- A squeezed header is cut at its parentheses into squeezed parts. -/
theorem firstGroup_squeeze {head inside : Text} (outside : '(' ∉ head) (whole : Text.Whole head)
    (closed : Text.Closed inside) (tail : Text) :
    Text.firstGroup?
        (Text.trimEnd (dropColons (Text.squeeze (head ++ '(' :: (inside ++ ')' :: tail))))) =
      some ⟨Text.trimStart (Text.squeezeInner head), Text.squeezeInner inside,
        withoutColons (Text.squeezeInner tail)⟩ := by
  have shortened : Text.trimEnd (dropColons (Text.squeeze (head ++ '(' :: (inside ++ ')' :: tail)))) =
      Text.trimStart (Text.squeezeInner head) ++
        '(' :: (Text.squeezeInner inside ++ ')' :: withoutColons (Text.squeezeInner tail)) := by
    rw [← Text.trim_squeezeInner, Text.squeezeInner_append_cons whole (by decide) (by decide),
      Text.squeezeInner_append_cons closed.literals (by decide) (by decide), Text.trim,
      Text.trimStart_append_cons (by decide), ← withoutColons,
      withoutColons_append_cons (by decide) (by decide),
      withoutColons_append_cons (by decide) (by decide)]
  have outsideStart : '(' ∉ Text.trimStart (Text.squeezeInner head) := by
    rw [Text.mem_iff_mem_words (by decide), Text.words_trimStart, Text.words_squeezeInner,
      ← Text.mem_iff_mem_words (by decide)]
    exact outside
  rw [shortened, Text.firstGroup_of_parts outsideStart ((Text.whole_trimStart_iff _).mpr
    whole.squeezeInner) closed.squeezeInner]

/-- The entries of a list: its pieces between commas outside brackets, without blank ones. -/
def entries (list : Text) : List Text :=
  ((Text.splitTop ',' list).map Text.trim).filter (· ≠ [])

/-- Entries may be squeezed before the blank ones are dropped. -/
theorem entries_squeeze (list : Text) :
    ((Text.splitTop ',' list).map Text.squeeze).filter (· ≠ []) =
      (entries list).map Text.squeeze := by
  have kept (piece : Text) : decide (Text.trim piece ≠ []) = decide (Text.squeeze piece ≠ []) :=
    decide_eq_decide.mpr (Text.squeeze_eq_nil_iff piece).not.symm
  simp only [entries, List.filter_map, List.map_map, Function.comp_def, Text.squeeze_trim, kept]

/-- The arguments of a squeezed list are the squeezed entries of the list. -/
theorem readArguments_squeezeInner {inside : Text} (closed : Text.Closed inside) :
    readArguments (Text.squeezeInner inside) =
      ((entries inside).map Text.squeeze).map Argument.read := by
  rw [readArguments, Text.splitTop_squeezeInner (by decide) (by decide) closed, List.map_map,
    ← entries_squeeze]
  simp only [Function.comp_def, Text.trim_squeezeInner]

/-- Squeezed entries that are read and written are translated. -/
theorem write_squeezed (arguments : List Text) :
    ((arguments.map Text.squeeze).map Argument.read).map Argument.write =
      arguments.map fun argument => argumentInStub (Text.squeeze argument) := by
  simp only [List.map_map, Function.comp_def, argumentInStub]

/-- A header is read part by part. -/
theorem read_squeeze {head inside : Text} (outside : '(' ∉ head) (whole : Text.Whole head)
    (closed : Text.Closed inside) {types : List Text} {word : Text}
    (declared : declarationWords head = types ++ [word]) (tail : Text) :
    NativeHeader.read (Text.squeeze (head ++ '(' :: (inside ++ ')' :: tail))) =
      .signature
        { name := word.dropWhile (· == '*')
          returns? := (explicitReturn? (withoutColons (Text.squeezeInner tail))).or
            (filled? (Text.join " " types ++ word.takeWhile (· == '*')))
          arguments := ((entries inside).map Text.squeeze).map Argument.read } := by
  have words : declarationWords (Text.trimStart (Text.squeezeInner head)) = types ++ [word] := by
    rw [declarationWords, Text.words_trimStart, Text.words_squeezeInner]
    exact declared
  simp only [NativeHeader.read, firstGroup_squeeze outside whole closed tail, words,
    List.getLast?_concat, List.dropLast_concat, moveStars, readArguments_squeezeInner closed]

/-- The sign in front of a return type that follows the parentheses. -/
def arrow : Text := "->"

/-- An arrow that starts later is looked for later. -/
theorem afterArrow_cons {char : Char} {rest : Text} (other : ¬ arrow <+: char :: rest) :
    afterArrow? (char :: rest) = afterArrow? rest := by
  rw [afterArrow?]
  rintro more rfl rfl
  exact other ⟨more, rfl⟩

/-- There is nothing after an arrow exactly in a text without one. -/
theorem afterArrow_eq_none_iff (text : Text) : afterArrow? text = none ↔ ¬ arrow <:+: text := by
  induction text with
  | nil =>
    have filled : ¬ arrow <:+: [] := fun found => by cases List.infix_nil.mp found
    exact iff_of_true rfl filled
  | cons char rest inductionHypothesis =>
    rw [List.infix_cons_iff, not_or]
    by_cases start : arrow <+: char :: rest
    · obtain ⟨more, same⟩ := start
      rw [← same]
      simp [afterArrow?, arrow]
    · rw [afterArrow_cons start, inductionHypothesis, and_iff_right start]

/-- The first arrow stands behind a text without one. -/
theorem afterArrow_append {before : Text} (absent : ¬ arrow <:+: before) (after : Text) :
    afterArrow? (before ++ '-' :: '>' :: after) = some after := by
  induction before with
  | nil => rfl
  | cons char before inductionHypothesis =>
    rw [List.infix_cons_iff, not_or] at absent
    have other : ¬ arrow <+: char :: (before ++ '-' :: '>' :: after) := by
      rintro ⟨more, same⟩
      obtain ⟨rfl, rest⟩ := List.cons.inj same
      cases before with
      | nil => cases rest
      | cons next before =>
        obtain ⟨rfl, _⟩ := List.cons.inj rest
        exact absent.1 ⟨before, rfl⟩
    rw [List.cons_append, afterArrow_cons other, inductionHypothesis absent.2]

/-- A return type behind its arrow, as it is written in a header. -/
def writeArrow : Option Text → Text
  | some type => arrow ++ type
  | none => []

/-- A text that ends with a letter when it is trimmed ends with it or with a blank. -/
theorem getLast_of_trim {text : Text} {last : Char} (ends : text.getLast? = some last)
    (letter : Text.isBlank last = false) : (Text.trim text).getLast? = some last := by
  have start : (Text.trimStart text).getLast? = some last := Text.getLast_dropWhile ends letter
  rw [Text.trim, Text.trimEnd, Text.dropEndWhile_eq_rdropWhile,
    Text.rdropWhile_of_getLast start letter]
  exact start

/-- The colon of a header and the blanks behind it are dropped. -/
theorem withoutColons_finish {finish : Text} (blank : ∀ char ∈ finish, Text.isBlank char)
    (text : Text) :
    withoutColons (Text.squeezeInner (text ++ ':' :: finish)) =
      Text.trimEnd (dropColons (Text.squeezeInner text)) := by
  obtain ⟨blanks, squeezed, allBlank⟩ :=
    Text.squeezeInner_finish (by decide : Text.isBlank ':' = false) blank text
  have gone := Text.rdropWhile_append_of_all allBlank []
  rw [List.nil_append] at gone
  have trimmed : Text.trimEnd (Text.squeezeInner text ++ ':' :: blanks) =
      Text.squeezeInner text ++ [':'] := by
    rw [Text.trimEnd, Text.dropEndWhile_eq_rdropWhile, Text.rdropWhile_append_cons (by decide), gone]
    rfl
  have dropped : dropColons (Text.squeezeInner text ++ [':']) = dropColons (Text.squeezeInner text) :=
    Text.rdropWhile_append_of_all (by simp) _
  rw [withoutColons, squeezed, trimmed, dropped]

/-- A return type behind the arrow is read squeezed, up to the colon of the header. -/
theorem trim_withoutColons {type finish : Text} (colonless : (Text.trim type).getLast? ≠ some ':')
    (blank : ∀ char ∈ finish, Text.isBlank char) :
    Text.trim (withoutColons (Text.squeezeInner (type ++ ':' :: finish))) = Text.squeeze type := by
  have kept : dropColons (Text.squeezeInner type) = Text.squeezeInner type := by
    cases ends : (Text.squeezeInner type).getLast? with
    | none =>
      rw [List.getLast?_eq_none_iff.mp ends]
      rfl
    | some last =>
      apply Text.rdropWhile_of_getLast ends
      simp only [beq_eq_false_iff_ne]
      rintro rfl
      apply colonless
      rw [← Text.getLast_squeeze_eq, ← Text.trim_squeezeInner]
      exact getLast_of_trim ends (by decide)
  rw [withoutColons_finish blank, kept, Text.trim_trimEnd, Text.trim_squeezeInner]

/-- Squeezing makes no arrow. -/
theorem arrow_squeezeInner (text : Text) : arrow <:+: Text.squeezeInner text ↔ arrow <:+: text := by
  rw [Text.infix_iff_mem_words (by decide) (by decide), Text.words_squeezeInner,
    ← Text.infix_iff_mem_words (by decide) (by decide)]

/-- The return type that is read behind the parentheses is the one behind the first arrow. -/
theorem explicitReturn_of_tail {suffix finish : Text} {explicit? : Option Text}
    (arrowless : ¬ arrow <:+: suffix) (whole : Text.Whole suffix)
    (types : ∀ type ∈ explicit?, Text.trim type ≠ [] ∧ (Text.trim type).getLast? ≠ some ':')
    (blank : ∀ char ∈ finish, Text.isBlank char) :
    explicitReturn? (withoutColons
        (Text.squeezeInner (suffix ++ (writeArrow explicit? ++ ':' :: finish)))) =
      explicit?.map Text.squeeze := by
  rw [← arrow_squeezeInner] at arrowless
  cases explicit? with
  | none =>
    have dropped : Text.trimEnd (dropColons (Text.squeezeInner suffix)) <+: Text.squeezeInner suffix :=
      (List.rdropWhile_prefix _ _).trans (List.rdropWhile_prefix _ _)
    have trimmed (text : Text) : Text.trim text <:+: text :=
      (List.rdropWhile_prefix _ _).isInfix.trans (List.dropWhile_suffix _).isInfix
    have shorter := (trimmed _).trans dropped.isInfix
    rw [writeArrow, List.nil_append, withoutColons_finish blank, explicitReturn?,
      (afterArrow_eq_none_iff _).mpr fun found => arrowless (found.trans shorter)]
    rfl
  | some type =>
    obtain ⟨filled, colonless⟩ := types type rfl
    have empty : Text.Whole [] := rfl
    have cut : Text.squeezeInner (suffix ++ (writeArrow (some type) ++ ':' :: finish)) =
        Text.squeezeInner suffix ++ '-' :: '>' :: Text.squeezeInner (type ++ ':' :: finish) := by
      have tail := Text.squeezeInner_append_cons empty (by decide : Text.isBlank '>' = false)
        (by decide) (type ++ ':' :: finish)
      exact (Text.squeezeInner_append_cons whole (by decide : Text.isBlank '-' = false)
        (by decide) _).trans (congrArg _ (congrArg _ tail))
    have arrowlessStart : ¬ arrow <:+: Text.trimStart (Text.squeezeInner suffix) := fun found =>
      arrowless (found.trans (List.dropWhile_suffix _).isInfix)
    have kept (rest : Text) : Text.trimEnd ('>' :: rest) = '>' :: Text.trimEnd rest :=
      Text.rdropWhile_append_cons (by decide) [] rest
    have shortened (rest : Text) : withoutColons ('>' :: rest) = '>' :: withoutColons rest :=
      withoutColons_append_cons (by decide) (by decide) [] rest
    rw [cut, withoutColons_append_cons (by decide) (by decide), shortened, explicitReturn?,
      Text.trim_append_cons (by decide), kept, afterArrow_append arrowlessStart, Option.bind_some,
      Text.trim_trimEnd, trim_withoutColons colonless blank, filled?,
      if_neg ((Text.squeeze_eq_nil_iff type).not.mpr filled)]
    rfl

/-- The parts of a native header. -/
structure NativeForm where
  keyword : Text
  qualifiers : List Text
  /-- The words of the return type before the name. -/
  types : List Text
  /-- The number of stars in front of the name. -/
  stars : Nat
  name : Text
  arguments : List Text
  /-- What stands between the parentheses and the arrow. -/
  suffix : Text
  /-- The return type behind the arrow, if there is one. -/
  explicit? : Option Text
  isKeyword : keyword ∈ nativeKeywords
  areQualifiers : ∀ word ∈ qualifiers, word ∈ Stub.qualifiers
  typeWords : ∀ word ∈ types, word ∉ nativeKeywords ∧
    ∀ char ∈ word, char ≠ '(' ∧ Text.isDelimiter char = false
  firstType : ∀ word ∈ types.head?, word ∉ Stub.qualifiers
  untyped : types = [] → stars = 0
  identifier : IsIdentifier name
  ownName : name ∉ nativeKeywords ∧ name ∉ Stub.qualifiers
  argumentTexts : ∀ argument ∈ arguments,
    Text.Closed argument ∧ Text.Avoids ',' argument ∧ Text.trim argument ≠ []
  suffixText : ¬ arrow <:+: suffix ∧ ∀ char ∈ suffix, Text.isDelimiter char = false
  explicitText : ∀ type ∈ explicit?, Text.trim type ≠ [] ∧ (Text.trim type).getLast? ≠ some ':'

namespace NativeForm

/-- Where no return type stands behind an arrow, there is nothing to ask of it. -/
theorem explicitText_none : ∀ type ∈ (none : Option Text),
    Text.trim type ≠ [] ∧ (Text.trim type).getLast? ≠ some ':' := nofun

variable (form : NativeForm)

/-- The name with its stars. -/
def starredName : Text := List.replicate form.stars '*' ++ form.name

/-- The words before the parentheses. -/
def words : List Text :=
  form.keyword :: (form.qualifiers ++ (form.types ++ [form.starredName]))

/-- A text lays out the parts of a header, with any blanks between its words, around its
arguments and at its end. -/
def LaidOut (text : Text) : Prop :=
  ∃ head inside finish, Text.Spaced form.words head ∧
    (inside = Text.join "," form.arguments ∨
      form.arguments = [] ∧ ∀ char ∈ inside, Text.isBlank char) ∧
    (∀ char ∈ finish, Text.isBlank char) ∧
    text = head ++ "(" ++ inside ++ ")" ++ form.suffix ++ writeArrow form.explicit? ++ ":" ++ finish

/-- The return type: the one behind the arrow or else the one before the name. -/
def returns? : Option Text :=
  match form.explicit? with
  | some type => some (Text.squeeze type)
  | none =>
    if form.types = [] then none
    else some (Text.join " " form.types ++ List.replicate form.stars '*')

/-- The header that a stub shows. -/
def shown : Text :=
  let arguments := form.arguments.map fun argument => argumentInStub (Text.squeeze argument)
  let returns : Text :=
    match form.returns? with
    | some type => " -> " ++ shownType type .result
    | none => []
  "def " ++ form.name ++ "(" ++ Text.join ", " arguments ++ ")" ++ returns ++ ":"

/-- The name with its stars is neither a keyword nor a qualifier. -/
theorem starredName_own : form.starredName ∉ nativeKeywords ∧
    (form.stars = 0 → form.starredName ∉ Stub.qualifiers) := by
  rw [starredName]
  cases form.stars with
  | zero => exact ⟨form.ownName.1, fun _ => form.ownName.2⟩
  | succ stars =>
    refine ⟨?_, fun none => by cases none⟩
    simp [nativeKeywords, List.replicate_succ]

/-- Keyword and qualifiers are no part of what is declared. -/
theorem declarationWords_of_spaced {head : Text} (spaced : Text.Spaced form.words head) :
    declarationWords head = form.types ++ [form.starredName] := by
  have kept : ∀ word ∈ form.qualifiers ++ (form.types ++ [form.starredName]),
      (!nativeKeywords.contains word) = true := by
    have apart : ∀ word ∈ Stub.qualifiers, word ∉ nativeKeywords := by decide
    intro word member
    simp only [List.mem_append, List.mem_singleton] at member
    rcases member with qualifier | type | rfl
    · simpa using apart word (form.areQualifiers word qualifier)
    · simpa using (form.typeWords word type).1
    · simpa using form.starredName_own.1
  have passed : ∀ word ∈ form.qualifiers, Stub.qualifiers.contains word = true := by
    simpa using form.areQualifiers
  have stops : (form.types ++ [form.starredName]).dropWhile (fun word => Stub.qualifiers.contains word) =
      form.types ++ [form.starredName] := by
    have first : ∀ word ∈ (form.types ++ [form.starredName]).head?, word ∉ Stub.qualifiers := by
      cases types : form.types with
      | nil => simpa using form.starredName_own.2 (form.untyped types)
      | cons type types' => simpa [types] using form.firstType
    cases whole : form.types ++ [form.starredName] with
    | nil => rfl
    | cons word rest =>
      rw [whole] at first
      exact List.dropWhile_cons_of_neg (by simpa using first word rfl)
  rw [declarationWords, Text.words_of_spaced spaced, words,
    List.filter_cons_of_neg (by simpa using form.isKeyword), List.filter_eq_self.mpr kept,
    List.dropWhile_append_of_pos passed, stops]

/-- No parenthesis and no literal stands before the arguments. -/
theorem head_plain {head : Text} (spaced : Text.Spaced form.words head) :
    ∀ char ∈ head, char ≠ '(' ∧ Text.isDelimiter char = false := by
  have plain : ∀ word ∈ form.words, ∀ char ∈ word, char ≠ '(' ∧ Text.isDelimiter char = false := by
    have keywords : ∀ word ∈ nativeKeywords ++ Stub.qualifiers, ∀ char ∈ word,
        char ≠ '(' ∧ Text.isDelimiter char = false := by decide
    intro word member char inside
    simp only [words, List.mem_cons, List.mem_append, List.not_mem_nil, or_false] at member
    rcases member with rfl | qualifier | type | rfl
    · exact keywords _ (List.mem_append_left _ form.isKeyword) char inside
    · exact keywords word (List.mem_append_right _ (form.areQualifiers word qualifier)) char inside
    · exact (form.typeWords word type).2 char inside
    · rcases List.mem_append.mp inside with star | letter
      · obtain rfl := (List.mem_replicate.mp star).2
        decide
      · exact Text.plain_of_isNeutral (isNeutral_of_isNameChar (form.identifier.chars char letter))
  have blanks (char : Char) (blank : Text.isBlank char) : char ≠ '(' ∧ Text.isDelimiter char = false :=
    ⟨Text.ne_of_isBlank blank '(' (by decide), Text.isDelimiter_of_isBlank blank⟩
  exact Text.forall_of_spaced blanks plain spaced

/-- The arguments are the pieces of what stands between the parentheses. -/
theorem arguments_of_inside {inside : Text}
    (listed : inside = Text.join "," form.arguments ∨
      form.arguments = [] ∧ ∀ char ∈ inside, Text.isBlank char) :
    Text.Closed inside ∧ (entries inside).map Text.squeeze = form.arguments.map Text.squeeze := by
  rw [← entries_squeeze]
  by_cases none : form.arguments = []
  · have blank : ∀ char ∈ inside, Text.isBlank char := by
      rcases listed with rfl | ⟨_, blank⟩
      · rw [none]
        exact List.forall_mem_nil _
      · exact blank
    have unbroken : Text.Unbroken (· == ',') inside :=
      Text.unbroken_of_neutral
        (Text.neutral_of_blank (Text.unstopped_of_isBlank (by decide)) blank)
    have empty : Text.squeeze inside = [] := by
      rw [Text.squeeze_eq_nil_iff, ← Text.words_eq_nil_iff]
      simpa using Text.words_append_blanks blank []
    rw [Text.splitTop_of_avoids (Text.unbroken_iff.mp unbroken).2, none]
    exact ⟨unbroken.closed, by simp [empty]⟩
  · obtain rfl : inside = Text.join "," form.arguments := by
      rcases listed with same | ⟨empty, _⟩
      · exact same
      · exact absurd empty none
    have unbroken : ∀ argument ∈ form.arguments, Text.Unbroken (· == ',') argument :=
      fun argument member =>
        Text.unbroken_iff.mpr ⟨(form.argumentTexts argument member).1,
          (form.argumentTexts argument member).2.1⟩
    have cut : Text.splitTop ',' (Text.join "," form.arguments) = form.arguments :=
      Text.splitTop_join (by decide) none unbroken
    have separator : Text.Closed ",".toList := ⟨rfl, rfl⟩
    refine ⟨Text.closed_join separator fun argument member => (unbroken argument member).closed, ?_⟩
    rw [cut, List.filter_eq_self]
    intro squeezed member
    obtain ⟨argument, found, rfl⟩ := List.mem_map.mp member
    simpa [Text.squeeze_eq_nil_iff] using (form.argumentTexts argument found).2.2

/-- Without a return type behind the arrow, the one before the name counts. -/
theorem returns_eq {head : Text} (spaced : Text.Spaced form.words head) :
    (form.explicit?.map Text.squeeze).or
        (filled? (Text.join " " form.types ++ List.replicate form.stars '*')) = form.returns? := by
  rw [returns?]
  cases form.explicit? with
  | some type => rfl
  | none =>
    rw [Option.map_none, Option.none_or]
    cases types : form.types with
    | nil =>
      rw [form.untyped types]
      rfl
    | cons type types' =>
      have member : type ∈ Text.words head := by
        rw [Text.words_of_spaced spaced, words, types]
        simp
      obtain ⟨char, inside⟩ := List.exists_mem_of_ne_nil _ (Text.letters_of_mem_words member).1
      have found : char ∈ Text.join " " (type :: types') := Text.mem_join " " List.mem_cons_self inside
      rw [filled?, if_neg (List.append_ne_nil_of_left_ne_nil (List.ne_nil_of_mem found) _),
        if_neg (List.cons_ne_nil _ _)]

/-- What the header is read into. -/
def signature : Signature where
  name := form.name
  returns? := form.returns?
  arguments := (form.arguments.map Text.squeeze).map Argument.read

/-- The signature is written as the header that a stub shows. -/
theorem write_signature : form.signature.write = form.shown := by
  have keyword : plainKeyword ++ " ".toList = "def ".toList := by decide
  unfold Signature.write signature shown
  cases form.returns? with
  | none => simp only [write_squeezed, keyword]
  | some type => simp only [write_squeezed, keyword]

/-- A header that is laid out from its parts is read into its signature. -/
theorem read_of_laidOut {text : Text} (laidOut : form.LaidOut text) :
    NativeHeader.read (Text.squeeze text) = .signature form.signature := by
  obtain ⟨head, inside, finish, spaced, listed, blank, rfl⟩ := laidOut
  obtain ⟨closed, arguments⟩ := form.arguments_of_inside listed
  have plain := form.head_plain spaced
  have outside : '(' ∉ head := fun member => (plain '(' member).1 rfl
  have whole : Text.Whole head := Text.whole_of_undelimited fun char member => (plain char member).2
  have declared := form.declarationWords_of_spaced spaced
  obtain ⟨starred, name⟩ := Text.run_of_rest '*' form.stars form.identifier.word.2
  have explicit : explicitReturn? (withoutColons (Text.squeezeInner
      (form.suffix ++ (writeArrow form.explicit? ++ ':' :: finish)))) =
        form.explicit?.map Text.squeeze :=
    explicitReturn_of_tail form.suffixText.1 (Text.whole_of_undelimited form.suffixText.2)
      form.explicitText blank
  have read := read_squeeze outside whole closed declared
    (form.suffix ++ (writeArrow form.explicit? ++ ':' :: finish))
  rw [explicit, arguments, starredName, starred, name, form.returns_eq spaced] at read
  have parts : head ++ "(" ++ inside ++ ")" ++ form.suffix ++ writeArrow form.explicit? ++ ":" ++ finish =
      head ++ '(' :: (inside ++ ')' :: (form.suffix ++ (writeArrow form.explicit? ++ ':' :: finish))) := by
    simp
  rw [parts, read]
  rfl

end NativeForm

/-- Every text that lays out the parts of a native header is shown as a plain header: the
name, the translated arguments in order, and the return type behind the arrow or before the
name. -/
theorem functionInStub_of_laidOut (form : NativeForm) {text : Text} (laidOut : form.LaidOut text) :
    functionInStub true text = form.shown := by
  simp only [functionInStub, if_true, form.read_of_laidOut laidOut]
  exact form.write_signature

/-- A header with qualifiers, a pointer, arguments that hold commas in brackets and in a
literal, and a suffix with brackets of its own. -/
def NativeForm.sample : NativeForm where
  keyword := "cpdef"
  qualifiers := ["inline", "api"]
  types := ["const", "char"]
  stars := 1
  name := "label"
  arguments := [" double[:, ::1]  view ", " dict  names = \x7b'a,(': (1, 2)\x7d", " *rest "]
  suffix := " except? (0) nogil "
  explicit? := none
  isKeyword := by decide
  areQualifiers := by decide
  typeWords := by decide
  firstType := by decide
  untyped := by decide
  identifier := ⟨by decide, by decide⟩
  ownName := by decide
  argumentTexts := by
    have closed : ∀ argument ∈ [" double[:, ::1]  view ".toList,
        " dict  names = \x7b'a,(': (1, 2)\x7d".toList, " *rest ".toList], Text.Closed argument := by
      simp only [List.forall_mem_cons]
      exact ⟨⟨by decide, rfl⟩, ⟨by decide, rfl⟩, ⟨by decide, rfl⟩, List.forall_mem_nil _⟩
    exact fun argument member => ⟨closed argument member, by revert argument; decide⟩
  suffixText := ⟨(afterArrow_eq_none_iff _).mp (by decide), by decide⟩
  explicitText := NativeForm.explicitText_none

/-- The sample is laid out with runs of blanks and shown without qualifiers and suffix. -/
theorem functionInStub_of_laidOut_sample :
    functionInStub true ("cpdef inline  api const\tchar *label( double[:, ::1]  view , dict  names = ".toList ++
        "\x7b'a,(': (1, 2)\x7d, *rest ) except? (0) nogil : ".toList) =
      "def label(view:double[:, ::1], names:dict=\x7b'a,(': (1, 2)\x7d, *rest) -> str:".toList := by
  have laidOut : NativeForm.sample.LaidOut
      ("cpdef inline  api const\tchar *label( double[:, ::1]  view , dict  names = ".toList ++
        "\x7b'a,(': (1, 2)\x7d, *rest ) except? (0) nogil : ".toList) :=
    ⟨"cpdef inline  api const\tchar *label", Text.join "," NativeForm.sample.arguments, " ",
      Text.spaced_iff.mpr (by decide +kernel), .inl rfl, by decide, by decide +kernel⟩
  exact (functionInStub_of_laidOut NativeForm.sample laidOut).trans (by decide +kernel)

end PyxProject.Stub
