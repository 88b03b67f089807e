import PyxProject.Proofs.Stub.NativeHeaders
import PyxProject.Proofs.Text.Matching

/-!
# As many parameters as arguments

The arguments of a native header are cut at commas outside brackets, and each is written in
another order, its name before its type. The words of an argument are told apart by blanks,
with no regard to brackets, so what is taken for the type may leave a bracket open that the
name closes. Written name first, the two no longer match, and the parameters of the written
header are not the translated arguments.

This is the only way in which they can differ. The parameters are the translated arguments
in order exactly if each of these is closed and without a comma outside brackets, and as
long as no type holds a torn literal that is so exactly if every type is balanced
(`parameters_functionInStub_iff`).
-/

namespace PyxProject.Stub

open Source

/-- The parameters of a header: the entries of its first bracket group. -/
def parameters? (header : Text) : Option (List Text) :=
  (Text.firstGroup? header).map fun group => entries group.inside

/-- Unbroken texts without blanks at their ends are the entries of the list that joins them,
also with blanks in front. -/
theorem entries_join {blanks : Text} (allBlank : ∀ char ∈ blanks, Text.isBlank char)
    {pieces : List Text}
    (unbroken : ∀ piece ∈ pieces, Text.Unbroken (· == ',') piece ∧ Text.Tight piece) :
    entries (blanks ++ Text.join ", " pieces) = pieces := by
  have front : Text.Unbroken (· == ',') blanks :=
    Text.unbroken_of_neutral (Text.neutral_of_blank (Text.unstopped_of_isBlank (by decide)) allBlank)
  induction pieces generalizing blanks with
  | nil =>
    have nothing : Text.trim blanks = [] := by
      rw [← Text.words_eq_nil_iff]
      simpa using Text.words_append_blanks allBlank []
    rw [entries, Text.join, List.intercalate_nil, List.append_nil,
      Text.splitTop_of_avoids (Text.unbroken_iff.mp front).2]
    simp [nothing]
  | cons piece pieces inductionHypothesis =>
    obtain ⟨⟨first, tight⟩, later⟩ := List.forall_mem_cons.mp unbroken
    have whole := (front.append_iff piece).mpr first
    have trimmed : Text.trim (blanks ++ piece) = piece := by
      have dropped := Text.trim_between_blanks allBlank (List.forall_mem_nil _) piece
      rwa [List.append_nil, Text.trim_of_tight tight] at dropped
    have filled : piece ≠ [] := by
      rintro rfl
      obtain ⟨_, starts, _⟩ := tight.first
      cases starts
    cases pieces with
    | nil =>
      rw [entries, Text.join, List.intercalate_singleton,
        Text.splitTop_of_avoids (Text.unbroken_iff.mp whole).2]
      simp [trimmed, filled]
    | cons next pieces =>
      have parts : blanks ++ Text.join ", " (piece :: next :: pieces) =
          (blanks ++ piece) ++ ',' :: (" " ++ Text.join ", " (next :: pieces)) := by
        simp [Text.join]
      have space : ∀ char ∈ " ".toList, Text.isBlank char := by decide
      have spaceUnbroken : Text.Unbroken (· == ',') " ".toList := Text.unbroken_of_neutral (by decide)
      have rest := inductionHypothesis space later spaceUnbroken
      rw [entries] at rest
      rw [parts, entries, Text.splitTop_append_cons (by decide) whole, List.map_cons, trimmed,
        List.filter_cons_of_pos (by simpa using filled), rest]

/-- A shown type has no blanks at its ends. -/
theorem trimmed_shownType (native : Text) (position : Position) :
    shownType native position = [] ∨ Text.Tight (shownType native position) := by
  rw [shownType]
  cases pythonType? native position with
  | none => exact Text.tight_trim native
  | some type =>
    change type.spelling = [] ∨ Text.Tight type.spelling
    exact Text.tight_of_letters (by cases type <;> decide)

/-- A default is written without blanks at its ends. -/
theorem trimmed_writeDefault {default? : Option Text}
    (values : ∀ value ∈ default?, value = [] ∨ Text.Tight value) :
    writeDefault default? = [] ∨ Text.Tight (writeDefault default?) := by
  cases default? with
  | none => exact .inl rfl
  | some value =>
    have sign : Text.Tight "=".toList := ⟨⟨'=', rfl, by decide⟩, ⟨'=', rfl, by decide⟩⟩
    exact .inr (sign.append (values value rfl))

/-- A default is written unbroken. -/
theorem unbroken_writeDefault {default? : Option Text}
    (values : ∀ value ∈ default?, Text.Unbroken (· == ',') value) :
    Text.Unbroken (· == ',') (writeDefault default?) := by
  cases default? with
  | none => exact Text.unbroken_of_neutral (List.forall_mem_nil _)
  | some value =>
    have sign : Text.Unbroken (· == ',') "=".toList := Text.unbroken_of_neutral (by decide)
    exact (sign.append_iff value).mpr (values value rfl)

/-- A type is shown unbroken if it is. -/
theorem unbroken_shownType {native : Text} (unbroken : Text.Unbroken (· == ',') native)
    (position : Position) : Text.Unbroken (· == ',') (shownType native position) := by
  rw [shownType]
  cases pythonType? native position with
  | none => exact (Text.unbroken_trim_iff (Text.unstopped_of_isBlank (by decide)) native).mpr unbroken
  | some type =>
    change Text.Unbroken (· == ',') type.spelling
    exact Text.unbroken_of_neutral (by cases type <;> decide)

/-- A typed argument is written unbroken if its type is balanced, and it is closed only then.
The words it is read from are unbroken. -/
theorem write_typed_iff {type : List Text} (filled : type ≠ []) {word : Text}
    (unbroken : Text.Unbroken (· == ',') (Text.join " " (type ++ [word])))
    (whole : Text.Whole (Text.join " " type ++ word.takeWhile (· == '*')))
    {default? : Option Text} (values : ∀ value ∈ default?, Text.Unbroken (· == ',') value) :
    let native := Text.join " " type ++ word.takeWhile (· == '*')
    let written := (Argument.typed (word.dropWhile (· == '*')) native default?).write
    (Text.openBrackets native = 0 → Text.Unbroken (· == ',') written) ∧
      (Text.Closed written → Text.openBrackets native = 0) := by
  intro native written
  obtain ⟨typeWhole, nameWhole, same, total⟩ :=
    parts_of_typed filled unbroken.closed.balanced whole
  rw [join_typed filled] at unbroken
  obtain ⟨nonnegative, balanced⟩ := unbroken.beginning typeWhole
  have starsNeutral : ∀ char ∈ word.takeWhile (· == '*'),
      Text.isNeutral char ∧ (char == ',') = false := by
    intro char member
    obtain rfl : char = '*' := by simpa using List.mem_takeWhile_imp member
    decide
  have parts : written = word.dropWhile (· == '*') ++
      (":" ++ (shownType native .argument ++ writeDefault default?)) := by
    simp [written, Argument.write]
  refine ⟨fun none => ?_, fun closed => ?_⟩
  · have typeUnbroken := balanced (same.symm.trans none)
    have space : Text.Unbroken (· == ',') " ".toList := Text.unbroken_of_neutral (by decide)
    have nameUnbroken : Text.Unbroken (· == ',') (word.dropWhile (· == '*')) := by
      rwa [typeUnbroken.append_iff, List.append_assoc, space.append_iff,
        (Text.unbroken_of_neutral starsNeutral).append_iff] at unbroken
    have nativeUnbroken : Text.Unbroken (· == ',') native :=
      (Text.unbroken_append_neutral starsNeutral _).mpr typeUnbroken
    have colon : Text.Unbroken (· == ',') ":".toList := Text.unbroken_of_neutral (by decide)
    rw [parts, nameUnbroken.append_iff, colon.append_iff,
      (unbroken_shownType nativeUnbroken .argument).append_iff]
    exact unbroken_writeDefault values
  · rw [parts] at closed
    have nameNonnegative := (closed.unbroken.beginning nameWhole).1
    have native_eq : Text.openBrackets native = Text.openBrackets (Text.join " " type) := same
    omega

/-- The three forms of an argument, with what is known of the parts of each if the argument
is unbroken. -/
inductive ReadAs (text : Text) : Argument → Prop
  | verbatim (unbroken : Text.Unbroken (· == ',') (Text.trim text)) :
    ReadAs text (.verbatim (Text.trim text))
  | bare {word : Text} {default? : Option Text} (unbroken : Text.Unbroken (· == ',') word)
      (isWord : word ≠ [] ∧ ∀ char ∈ word, Text.isBlank char = false)
      (values : ∀ value ∈ default?, Text.Unbroken (· == ',') value ∧ (value = [] ∨ Text.Tight value)) :
    ReadAs text (.bare word default?)
  | typed {type : List Text} {word : Text} {default? : Option Text} (filled : type ≠ [])
      (unbroken : Text.Unbroken (· == ',') (Text.join " " (type ++ [word])))
      (isWord : word ≠ [] ∧ ∀ char ∈ word, Text.isBlank char = false)
      (values : ∀ value ∈ default?, Text.Unbroken (· == ',') value ∧ (value = [] ∨ Text.Tight value)) :
    ReadAs text (.typed (word.dropWhile (· == '*'))
      (Text.join " " type ++ word.takeWhile (· == '*')) default?)

/-- An unbroken argument is read as one of the three forms. -/
theorem readAs_read {text : Text} (unbroken : Text.Unbroken (· == ',') text) :
    ReadAs text (Argument.read text) := by
  have letters := Text.unstopped_of_isBlank (by decide : Text.isBlank ',' = false)
  have trimmed := (Text.unbroken_trim_iff letters text).mpr unbroken
  obtain ⟨declaration, default?, declared, tight, values, read⟩ := read_eq letters unbroken
  by_cases annotated : carriesType declaration
  · rw [read, if_pos annotated]
    exact .verbatim trimmed
  · rw [read, if_neg annotated]
    have joined := unbroken_declaration letters (by decide) declared tight
    have isWord : ∀ word ∈ dropNoneClause (Text.words declaration),
        word ≠ [] ∧ ∀ char ∈ word, Text.isBlank char = false := fun word member =>
      Text.letters_of_mem_words (dropNoneClause_subset _ member)
    generalize dropNoneClause (Text.words declaration) = words at joined isWord
    rcases List.eq_nil_or_concat' words with rfl | ⟨type, word, rfl⟩
    · exact .verbatim trimmed
    · have last := isWord word (List.mem_append_right _ List.mem_cons_self)
      by_cases alone : type = []
      · subst alone
        rw [List.nil_append, Text.join, List.intercalate_singleton] at joined
        exact .bare joined last values
      · rw [ofWords_append _ alone]
        exact .typed alone joined last values

/-- An argument is written unbroken if its type is balanced, and it is closed only then. -/
theorem ReadAs.write_iff {text : Text} {argument : Argument} (form : ReadAs text argument)
    (whole : Text.Whole argument.native) :
    (Text.openBrackets argument.native = 0 → Text.Unbroken (· == ',') argument.write) ∧
      (Text.Closed argument.write → Text.openBrackets argument.native = 0) := by
  cases form with
  | verbatim unbroken => exact ⟨fun _ => unbroken, fun _ => rfl⟩
  | bare unbroken isWord values =>
    refine ⟨fun _ => (unbroken.append_iff _).mpr ?_, fun _ => rfl⟩
    exact unbroken_writeDefault fun value same => (values value same).1
  | typed filled unbroken isWord values =>
    exact write_typed_iff filled unbroken whole fun value same => (values value same).1

/-- A written argument has no blanks at its ends. -/
theorem ReadAs.tight_write {text : Text} (filled : Text.trim text ≠ []) {argument : Argument}
    (form : ReadAs text argument) : Text.Tight argument.write := by
  cases form with
  | verbatim unbroken => exact (Text.tight_trim text).resolve_left filled
  | bare unbroken isWord values =>
    have word := (Text.tight_of_letters isWord.2).resolve_left isWord.1
    exact word.append (trimmed_writeDefault fun value same => (values value same).2)
  | @typed type word _ _ unbroken isWord values =>
    have name : ∀ char ∈ word.dropWhile (· == '*'), Text.isBlank char = false := fun char member =>
      isWord.2 char ((List.dropWhile_sublist _).subset member)
    have colon : Text.Tight ":".toList := ⟨⟨':', rfl, by decide⟩, ⟨':', rfl, by decide⟩⟩
    have shown := trimmed_shownType (Text.join " " type ++ word.takeWhile (· == '*')) .argument
    have default := trimmed_writeDefault fun value same => (values value same).2
    have written := Text.Tight.prepend (Text.tight_of_letters name)
      ((colon.append shown).append default)
    simpa [Argument.write] using written

/-- A signature is written as the keyword, the name, the arguments in parentheses, and more. -/
theorem write_parts (signature : Signature) :
    ∃ tail, signature.write = (plainKeyword ++ " " ++ signature.name) ++
      '(' :: (Text.join ", " (signature.arguments.map Argument.write) ++ ')' :: tail) := by
  simp only [Signature.write, List.append_assoc]
  exact ⟨_, rfl⟩

/-- What a header that can be read is written as: the keyword, the name, the arguments in
parentheses, and more. -/
theorem functionInStub_parts {text : Text} {group : Text.Group}
    (found : Text.firstGroup? text = some group) (whole : Text.Whole group.head)
    (named : ∃ word ∈ (declarationWords group.head).getLast?,
      Text.Whole (word.dropWhile (· == '*'))) :
    Text.Closed group.inside ∧ ∃ head tail, '(' ∉ head ∧ Text.Whole head ∧
      functionInStub true text = head ++ '(' :: (Text.join ", "
        ((entries group.inside).map fun argument => argumentInStub (Text.squeeze argument)) ++
          ')' :: tail) := by
  obtain ⟨parts, closed⟩ := Text.parts_of_firstGroup found whole
  have outside : '(' ∉ group.head := by
    rw [Text.head_of_firstGroup found]
    intro member
    simpa using List.mem_takeWhile_imp member
  obtain ⟨word, last, nameWhole⟩ := named
  obtain ⟨types, declared⟩ := List.getLast?_eq_some_iff.mp last
  have read := read_squeeze outside whole closed declared group.tail
  rw [← parts] at read
  obtain ⟨tail, written⟩ := write_parts
    ⟨word.dropWhile (· == '*'), (explicitReturn? (withoutColons (Text.squeezeInner group.tail))).or
      (filled? (Text.join " " types ++ word.takeWhile (· == '*'))),
      ((entries group.inside).map Text.squeeze).map Argument.read⟩
  refine ⟨closed, plainKeyword ++ " " ++ word.dropWhile (· == '*'), tail, ?_, ?_, ?_⟩
  · have isWord : word ∈ Text.words group.head := by
      have listed : word ∈ declarationWords group.head := List.mem_of_getLast? last
      exact List.mem_of_mem_filter ((List.dropWhile_sublist _).subset listed)
    intro member
    rcases List.mem_append.mp member with front | name
    · exact absurd front (by decide)
    · have inWord := (List.dropWhile_sublist _).subset name
      exact outside ((Text.mem_iff_mem_words (by decide)).mpr ⟨word, isWord, inWord⟩)
  · have keyword : Text.Whole (plainKeyword ++ " ") := by decide
    exact (keyword.append_iff _).mpr nameWhole
  · rw [write_squeezed] at written
    simp only [functionInStub, if_true, read]
    exact written

/-- The parameters of a written header are the translated arguments in order exactly if each of
them is closed and without a comma outside brackets. An argument whose type holds no torn literal
is translated into such a text exactly if its type leaves no bracket open. This is because the
parameters of the written header are pieces of its list, and such pieces are unbroken. -/
theorem parameters_functionInStub_iff {text : Text} {group : Text.Group}
    (found : Text.firstGroup? text = some group) (whole : Text.Whole group.head)
    (named : ∃ word ∈ (declarationWords group.head).getLast?,
      Text.Whole (word.dropWhile (· == '*'))) :
    (parameters? (functionInStub true text) =
        some ((entries group.inside).map fun argument => argumentInStub (Text.squeeze argument)) ↔
      ∀ argument ∈ entries group.inside,
        Text.Unbroken (· == ',') (argumentInStub (Text.squeeze argument))) ∧
    ∀ argument ∈ entries group.inside,
      Text.Whole (Argument.read (Text.squeeze argument)).native →
        (Text.Unbroken (· == ',') (argumentInStub (Text.squeeze argument)) ↔
          Text.openBrackets (Argument.read (Text.squeeze argument)).native = 0) := by
  obtain ⟨closed, head, tail, outside, headWhole, written⟩ := functionInStub_parts found whole named
  have letters := Text.unstopped_of_isBlank (by decide : Text.isBlank ',' = false)
  have form : ∀ argument ∈ entries group.inside, Text.trim (Text.squeeze argument) ≠ [] ∧
      ReadAs (Text.squeeze argument) (Argument.read (Text.squeeze argument)) := by
    intro argument member
    obtain ⟨listed, filled⟩ := List.mem_filter.mp member
    obtain ⟨piece, cut, rfl⟩ := List.mem_map.mp listed
    have unbroken := Text.unbroken_of_mem_splitTop (by decide) closed piece cut
    rw [Text.squeeze_trim]
    refine ⟨?_, readAs_read (unbroken.squeeze letters)⟩
    rw [Text.trim_squeeze, ne_eq, Text.squeeze_eq_nil_iff]
    simpa using filled
  refine ⟨⟨fun same argument member => ?_, fun unbroken => ?_⟩, fun argument member whole => ?_⟩
  · rw [written] at same
    obtain ⟨writtenGroup, regrouped, listed⟩ := Option.map_eq_some_iff.mp same
    have writtenHead : writtenGroup.head = head :=
      (Text.head_of_firstGroup regrouped).trans (Text.takeWhile_append_cons outside _)
    have insideClosed := (Text.parts_of_firstGroup regrouped (writtenHead ▸ headWhole)).2
    have writtenMember : argumentInStub (Text.squeeze argument) ∈ entries writtenGroup.inside := by
      rw [listed]
      exact List.mem_map_of_mem member
    obtain ⟨piece, cut, trimmed⟩ := List.mem_map.mp (List.mem_filter.mp writtenMember).1
    rw [← trimmed, Text.unbroken_trim_iff letters]
    exact Text.unbroken_of_mem_splitTop (by decide) insideClosed piece cut
  · have pieces : ∀ piece ∈ (entries group.inside).map fun argument =>
        argumentInStub (Text.squeeze argument),
        Text.Unbroken (· == ',') piece ∧ Text.Tight piece := by
      intro piece member
      obtain ⟨argument, listed, rfl⟩ := List.mem_map.mp member
      obtain ⟨filled, read⟩ := form argument listed
      exact ⟨unbroken argument listed, read.tight_write filled⟩
    have separator : Text.Closed ", ".toList := ⟨by decide, rfl⟩
    have joined := Text.closed_join separator fun piece member => (pieces piece member).1.closed
    have listed := entries_join (List.forall_mem_nil _) pieces
    rw [written, parameters?, Text.firstGroup_of_parts outside headWhole joined, Option.map_some]
    exact congrArg some listed
  · obtain ⟨unbroken, balanced⟩ := (form argument member).2.write_iff whole
    exact ⟨fun translated => balanced translated.closed, unbroken⟩

/-- Commas in a slice and in a default keep the two arguments apart. -/
theorem parameters_of_slice_and_default :
    parameters? (functionInStub true "cdef int f(double[:, ::1]  x = (1, 2), int b):") =
      some ["x:double[:, ::1]=(1, 2)".toList, "b:int".toList] := by
  have found : Text.firstGroup? "cdef int f(double[:, ::1]  x = (1, 2), int b):".toList =
      some ⟨"cdef int f", "double[:, ::1]  x = (1, 2), int b", ":"⟩ := by decide +kernel
  obtain ⟨condition, translated⟩ := parameters_functionInStub_iff found (by decide)
    ⟨"f", by decide, by decide⟩
  have types : ∀ argument ∈ entries "double[:, ::1]  x = (1, 2), int b",
      Text.Whole (Argument.read (Text.squeeze argument)).native ∧
        Text.openBrackets (Argument.read (Text.squeeze argument)).native = 0 := by decide +kernel
  have unbroken := condition.mpr fun argument member =>
    (translated argument member (types argument member).1).mpr (types argument member).2
  exact unbroken.trans (by decide +kernel)

/-- A pointer to a function is torn: what stands before its last blank is taken for the type
and holds two open brackets, so of two arguments one parameter is left. -/
theorem function_pointer_is_torn :
    Text.Matched "cdef f(int (*cb)(int, int), int b):".toList ∧
      parameters? "cdef f(int (*cb)(int, int), int b):" =
        some ["int (*cb)(int, int)".toList, "int b".toList] ∧
      functionInStub true "cdef f(int (*cb)(int, int), int b):" = "def f(int):int (*cb)(int,, b:int):" ∧
      parameters? (functionInStub true "cdef f(int (*cb)(int, int), int b):") = some ["int".toList] := by
  refine ⟨?_, by decide +kernel, by decide +kernel, by decide +kernel⟩
  have plain {text : Text} (neutral : ∀ char ∈ text, Text.isNeutral char) : Text.Matched text :=
    Text.matched_of_neutral neutral
  have parts : "cdef f(int (*cb)(int, int), int b):".toList = "cdef f".toList ++
      '(' :: (("int ".toList ++ '(' :: ("*cb".toList ++ ')' :: '(' :: ("int, int".toList ++
        ')' :: ", int b".toList))) ++ ')' :: ":".toList) := by decide
  rw [parts]
  exact (plain (by decide)).append (.group rfl ((plain (by decide)).append (.group rfl (plain (by decide))
    (.group rfl (plain (by decide)) (plain (by decide))))) (plain (by decide)))

end PyxProject.Stub
