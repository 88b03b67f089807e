import PyxProject.Proofs.Source.Headers
import PyxProject.Proofs.Source.Roles
import PyxProject.Proofs.Stub.Arguments
import PyxProject.Proofs.Text.Lines
import PyxProject.Proofs.Text.Matching
import PyxProject.Stub.Declaration

/-!
# Headers of classes

A class header is laid out here from its parts: perhaps a native keyword with qualifiers,
the name, perhaps bases in parentheses, and perhaps an extension clause in square brackets.
However it is laid out, it is read as the header of a class, and the stub shows the name
with its bases and nothing else (`classInStub_of_form`).

A stub finds the clause by the last square bracket of a squeezed header, while the bases
may hold square brackets too, and even end in them. The parenthesis that closes the bases
keeps the two apart: without a clause the header does not end in a square bracket.
-/

namespace PyxProject.Stub

open Source

/-- The parts of a class header. -/
structure ClassForm where
  /-- The native keyword and the qualifiers behind it, if the class is a native one. -/
  native : List Text
  name : Text
  /-- What stands between the parentheses, if there are any. -/
  bases? : Option Text
  /-- What stands between the square brackets at the end, if there are any. -/
  clause? : Option Text
  nativeWords : native = [] ∨ ∃ keyword qualifiers, native = keyword :: qualifiers ∧
    keyword ∈ nativeKeywords ∧ ∀ word ∈ qualifiers, word ∈ Stub.qualifiers
  identifier : IsIdentifier name
  basesText : ∀ bases ∈ bases?, Text.Matched bases
  clauseText : ∀ clause ∈ clause?, Text.Matched clause ∧ '[' ∉ clause

/-- What stands in brackets behind blanks, or nothing. -/
def bracketed (opening closing : Char) (gap : Text) : Option Text → Text
  | none => []
  | some inside => gap ++ opening :: (inside ++ [closing])

namespace ClassForm

variable (form : ClassForm)

/-- The words before the name. -/
def words : List Text := form.native ++ ["class".toList]

/-- The name with its bases, and what stands between the two. -/
def named (gap : Text) : Text := form.name ++ bracketed '(' ')' gap form.bases?

/-- The extension clause, and what stands before it. -/
def clause (gap : Text) : Text := bracketed '[' ']' gap form.clause?

/-- A text lays out the parts of a header, with any blanks between them and between the words
before the name, and the colon directly behind the last of them. The gap is what stands
between the name and the bases. -/
def LaidOut (gap text : Text) : Prop :=
  ∃ front other, Text.Spaced form.words front ∧ (∀ last ∈ front.getLast?, Text.isBlank last) ∧
    (∀ char ∈ gap, Text.isBlank char) ∧ (∀ char ∈ other, Text.isBlank char) ∧
    text = front ++ (form.named gap ++ (form.clause other ++ ":"))

end ClassForm

/-- A class header without the extension clause that may end it. -/
def dropClause (header : Text) : Text :=
  let signature := Text.trimEnd (dropColons header)
  if signature.getLast? = some ']' then
    match beforeLastBracket? signature with
    | some kept => Text.trimEnd kept ++ ":"
    | none => header
  else header

/-- The pieces of a squeezed text without literals are its words. -/
theorem split_squeeze {text : Text} (undelimited : ∀ char ∈ text, Text.isDelimiter char = false)
    (filled : Text.words text ≠ []) : (Text.squeeze text).splitOn ' ' = Text.words text := by
  rw [Text.squeeze_eq_join_words undelimited]
  refine List.splitOn_intercalate ' ' (fun word member space => ?_) filled
  have letter := (Text.letters_of_mem_words member).2 ' ' space
  exact absurd letter (by decide)

/-- What a stub shows of a header without literals are its words from `class` on, without the
clause. -/
theorem classInStub_of_words {text rest : Text} {before : List Text}
    (undelimited : ∀ char ∈ text, Text.isDelimiter char = false)
    (words : Text.words text = before ++ "class".toList :: Text.words rest)
    (apart : ∀ word ∈ before, word ≠ "class".toList)
    (plain : ∀ char ∈ rest, Text.isDelimiter char = false) (filled : Text.words rest ≠ []) :
    classInStub text = dropClause ("class " ++ Text.squeeze rest) := by
  have kept : ((Text.squeeze text).splitOn ' ').dropWhile (fun word => word != "class".toList) =
      "class".toList :: Text.words rest := by
    rw [split_squeeze undelimited (by simp [words]), words,
      List.dropWhile_append_of_pos (by simpa using apart)]
    exact List.dropWhile_cons_of_neg (by simp)
  have joined : Text.join " " ("class".toList :: Text.words rest) = "class " ++ Text.squeeze rest := by
    rw [Text.squeeze_eq_join_words plain, Text.join, Text.join,
      List.intercalate_cons_of_ne_nil filled]
    rfl
  simp only [classInStub, kept, joined]
  rfl

/-- What stands behind the last opening square bracket is cut off with it. -/
theorem beforeLastBracket_append_cons {clause : Text} (absent : '[' ∉ clause) (front : Text) :
    beforeLastBracket? (front ++ '[' :: clause) = some front := by
  have passed : ∀ char ∈ clause.reverse, (char != '[') = true := by
    intro char member
    rw [List.mem_reverse] at member
    simpa using ne_of_mem_of_not_mem member absent
  have cut : (front ++ '[' :: clause).reverse.dropWhile (· != '[') = '[' :: front.reverse := by
    rw [List.reverse_append, List.reverse_cons, List.append_assoc,
      List.dropWhile_append_of_pos passed]
    rfl
  rw [beforeLastBracket?, cut]
  simp

/-- A header that ends otherwise than in a square bracket is kept whole. -/
theorem dropClause_of_bare {last : Char} (letter : Text.isBlank last = false)
    (others : last ≠ ':' ∧ last ≠ ']') (front : Text) :
    dropClause (front ++ last :: ":") = front ++ last :: ":" := by
  have colons : dropColons (front ++ last :: ":") = front ++ last :: [] :=
    Text.rdropWhile_append_cons (by simpa using others.1) front ":"
  have trimmed : Text.trimEnd (front ++ last :: []) = front ++ last :: [] :=
    Text.rdropWhile_append_cons letter front []
  have ends : (front ++ last :: []).getLast? ≠ some ']' := by simpa using others.2
  rw [dropClause, colons, trimmed, if_neg ends]

/-- A clause at the end of a header is cut off, with the blanks before it. -/
theorem dropClause_of_clause {last : Char} (letter : Text.isBlank last = false) {blanks clause : Text}
    (blank : ∀ char ∈ blanks, Text.isBlank char) (absent : '[' ∉ clause) (front : Text) :
    dropClause (front ++ last :: (blanks ++ '[' :: (clause ++ ']' :: ":"))) = front ++ last :: ":" := by
  have parts (finish : Text) : front ++ last :: (blanks ++ '[' :: (clause ++ ']' :: finish)) =
      ((front ++ last :: blanks) ++ '[' :: clause) ++ ']' :: finish := by simp
  have colons : dropColons (front ++ last :: (blanks ++ '[' :: (clause ++ ']' :: ":"))) =
      ((front ++ last :: blanks) ++ '[' :: clause) ++ [']'] := by
    rw [parts, dropColons, Text.dropEndWhile_eq_rdropWhile, Text.rdropWhile_append_cons]
    · rfl
    · decide
  have ends : (((front ++ last :: blanks) ++ '[' :: clause) ++ [']']).getLast? = some ']' :=
    List.getLast?_concat
  have trimmed : Text.trimEnd (((front ++ last :: blanks) ++ '[' :: clause) ++ [']']) =
      ((front ++ last :: blanks) ++ '[' :: clause) ++ [']'] :=
    Text.rdropWhile_of_getLast ends (show Text.isBlank ']' = false by decide)
  have kept : beforeLastBracket? (((front ++ last :: blanks) ++ '[' :: clause) ++ [']']) =
      some (front ++ last :: blanks) := by
    have noBracket : '[' ∉ clause ++ [']'] := by simpa using absent
    rw [List.append_assoc]
    exact beforeLastBracket_append_cons noBracket _
  have shortened : Text.trimEnd (front ++ last :: blanks) = front ++ [last] := by
    rw [← List.singleton_append, ← List.append_assoc]
    exact (Text.rdropWhile_append_of_all blank _).trans (Text.rdropWhile_append_cons letter front [])
  simp only [dropClause, colons, trimmed, ends, kept, shortened, if_true]
  rw [List.append_assoc, List.singleton_append]

/-- Matched brackets hide what stands between them from a header search. -/
theorem unbroken_bracketed {opening closing : Char} (pair : Text.partner? opening = some closing)
    {gap : Text} (blank : ∀ char ∈ gap, Text.isBlank char) {inside? : Option Text}
    (matched : ∀ inside ∈ inside?, Text.Matched inside) :
    Text.Unbroken endsSearch (bracketed opening closing gap inside?) := by
  cases inside? with
  | none => exact Text.unbroken_of_neutral (List.forall_mem_nil _)
  | some inside =>
    have blanks : Text.Unbroken endsSearch gap :=
      Text.unbroken_of_neutral (Text.neutral_of_blank endsSearch_of_isBlank blank)
    have inner : Text.Closed inside := (matched inside rfl).closed
    rw [bracketed, blanks.append_iff]
    rcases Text.partner_cases pair with ⟨rfl, rfl⟩ | ⟨rfl, rfl⟩ | ⟨rfl, rfl⟩ <;>
      exact inner.enclose (by decide) (by decide) (by decide) (by decide)

/-- Matched brackets hold no literal. -/
theorem undelimited_bracketed {opening closing : Char} (pair : Text.partner? opening = some closing)
    {gap : Text} (blank : ∀ char ∈ gap, Text.isBlank char) {inside? : Option Text}
    (matched : ∀ inside ∈ inside?, Text.Matched inside) :
    ∀ char ∈ bracketed opening closing gap inside?, Text.isDelimiter char = false := by
  cases inside? with
  | none => exact List.forall_mem_nil _
  | some inside =>
    have group : Text.Matched (opening :: (inside ++ closing :: [])) :=
      .group pair (matched inside rfl) .nil
    intro char member
    rcases List.mem_append.mp member with inGap | inGroup
    · exact Text.isDelimiter_of_isBlank (blank char inGap)
    · exact group.undelimited char inGroup

namespace ClassForm

variable (form : ClassForm)

/-- The words in front are keywords, qualifiers and the word `class`. -/
theorem mem_words {word : Text} (member : word ∈ form.words) :
    word ∈ nativeKeywords ++ Stub.qualifiers ++ ["class".toList] := by
  rcases List.mem_append.mp member with native | isClass
  · rcases form.nativeWords with none | ⟨keyword, qualifiers, parts, isKeyword, areQualifiers⟩
    · rw [none] at native
      cases native
    · rw [parts] at native
      rcases List.mem_cons.mp native with rfl | qualifier
      · exact List.mem_append_left _ (List.mem_append_left _ isKeyword)
      · exact List.mem_append_left _ (List.mem_append_right _ (areQualifiers word qualifier))
  · exact List.mem_append_right _ isClass

section Layout

variable {front gap other : Text} (spaced : Text.Spaced form.words front)
  (blank : ∀ char ∈ gap, Text.isBlank char) (otherBlank : ∀ char ∈ other, Text.isBlank char)

include spaced in
/-- What stands before the name is neutral and holds no sign of a header search. -/
theorem front_plain : ∀ char ∈ front, Text.isNeutral char ∧ endsSearch char = false := by
  have plain : ∀ word ∈ nativeKeywords ++ Stub.qualifiers ++ ["class".toList], ∀ char ∈ word,
      Text.isNeutral char ∧ endsSearch char = false := by decide
  exact unsearched_of_spaced (fun word member => plain word (form.mem_words member)) spaced

/-- A name is neutral and holds no sign of a header search. -/
theorem name_plain : ∀ char ∈ form.name, Text.isNeutral char ∧ endsSearch char = false := by
  intro char member
  have inName := form.identifier.chars char member
  have other := ne_of_isNameChar inName
  exact ⟨isNeutral_of_isNameChar inName,
    by simp [endsSearch, other '=' (by decide), other ':' (by decide)]⟩

include spaced blank otherBlank in
/-- Before the colon at its end, no sign in a header ends the search for one. -/
theorem unbroken_parts :
    Text.Unbroken endsSearch (front ++ (form.named gap ++ form.clause other)) := by
  have start := Text.unbroken_of_neutral (form.front_plain spaced)
  have name := Text.unbroken_of_neutral form.name_plain
  have bases : Text.Unbroken endsSearch (bracketed '(' ')' gap form.bases?) :=
    unbroken_bracketed rfl blank form.basesText
  have clause : Text.Unbroken endsSearch (form.clause other) :=
    unbroken_bracketed rfl otherBlank fun clause given => (form.clauseText clause given).1
  rw [named, List.append_assoc, start.append_iff, name.append_iff, bases.append_iff]
  exact clause

include blank in
/-- The name with its bases holds no literal. -/
theorem undelimited_named : ∀ char ∈ form.named gap, Text.isDelimiter char = false := by
  have bases := undelimited_bracketed (show Text.partner? '(' = some ')' from rfl) blank form.basesText
  intro char member
  rcases List.mem_append.mp member with inName | inBases
  · exact (Text.plain_of_isNeutral (form.name_plain char inName).1).2
  · exact bases char inBases

include spaced blank otherBlank in
/-- A header holds no literal. -/
theorem undelimited_parts : ∀ char ∈ front ++ (form.named gap ++ (form.clause other ++ ":")),
    Text.isDelimiter char = false := by
  have clause := undelimited_bracketed (show Text.partner? '[' = some ']' from rfl) otherBlank
    fun clause given => (form.clauseText clause given).1
  simp only [List.mem_append]
  rintro char (before | inName | inClause | colon)
  · exact (Text.plain_of_isNeutral (form.front_plain spaced char before).1).2
  · exact form.undelimited_named blank char inName
  · exact clause char inClause
  · obtain rfl := List.mem_singleton.mp colon
    decide

/-- The name with its bases ends in a letter or a parenthesis. -/
theorem getLast_named (gap : Text) : ∃ start last, form.named gap = start ++ [last] ∧
    (Text.isBlank last = false ∧ Text.isDelimiter last = false) ∧ last ≠ ':' ∧ last ≠ ']' := by
  rw [named]
  cases form.bases? with
  | none =>
    rcases List.eq_nil_or_concat' form.name with empty | ⟨start, last, parts⟩
    · exact absurd empty form.identifier.filled
    · have inName : isNameChar last := form.identifier.chars last (by simp [parts])
      exact ⟨start, last, by simp [bracketed, parts],
        ⟨letter_of_isNameChar inName, (Text.plain_of_isNeutral (isNeutral_of_isNameChar inName)).2⟩,
        ne_of_isNameChar inName ':' (by decide), ne_of_isNameChar inName ']' (by decide)⟩
  | some bases => exact ⟨form.name ++ (gap ++ '(' :: bases), ')', by simp [bracketed], by decide⟩

include blank in
/-- The name with its bases is squeezed on its own, and still ends in a letter or a
parenthesis. -/
theorem squeeze_named : ∃ start last, Text.squeeze (form.named gap) = start ++ [last] ∧
    Text.isBlank last = false ∧ last ≠ ':' ∧ last ≠ ']' ∧
    ∀ rest, Text.squeeze (form.named gap ++ rest) =
      Text.squeeze (form.named gap) ++ Text.trimEnd (Text.squeezeInner rest) := by
  obtain ⟨start, last, parts, ⟨letter, plain⟩, others⟩ := form.getLast_named gap
  have whole : Text.Whole start := by
    apply Text.whole_of_undelimited
    intro char member
    exact form.undelimited_named blank char (by simp [parts, member])
  have squeezed (rest : Text) := Text.squeeze_append_cons whole letter plain rest
  have alone : Text.squeeze (form.named gap) = Text.trimStart (Text.squeezeInner start) ++ [last] := by
    rw [parts, squeezed]
    rfl
  refine ⟨_, last, alone, letter, others.1, others.2, fun rest => ?_⟩
  rw [alone, parts, List.append_assoc, List.singleton_append, squeezed, List.append_assoc,
    List.singleton_append]

end Layout

/-- A text that lays out a header has the words before the name and those of the rest. -/
theorem words_of_front {front : Text} (spaced : Text.Spaced form.words front)
    (ends : ∀ last ∈ front.getLast?, Text.isBlank last) (rest : Text) :
    Text.words (front ++ rest) = form.words ++ Text.words rest := by
  rw [← Text.words_of_spaced spaced]
  rcases List.eq_nil_or_concat' front with rfl | ⟨start, blank, rfl⟩
  · rfl
  · have isBlank : Text.isBlank blank := ends blank (by simp)
    rw [List.append_assoc, List.singleton_append,
      Text.words_append_blank isBlank, Text.words_append_blank isBlank, Text.words_nil,
      List.append_nil]

/-- None of the words before `class` is that word. -/
theorem native_apart : ∀ word ∈ form.native, word ≠ "class".toList := by
  have apart : ∀ word ∈ nativeKeywords ++ Stub.qualifiers, word ≠ "class".toList := by decide
  rcases form.nativeWords with none | ⟨keyword, qualifiers, native, isKeyword, areQualifiers⟩
  · simp [none]
  · rw [native, List.forall_mem_cons]
    exact ⟨apart keyword (List.mem_append_left _ isKeyword), fun word member =>
      apart word (List.mem_append_right _ (areQualifiers word member))⟩

/-- The first word of a header is `class` or a native keyword, and `class` is a word of it. -/
theorem first_word : ∃ first rest, form.words = first :: rest ∧
    (first = "class".toList ∨ first ∈ nativeKeywords) ∧ "class".toList ∈ form.words := by
  have isClass : "class".toList ∈ form.words := List.mem_append_right _ (List.mem_singleton_self _)
  rcases form.nativeWords with none | ⟨keyword, qualifiers, parts, isKeyword, _⟩
  · exact ⟨"class".toList, [], by rw [words, none]; rfl, .inl rfl, isClass⟩
  · exact ⟨keyword, _, by rw [words, parts]; rfl, .inr isKeyword, isClass⟩

/-- A text that lays out a class header has the role of one. -/
theorem role_of_laidOut {gap text : Text} (laidOut : form.LaidOut gap text) (names : CythonNames) :
    LineRole.of names text = .classHeader := by
  obtain ⟨front, other, spaced, ends, blank, otherBlank, rfl⟩ := laidOut
  obtain ⟨first, rest, starts, keyword, isClass⟩ := form.first_word
  have parts : front ++ (form.named gap ++ (form.clause other ++ ":")) =
      (front ++ (form.named gap ++ form.clause other)) ++ [':'] := by simp
  have words := form.words_of_front spaced ends (form.named gap ++ (form.clause other ++ ":"))
  rw [starts] at words isClass
  rw [parts] at words ⊢
  have whole := headerOf_of_unbroken (form.unbroken_parts spaced blank otherBlank)
  have header := ofHeader_of_keyword List.getLast?_concat words keyword names
  rw [LineRole.of, whole, if_neg (lt_irrefl _), header]
  exact if_pos (List.mem_append_left _ isClass)

/-- What stands behind the name and the bases, squeezed: the colon, and before it the clause
with blanks in front of it. -/
theorem squeezed_clause {other : Text} (blank : ∀ char ∈ other, Text.isBlank char) :
    Text.trimEnd (Text.squeezeInner (form.clause other ++ ":")) = ":" ∨
      ∃ blanks clause, (∀ char ∈ blanks, Text.isBlank char) ∧ '[' ∉ clause ∧
        Text.trimEnd (Text.squeezeInner (form.clause other ++ ":")) =
          blanks ++ '[' :: (clause ++ ']' :: ":") := by
  rw [ClassForm.clause]
  cases given : form.clause? with
  | none => exact .inl rfl
  | some clause =>
    obtain ⟨matched, absent⟩ := form.clauseText clause given
    refine .inr ⟨Text.squeezeInner other, Text.squeezeInner clause, ?_, ?_, ?_⟩
    · intro char member
      by_contra letter
      rw [Text.mem_squeezeInner_iff (Bool.eq_false_iff.mpr letter)] at member
      exact letter (blank char member)
    · rwa [Text.mem_squeezeInner_iff (by decide)]
    · have before : Text.Whole other :=
        Text.whole_of_undelimited fun char member => Text.isDelimiter_of_isBlank (blank char member)
      have parts : bracketed '[' ']' other (some clause) ++ ":" =
          other ++ '[' :: (clause ++ ']' :: ":") := by simp [bracketed]
      rw [parts, Text.squeezeInner_append_cons before (by decide) (by decide),
        Text.squeezeInner_append_cons matched.closed.literals (by decide) (by decide)]
      have finish : Text.squeezeInner other ++ '[' :: (Text.squeezeInner clause ++ ']' :: ":") =
          (Text.squeezeInner other ++ '[' :: (Text.squeezeInner clause ++ [']'])) ++ [':'] := by simp
      have ends := List.getLast?_concat (a := ':')
        (l := Text.squeezeInner other ++ '[' :: (Text.squeezeInner clause ++ [']']))
      exact Text.rdropWhile_of_getLast (finish ▸ ends) (show Text.isBlank ':' = false by decide)

/-- However a class header is laid out, it is read as one, and a stub shows the name with its
bases, with single spaces for runs of blanks, and neither keyword nor qualifiers nor clause. -/
theorem classInStub_of_form {gap text : Text} (laidOut : form.LaidOut gap text) :
    (∀ names, LineRole.of names text = .classHeader) ∧
      classInStub text = "class " ++ Text.squeeze (form.named gap) ++ ":" := by
  refine ⟨form.role_of_laidOut laidOut, ?_⟩
  obtain ⟨front, other, spaced, ends, blank, otherBlank, rfl⟩ := laidOut
  have undelimited := form.undelimited_parts spaced blank otherBlank
  have words := form.words_of_front spaced ends (form.named gap ++ (form.clause other ++ ":"))
  obtain ⟨start, last, named, letter, noColon, noBracket, squeezed⟩ := form.squeeze_named blank
  have filled : Text.words (form.named gap ++ (form.clause other ++ ":")) ≠ [] := by
    have colon : ':' ∈ form.named gap ++ (form.clause other ++ ":") := by simp
    obtain ⟨word, found, _⟩ := (Text.mem_iff_mem_words (by decide)).mp colon
    exact List.ne_nil_of_mem found
  rw [ClassForm.words, List.append_assoc] at words
  rw [classInStub_of_words undelimited words form.native_apart
    (fun char member => undelimited char (List.mem_append_right _ member)) filled, squeezed, named]
  have parts (finish : Text) : "class ".toList ++ (start ++ [last] ++ finish) =
      ("class ".toList ++ start) ++ last :: finish := by simp
  have shown : "class ".toList ++ (start ++ [last]) ++ ":" = ("class ".toList ++ start) ++ last :: ":" := by
    simp
  rw [parts, shown]
  rcases form.squeezed_clause otherBlank with bare | ⟨blanks, clause, allBlank, absent, found⟩
  · rw [bare, dropClause_of_bare letter ⟨noColon, noBracket⟩]
  · rw [found, dropClause_of_clause letter allBlank absent]

/-- A native class with bases that end in a square bracket, and with a clause. -/
def sample : ClassForm where
  native := ["cdef", "public"]
  name := "Node"
  bases? := some " metaclass = M,  Generic[T]"
  clause? := some "object NodeObj, type  NodeType"
  nativeWords := .inr ⟨"cdef", ["public"], rfl, by decide, by decide⟩
  identifier := ⟨by decide, by decide⟩
  basesText := by
    have before : Text.Matched " metaclass = M,  Generic".toList := Text.matched_of_neutral (by decide)
    have inside : Text.Matched "T".toList := Text.matched_of_neutral (by decide)
    have group : Text.Matched ('[' :: ("T".toList ++ ']' :: [])) := .group rfl inside .nil
    rintro bases ⟨rfl⟩
    exact before.append group
  clauseText := by
    rintro clause ⟨rfl⟩
    exact ⟨Text.matched_of_neutral (by decide), by decide⟩

/-- A header of that class. -/
def sampleText : Text :=
  "cdef  public class Node ( metaclass = M,  Generic[T]) [object NodeObj, type  NodeType]:"

/-- That header is read as the header of a class, and keeps the name and the bases. -/
theorem classInStub_sampleText : sample.LaidOut " " sampleText ∧
    LineRole.of ⟨[]⟩ sampleText = .classHeader ∧
    classInStub sampleText = "class Node ( metaclass = M, Generic[T]):" := by
  have laidOut : sample.LaidOut " " sampleText :=
    ⟨"cdef  public class ", " ", Text.spaced_iff.mpr (by decide), by decide, by decide, by decide,
      by decide⟩
  obtain ⟨role, shown⟩ := sample.classInStub_of_form laidOut
  exact ⟨laidOut, role _, shown.trans (by decide)⟩

end ClassForm

end PyxProject.Stub
