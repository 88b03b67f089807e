import PyxProject.Proofs.Stub.FunctionFiles
import PyxProject.Proofs.Stub.NativeHeaders
import PyxProject.Proofs.Text.Matching

/-!
# Functions that return a known type

A file of one function whose return type the table holds goes through the whole way from
the source to the stub: its header is told from a body on the same line, given a role,
searched for open parentheses, and translated. All of these look for colons, brackets and
words in their own way. They agree on every type of the table but one
(`generate_of_knownHeader`): the search for the end of the header takes the first colon of
`std::string` for that end, and nothing but the beginning of the type is left of the
header.
-/

namespace PyxProject.Stub

open Source

/-- An argument on one line without literals, comment and the word `class`. -/
structure PlainArgument (argument : Text) : Prop where
  matched : Text.Matched argument
  alone : Text.Avoids ',' argument
  filled : Text.trim argument ≠ []
  oneLine : '\n' ∉ argument
  uncommented : '#' ∉ argument
  classless : "class".toList ∉ Text.words argument

/-- The header of a native function whose return type the table holds. -/
structure KnownHeader where
  keyword : Text
  type : Text
  name : Text
  arguments : List Text
  isKeyword : keyword ∈ nativeKeywords
  known : type ∈ spellings
  identifier : IsIdentifier name
  ownName : name ∉ nativeKeywords ∧ name ∉ qualifiers
  plainArguments : ∀ argument ∈ arguments, PlainArgument argument

/-- The type of the table that holds colons. -/
def scopedType : Text := "std::string"

/-- The characters of a known type: none is a bracket, a quote, a sign that ends the search
for a header, or starts something else on the line, but for the colons of one type. -/
theorem chars_of_known {type : Text} (known : type ∈ spellings) :
    ∀ char ∈ type, Text.isNeutral char ∧ char ≠ '\n' ∧ char ≠ '#' ∧
      (endsSearch char → type = scopedType) := by
  revert type
  decide +kernel

/-- The words of a known type are no keywords, and the first of them opens no block. -/
theorem words_of_known {type : Text} (known : type ∈ spellings) :
    Text.join " " (Text.words type) = type ∧
      (∀ word ∈ Text.words type, word ∉ nativeKeywords ∧ word ∉ qualifiers ∧ word ≠ "class".toList) ∧
      ∃ first ∈ (Text.words type).head?, first ≠ "enum".toList ∧ dropColons first ∉ nativeBlockWords := by
  revert type
  decide +kernel

namespace KnownHeader

variable (header : KnownHeader)

/-- What stands before the parentheses. -/
def declared : Text := header.keyword ++ " " ++ header.type ++ " " ++ header.name

/-- The header on one line. -/
def text : Text := header.declared ++ "(" ++ Text.join "," header.arguments ++ "):"

/-- The header as a stub is meant to show it. -/
def shown : Text :=
  "def " ++ header.name ++ "(" ++
    Text.join ", " (header.arguments.map fun argument => argumentInStub (Text.squeeze argument)) ++
    ") -> " ++ shownType header.type .result ++ ":"

/-- The parts of the header. -/
def form : NativeForm where
  keyword := header.keyword
  qualifiers := []
  types := Text.words header.type
  stars := 0
  name := header.name
  arguments := header.arguments
  suffix := []
  explicit? := none
  isKeyword := header.isKeyword
  areQualifiers := List.forall_mem_nil _
  typeWords := by
    intro word member
    refine ⟨((words_of_known header.known).2.1 word member).1, fun char inside => ?_⟩
    have letter := (Text.letters_of_mem_words member).2 char inside
    have inType := (Text.mem_iff_mem_words letter).mpr ⟨word, member, inside⟩
    exact Text.plain_of_isNeutral (chars_of_known header.known char inType).1
  firstType := by
    intro word first
    exact ((words_of_known header.known).2.1 word (List.mem_of_mem_head? first)).2.1
  untyped := fun _ => rfl
  identifier := header.identifier
  ownName := header.ownName
  argumentTexts := fun argument member =>
    have plain := header.plainArguments argument member
    ⟨plain.matched.closed, plain.alone, plain.filled⟩
  suffixText := ⟨(afterArrow_eq_none_iff _).mp rfl, List.forall_mem_nil _⟩
  explicitText := NativeForm.explicitText_none

/-- The keyword is one word. -/
theorem words_keyword : Text.words header.keyword = [header.keyword] := by
  rcases native_cases header.isKeyword with same | same <;> rw [same] <;> decide

/-- The text lays out the parts. -/
theorem laidOut : header.form.LaidOut header.text := by
  have name : Text.words header.name = [header.name] :=
    Text.words_of_letters header.identifier.filled header.identifier.word.1
  have words : Text.words header.declared = header.form.words := by
    have parts : header.declared =
        (header.keyword ++ ' ' :: header.type) ++ ' ' :: header.name := by simp [declared]
    rw [parts, Text.words_append_blank (by decide), Text.words_append_blank (by decide),
      header.words_keyword, name]
    rfl
  refine ⟨header.declared, _, [], Text.spaced_iff.mpr words, .inl rfl, List.forall_mem_nil _, ?_⟩
  simp [text, form, writeArrow]

/-- Where the header is read whole, it is shown as it should be. -/
theorem functionInStub_text : functionInStub true header.text = header.shown := by
  obtain ⟨joined, _, first, starts, _⟩ := words_of_known header.known
  have typed : Text.words header.type ≠ [] := by
    intro empty
    rw [empty] at starts
    cases starts
  have whole : Text.join " " (Text.words header.type) ++ List.replicate 0 '*' = header.type := by
    rw [joined]
    exact List.append_nil _
  have returns : header.form.returns? = some header.type := by
    simp only [NativeForm.returns?, form, if_neg typed, whole]
  have name : header.form.name = header.name := rfl
  have arguments : header.form.arguments = header.arguments := rfl
  simp only [functionInStub, if_true, header.form.read_of_laidOut header.laidOut,
    header.form.write_signature]
  unfold NativeForm.shown shown
  simp only [returns, name, arguments, List.append_assoc]
  rfl

/-- What stands before the parentheses holds nothing that means anything to a search, but
for the colons of one type. -/
theorem declared_plain : ∀ char ∈ header.declared, Text.isNeutral char ∧ char ≠ '\n' ∧ char ≠ '#' ∧
    (endsSearch char → header.type = scopedType) := by
  have fixed : ∀ word ∈ " ".toList :: nativeKeywords, ∀ char ∈ word, Text.isNeutral char ∧
      char ≠ '\n' ∧ char ≠ '#' ∧ endsSearch char = false := by decide
  have passed {word : Text} (member : word ∈ " ".toList :: nativeKeywords) {char : Char}
      (inside : char ∈ word) : Text.isNeutral char ∧ char ≠ '\n' ∧ char ≠ '#' ∧
        (endsSearch char → header.type = scopedType) := by
    obtain ⟨neutral, oneLine, uncommented, noSign⟩ := fixed word member char inside
    exact ⟨neutral, oneLine, uncommented, by simp [noSign]⟩
  intro char member
  simp only [declared, List.mem_append] at member
  rcases member with (((keyword | space) | type) | space) | name
  · exact passed (List.mem_cons_of_mem _ header.isKeyword) keyword
  · exact passed List.mem_cons_self space
  · exact chars_of_known header.known char type
  · exact passed List.mem_cons_self space
  · have inName := header.identifier.chars char name
    have other := ne_of_isNameChar inName
    refine ⟨isNeutral_of_isNameChar inName, other '\n' (by decide), other '#' (by decide), ?_⟩
    simp [endsSearch, other '=' (by decide), other ':' (by decide)]

/-- The list of arguments is matched. -/
theorem matched_arguments : Text.Matched (Text.join "," header.arguments) :=
  Text.matched_join (Text.matched_of_neutral (by decide)) fun argument member =>
    (header.plainArguments argument member).matched

/-- The header leaves no parenthesis open. -/
theorem openParentheses_text : Text.openParentheses header.text = 0 := by
  have parts : header.text = header.declared ++
      ('(' :: (Text.join "," header.arguments ++ ')' :: ":".toList)) := by simp [text]
  have declared := Text.matched_of_neutral fun char member => (header.declared_plain char member).1
  rw [parts]
  exact (declared.append (.group rfl header.matched_arguments
    (Text.matched_of_neutral (by decide)))).openParentheses_eq

/-- The header is one line without a comment. -/
theorem text_oneLine : '\n' ∉ header.text ∧ '#' ∉ header.text := by
  have absent {sign : Char} (front : sign ∉ header.declared) (comma : sign ∉ ",".toList)
      (inside : ∀ argument ∈ header.arguments, sign ∉ argument) (others : sign ∉ "():".toList) :
      sign ∉ header.text := by
    have joined : sign ∉ Text.join "," header.arguments :=
      Text.holds_join (sign ∉ ·) List.not_mem_nil
        (fun first second => by simp [first, second]) comma inside
    simp_all [text]
  constructor
  · exact absent (fun member => (header.declared_plain _ member).2.1 rfl) (by decide)
      (fun argument member => (header.plainArguments argument member).oneLine) (by decide)
  · exact absent (fun member => (header.declared_plain _ member).2.2.1 rfl) (by decide)
      (fun argument member => (header.plainArguments argument member).uncommented) (by decide)

/-- The first and the last character of the header. -/
theorem ends_text : header.text.head? = some 'c' ∧ header.text.getLast? = some ':' := by
  have starts : header.keyword.head? = some 'c' := by
    rcases native_cases header.isKeyword with same | same <;> rw [same] <;> rfl
  constructor
  · simp [text, declared, starts]
  · rw [text, List.getLast?_append]
    rfl

/-- The words of the header: the keyword, the type, the name with a parenthesis behind it,
and words of the arguments. None of them is `class`, even if the function has that name. -/
theorem words_text : ∃ others, Text.words header.text =
    header.keyword :: (Text.words header.type ++ others) ∧ "class".toList ∉ others := by
  have parts : header.text = (header.keyword ++ ' ' :: header.type) ++ ' ' ::
      ((header.name ++ "(") ++ (Text.join "," header.arguments ++ ')' :: ":".toList)) := by
    simp [text, declared]
  have letters : ∀ char ∈ header.name ++ "(", Text.isBlank char = false := by
    intro char member
    rcases List.mem_append.mp member with name | parenthesis
    · exact header.identifier.word.1 char name
    · obtain rfl : char = '(' := by simpa using parenthesis
      decide
  obtain ⟨more, others, words, listed⟩ := Text.words_letters_append (by simp) letters
    (Text.join "," header.arguments ++ ')' :: ":".toList)
  refine ⟨(header.name ++ "(" ++ more) :: others, ?_, ?_⟩
  · rw [parts, Text.words_append_blank (by decide), Text.words_append_blank (by decide),
      header.words_keyword, words]
    simp
  · intro member
    rcases List.mem_cons.mp member with same | later
    · have parenthesis : '(' ∈ "class".toList := by simp [same]
      exact absurd parenthesis (by decide)
    · rcases Text.mem_words_append_cons (by decide) (listed later) with sign | inside | colon
      · exact absurd sign (by decide)
      · rcases Text.mem_words_join (by decide) inside with comma | ⟨argument, given, found⟩
        · exact absurd comma (by decide)
        · exact (header.plainArguments argument given).classless found
      · exact absurd colon (by decide)

/-- The whole header has the role of a native function. -/
theorem ofHeader_text (names : CythonNames) :
    LineRole.ofHeader names header.text = .functionHeader true := by
  obtain ⟨_, apart, first, starts, noEnumeration, noBlock⟩ := words_of_known header.known
  obtain ⟨others, words, classless⟩ := header.words_text
  obtain ⟨rest, types⟩ := List.head?_eq_some_iff.mp starts
  have noImport : formsImport (Text.words header.text) = false := by
    rw [words, types]
    rcases native_cases header.isKeyword with same | same <;> rw [same] <;> rfl
  have noClass : (Text.words header.text).contains "class".toList = false := by
    apply Bool.eq_false_iff.mpr
    rw [ne_eq, List.contains_iff_mem, words]
    intro member
    rcases List.mem_cons.mp member with same | later
    · exact absurd header.isKeyword (by rw [← same]; decide)
    · rcases List.mem_append.mp later with typeWord | other
      · exact (apart _ typeWord).2.2 rfl
      · exact classless other
  have native : nativeKeywords.contains header.keyword = true := by simpa using header.isKeyword
  have function : LineRole.ofNative (Text.words header.type ++ others) = .functionHeader true := by
    rw [types, List.cons_append, LineRole.ofNative, if_neg fun enumeration => noEnumeration enumeration.1,
      if_neg (by simpa using noBlock)]
  rw [words] at noImport noClass
  simp only [LineRole.ofHeader, words, noImport, noClass, native, header.ends_text, function]
  simp

/-- The header is read up to its end, unless its type holds a colon. There the search stops in the
type, and the name and the arguments are taken for a body. Otherwise the colons in the arguments
stand in the parentheses, so the last one is found. -/
theorem headerOf_text : headerOf header.text =
    if header.type = scopedType then header.keyword ++ " std:" else header.text := by
  have opens : opensDefinition header.text := by
    obtain ⟨others, words, _⟩ := header.words_text
    simp [opensDefinition, words, header.isKeyword]
  by_cases colons : header.type = scopedType
  · have parts : header.text = (header.keyword ++ " std") ++ ':' :: (":string " ++ header.name ++ "(" ++
        Text.join "," header.arguments ++ "):") := by
      have type : header.type = "std".toList ++ ':' :: ":string".toList := colons.trans (by decide)
      rw [text, declared, type]
      simp
    have unbroken : Text.Unbroken endsSearch (header.keyword ++ " std") := by
      apply Text.unbroken_of_neutral
      rcases native_cases header.isKeyword with same | same <;> rw [same] <;> decide
    have filled : Text.trim (":string " ++ header.name ++ "(" ++ Text.join "," header.arguments ++
        "):") ≠ [] := by
      intro empty
      exact absurd ((trim_eq_nil_iff _).mp empty ':' (by simp)) (by decide)
    rw [if_pos colons]
    rw [parts] at opens ⊢
    rw [headerOf_append_colon unbroken opens, if_neg filled]
    simp
  · have parts : header.text = (header.declared ++ '(' :: (Text.join "," header.arguments ++ [')'])) ++
        ':' :: [] := by
      simp [text]
    have unbroken : Text.Unbroken endsSearch
        (header.declared ++ '(' :: (Text.join "," header.arguments ++ [')'])) := by
      have front : Text.Unbroken endsSearch header.declared :=
        Text.unbroken_of_neutral fun char member =>
          ⟨(header.declared_plain char member).1, Bool.eq_false_iff.mpr fun sign =>
            colons ((header.declared_plain char member).2.2.2 sign)⟩
      exact (front.append_iff _).mpr
        (header.matched_arguments.closed.enclose (by decide) (by decide) (by decide) (by decide))
    rw [if_neg colons]
    rw [parts] at opens ⊢
    rw [headerOf_append_colon unbroken opens, ite_self]

/-- The line has the role of a native function, however much of it is taken for the header. -/
theorem role_text : LineRole.of ⟨[]⟩ header.text = .functionHeader true := by
  have header_role : LineRole.ofHeader ⟨[]⟩ (headerOf header.text) = .functionHeader true := by
    rw [header.headerOf_text]
    split
    · rcases native_cases header.isKeyword with same | same <;> rw [same] <;> rfl
    · exact header.ofHeader_text ⟨[]⟩
  rcases role_cases ⟨[]⟩ header.text with ⟨_, role⟩ | ⟨_, ⟨native, role, same⟩ | ⟨_, other⟩⟩
  · rw [role, header.ofHeader_text]
  · rw [role, ← same, header_role]
  · exact absurd header_role (other true)

/-- The line leaves no signature open. -/
theorem opensSignature_text : opensSignature header.text = false := by
  apply Bool.eq_false_iff.mpr
  intro opens
  have left := ((opensSignature_iff _).mp opens).2.2
  have none : Text.openParentheses (headerOf header.text) = 0 := by
    rw [header.headerOf_text]
    split
    · rcases native_cases header.isKeyword with same | same <;> rw [same] <;> decide
    · exact header.openParentheses_text
  omega

end KnownHeader

/-- A function that returns a type of the table has its header, with the type that callers
see, and the ellipsis for its stub, unless the type holds a colon. -/
theorem generate_of_knownHeader (header : KnownHeader) {unit : Nat} {below : Text}
    (body : IsBody unit (readLines below)) :
    generate (header.text ++ '\n' :: below) =
      .ok [if header.type = scopedType then "def std:".toList else header.shown,
        List.replicate unit ' ' ++ ellipsis] := by
  obtain ⟨starts, ends⟩ := header.ends_text
  obtain ⟨oneLine, uncommented⟩ := header.text_oneLine
  have tight : Text.Tight header.text := ⟨⟨'c', starts, by decide⟩, ⟨':', ends, by decide⟩⟩
  have shown : functionInStub true (headerOf header.text) =
      if header.type = scopedType then "def std:".toList else header.shown := by
    rw [header.headerOf_text]
    split
    · rcases native_cases header.isKeyword with same | same <;> rw [same] <;> rfl
    · exact header.functionInStub_text
  rw [generate_of_function tight oneLine uncommented header.role_text header.opensSignature_text body,
    shown]

/-- A header with a type of three words and with brackets of several kinds in its arguments. -/
def KnownHeader.sample : KnownHeader where
  keyword := "cdef"
  type := "unsigned long long"
  name := "scale"
  arguments := ["double[:, ::1] view", " int by = (1, 2)[0]"]
  isKeyword := by decide
  known := by decide +kernel
  identifier := ⟨by decide, by decide⟩
  ownName := by decide
  plainArguments := by
    have matched : ∀ argument ∈ ["double[:, ::1] view".toList, " int by = (1, 2)[0]".toList],
        Text.Matched argument := by
      have plain {text : Text} (neutral : ∀ char ∈ text, Text.isNeutral char) : Text.Matched text :=
        Text.matched_of_neutral neutral
      have slice : "double[:, ::1] view".toList =
          "double".toList ++ '[' :: (":, ::1".toList ++ ']' :: " view".toList) := by decide
      have default : " int by = (1, 2)[0]".toList = " int by = ".toList ++
          '(' :: ("1, 2".toList ++ ')' :: '[' :: ("0".toList ++ ']' :: "".toList)) := by decide
      simp only [List.forall_mem_cons]
      refine ⟨?_, ?_, List.forall_mem_nil _⟩
      · rw [slice]
        exact (plain (by decide)).append (.group rfl (plain (by decide)) (plain (by decide)))
      · rw [default]
        exact (plain (by decide)).append (.group rfl (plain (by decide))
          (.group rfl (plain (by decide)) .nil))
    intro argument member
    refine ⟨matched argument member, ?_, ?_, ?_, ?_, ?_⟩ <;> revert argument <;> decide

/-- The sample with a body of three lines. -/
theorem generate_of_knownHeader_sample :
    generate ("cdef unsigned long long scale(double[:, ::1] view, int by = (1, 2)[0]):\n".toList ++
        "    if by:\n        return g(view)\n    return 0\n".toList) =
      .ok ["def scale(view:double[:, ::1], by:int=(1, 2)[0]) -> int:", "    ..."] := by
  have body : IsBody 4 (readLines "    if by:\n        return g(view)\n    return 0\n".toList) :=
    ⟨by decide, ⟨_, rfl, rfl⟩, by decide +kernel, by decide +kernel, by decide +kernel⟩
  have content : "cdef unsigned long long scale(double[:, ::1] view, int by = (1, 2)[0]):\n".toList ++
      "    if by:\n        return g(view)\n    return 0\n".toList =
        KnownHeader.sample.text ++ '\n' :: "    if by:\n        return g(view)\n    return 0\n".toList := by
    decide +kernel
  rw [content, generate_of_knownHeader KnownHeader.sample body]
  exact congrArg Except.ok (by decide +kernel)

/-- A header with the type that holds colons. -/
def KnownHeader.scopedSample : KnownHeader where
  keyword := "cdef"
  type := "std::string"
  name := "f"
  arguments := ["int a"]
  isKeyword := by decide
  known := by decide +kernel
  identifier := ⟨by decide, by decide⟩
  ownName := by decide
  plainArguments := by
    simp only [List.forall_mem_cons]
    exact ⟨⟨Text.matched_of_neutral (by decide), by decide, by decide, by decide, by decide, by decide⟩,
      List.forall_mem_nil _⟩

/-- The type that holds colons is cut off at the first of them, and the name and the
arguments with it. -/
theorem scopedType_is_cut :
    IsBody 4 (readLines "    return g(a)\n".toList) ∧
      KnownHeader.scopedSample.text = "cdef std::string f(int a):" ∧
      KnownHeader.scopedSample.shown = "def f(a:int) -> str:" ∧
      generate (KnownHeader.scopedSample.text ++ '\n' :: "    return g(a)\n".toList) =
        .ok ["def std:", "    ..."] := by
  refine ⟨⟨by decide, ⟨_, rfl, rfl⟩, ?_, ?_, ?_⟩, ?_, ?_, ?_⟩ <;> decide +kernel

end PyxProject.Stub
