import PyxProject.Proofs.Source.Squeezed
import PyxProject.Proofs.Text.Rewording

/-!
# Literals in the lines of a file

What stands in the literals of a line should not matter to how the line is read. The
search for the colon that ends a header goes by the scanner, so it finds the same colon
whatever the literals hold. The role of a line and the test for an open signature look at
words and characters of the raw text, and three of their tests can reach into a literal:
the search for the word `class` after a native keyword, the third word of a line that
starts with `from`, and the search for an equals sign before the first parenthesis.
`reading_of_reworded` says that these are all, and `literal_contents_are_read` that each
of them matters.
-/

namespace PyxProject.Source

/-- The search for the colon goes past a literal. -/
theorem colonCut_literal (depth : Int) {literal : List Text.Mark}
    (outside : ∀ mark ∈ literal, mark.code = false) (rest : List Text.Mark) :
    colonCut? depth (literal ++ rest) =
      (colonCut? depth rest).map fun cut => (Text.unmark literal ++ cut.1, cut.2) := by
  induction literal with
  | nil => simp [Text.unmark]
  | cons mark literal inductionHypothesis =>
    obtain ⟨passed, outside⟩ := List.forall_mem_cons.mp outside
    rw [List.cons_append, colonCut_cons, headerStep_of_literal depth passed]
    simp [inductionHypothesis outside, Text.unmark, Function.comp_def]

/-- The search finds the same colon whatever stands in the literals. -/
theorem colonCut_reworded {allowed : Text → Prop} {first second : Text}
    (reworded : Text.Reworded allowed first second) (depth : Int) :
    (colonCut? depth (Text.marks first) = none ∧ colonCut? depth (Text.marks second) = none) ∨
      ∃ header body otherHeader otherBody,
        colonCut? depth (Text.marks first) = some (header, body) ∧
        colonCut? depth (Text.marks second) = some (otherHeader, otherBody) ∧
        Text.Reworded allowed header otherHeader ∧ Text.Reworded allowed body otherBody := by
  induction reworded generalizing depth with
  | same text =>
    cases cut : colonCut? depth (Text.marks text) with
    | none => exact .inl ⟨rfl, rfl⟩
    | some found => exact .inr ⟨_, _, _, _, rfl, rfl, .same _, .same _⟩
  | @code first second char plain later inductionHypothesis =>
    have marked (rest : Text) : Text.marks (char :: rest) = ⟨char, true⟩ :: Text.marks rest := by
      simp [Text.marks, Text.marksFrom, Text.Region.isCode, Text.Region.next, plain]
    rw [marked, marked, colonCut_cons, colonCut_cons]
    cases step : headerStep depth ⟨char, true⟩ with
    | proceed next =>
      rcases inductionHypothesis next with
        ⟨none, otherNone⟩ | ⟨header, body, otherHeader, otherBody, cut, otherCut, headers, bodies⟩
      · exact .inl ⟨by simp [none], by simp [otherNone]⟩
      · exact .inr ⟨char :: header, body, char :: otherHeader, otherBody, by simp [cut],
          by simp [otherCut], .code char plain headers, bodies⟩
    | refuse => exact .inl ⟨rfl, rfl⟩
    | finish =>
      refine .inr ⟨[':'], first, [':'], second, ?_, ?_, .same _, later⟩ <;>
        rw [Text.unmark_marks]
  | literal delimiter opens old new oldClosed newClosed rewording later inductionHypothesis =>
    obtain ⟨oldMarks, oldShown, oldLiteral, oldRead⟩ := Text.marks_literal opens oldClosed
    obtain ⟨newMarks, newShown, newLiteral, newRead⟩ := Text.marks_literal opens newClosed
    rw [oldRead, newRead, colonCut_literal depth oldLiteral, colonCut_literal depth newLiteral,
      oldShown, newShown]
    rcases inductionHypothesis depth with
      ⟨none, otherNone⟩ | ⟨header, body, otherHeader, otherBody, cut, otherCut, headers, bodies⟩
    · exact .inl ⟨by simp [none], by simp [otherNone]⟩
    · exact .inr ⟨delimiter :: (old ++ delimiter :: header), body,
        delimiter :: (new ++ delimiter :: otherHeader), otherBody, by simp [cut], by simp [otherCut],
        .literal delimiter opens old new oldClosed newClosed rewording headers, bodies⟩

/-- Dropping colons at the end of a torn word leaves it torn. -/
theorem isTorn_dropColons {torn : Text} (isTorn : Text.IsTorn torn) :
    Text.IsTorn (dropColons torn) := by
  obtain ⟨delimiter, inside, opens⟩ := isTorn
  obtain ⟨dropped, whole, colons⟩ := Text.rdropWhile_append (· == ':') torn
  rw [whole] at inside
  rcases List.mem_append.mp inside with kept | gone
  · exact ⟨delimiter, kept, opens⟩
  · obtain rfl : delimiter = ':' := by simpa using colons delimiter gone
    exact absurd opens (by decide)

/-- Whether words start a plain function is seen before any literal. -/
theorem startsPlain_agree {words others : List Text} (agree : Text.WordsAgree words others) :
    startsPlain words = startsPlain others := by
  have noKeyword {torn : Text} (isTorn : Text.IsTorn torn) (rest : List Text) :
      startsPlain (torn :: rest) = false := by
    rw [startsPlain, isTorn.beq plainKeyword (by decide), isTorn.beq "async".toList (by decide)]
    rfl
  cases agree with
  | same => rfl
  | torn isTorn otherTorn => rw [noKeyword isTorn, noKeyword otherTorn]
  | shared word undelimited later =>
    cases later with
    | same => rfl
    | torn isTorn otherTorn =>
      simp only [startsPlain, List.head?_cons, Option.some_beq_some,
        isTorn.beq plainKeyword (by decide), otherTorn.beq plainKeyword (by decide)]
    | shared next undelimited later => rfl

/-- Whether words start with a native keyword is seen before any literal. -/
theorem native_agree {words others : List Text} (agree : Text.WordsAgree words others) :
    words.head?.any nativeKeywords.contains = others.head?.any nativeKeywords.contains := by
  cases agree with
  | same => rfl
  | torn isTorn otherTorn =>
    simp only [List.head?_cons, Option.any_some, isTorn.contains nativeKeywords (by decide),
      otherTorn.contains nativeKeywords (by decide)]
  | shared word undelimited later => rfl

/-- Whether a line starts a definition is seen before any literal. -/
theorem opensDefinition_agree {first second : Text} (agree : Text.Agree first second) :
    opensDefinition first = opensDefinition second := by
  simp only [opensDefinition, startsPlain_agree agree.words, native_agree agree.words]

/-- Whether words form an import is seen before any literal, unless there is a literal in
the place of the module of a `from` import. -/
theorem formsImport_agree {words others : List Text} (agree : Text.WordsAgree words others)
    (module : ∀ second rest, words = "from".toList :: second :: rest → ¬ Text.IsTorn second) :
    formsImport words = formsImport others := by
  have noKeyword {torn : Text} (isTorn : Text.IsTorn torn) : isImportKeyword torn = false := by
    rw [isImportKeyword, isTorn.beq "import".toList (by decide),
      isTorn.beq "cimport".toList (by decide)]
    rfl
  have noImport {torn : Text} (isTorn : Text.IsTorn torn) (rest : List Text) :
      formsImport (torn :: rest) = false := by
    cases rest with
    | nil => rfl
    | cons second rest =>
      simp only [formsImport, noKeyword isTorn, isTorn.beq "from".toList (by decide),
        Bool.false_and, Bool.or_false]
  cases agree with
  | same => rfl
  | torn isTorn otherTorn => rw [noImport isTorn, noImport otherTorn]
  | shared word undelimited later =>
    cases later with
    | same => rfl
    | torn isTorn otherTorn agree words others =>
      have noFrom : (word == "from".toList) = false := by
        refine beq_eq_false_iff_ne.mpr ?_
        rintro rfl
        exact module _ _ rfl isTorn
      simp only [formsImport, noFrom, Bool.false_and]
    | shared next undelimited later =>
      cases later with
      | same => rfl
      | torn isTorn otherTorn agree words others =>
        cases words <;> cases others <;> simp [formsImport, noKeyword isTorn, noKeyword otherTorn]
      | shared third undelimited later => cases later <;> rfl

/-- The role of a native line is seen before any literal. -/
theorem ofNative_agree {words others : List Text} (agree : Text.WordsAgree words others) :
    LineRole.ofNative words = LineRole.ofNative others := by
  cases agree with
  | same => rfl
  | torn isTorn otherTorn agree words others =>
    have noEnum {torn : Text} (isTorn : Text.IsTorn torn) : torn ≠ "enum".toList :=
      isTorn.ne (by decide)
    have noBlock {torn : Text} (isTorn : Text.IsTorn torn) :=
      (isTorn_dropColons isTorn).contains nativeBlockWords (by decide)
    simp only [LineRole.ofNative, noEnum isTorn, noEnum otherTorn, noBlock isTorn,
      noBlock otherTorn, false_and]
  | shared second undelimited later =>
    cases later with
    | same => rfl
    | torn => simp [LineRole.ofNative]
    | shared => simp [LineRole.ofNative]

/-- Whether a decorator addresses the compiler is seen before any literal, if no name that
the file binds holds a delimiter. -/
theorem addressesCompiler_agree {names : CythonNames}
    (undelimited : ∀ name ∈ names.names, ∀ char ∈ name, Text.isDelimiter char = false)
    {first second : Text} (agree : Text.Agree first second) :
    addressesCompiler names first = addressesCompiler names second := by
  have heads : Text.Agree (first.takeWhile (· != '(')) (second.takeWhile (· != '(')) := by
    refine agree.takeWhile fun char opens => ?_
    simp only [bne_iff_ne, ne_eq]
    rintro rfl
    exact absurd opens (by decide)
  have member : Text.startsWith (Text.trim (first.takeWhile (· != '('))) "cython.".toList =
      Text.startsWith (Text.trim (second.takeWhile (· != '('))) "cython.".toList := by
    rw [Bool.eq_iff_iff, startsWith_trim (by decide) (by decide),
      startsWith_trim (by decide) (by decide)]
    exact heads.words.starts_iff (by decide)
  rcases heads.trim with same | ⟨isTorn, otherTorn⟩
  · simp only [addressesCompiler, same]
  · simp only [addressesCompiler, member, CythonNames.binds,
      isTorn.beq "cython".toList (by decide), otherTorn.beq "cython".toList (by decide),
      isTorn.contains names.names undelimited, otherTorn.contains names.names undelimited]

/-- The tests on the words of a line do not reach into its literals: none stands in the
place of the module of a `from` import, and in a line that starts with a native keyword
no contents that differ hold the word `class`. -/
structure WordsOutOfReach (allowed : Text → Prop) (text : Text) : Prop where
  module : ∀ module rest, Text.words text = "from".toList :: module :: rest → ¬ Text.IsTorn module
  noClass : (Text.words text).head?.any nativeKeywords.contains →
    ∀ contents, allowed contents → "class".toList ∉ Text.words contents

/-- Headers that differ in the contents of literals have the same role, unless the tests on
words reach into a literal. -/
theorem ofHeader_reworded {allowed : Text → Prop} {first second : Text}
    (reworded : Text.Reworded allowed first second) {names : CythonNames}
    (undelimited : ∀ name ∈ names.names, ∀ char ∈ name, Text.isDelimiter char = false)
    (outOfReach : WordsOutOfReach allowed first) :
    LineRole.ofHeader names first = LineRole.ofHeader names second := by
  have agree := reworded.agree.words
  have imports := formsImport_agree agree outOfReach.module
  have plain := startsPlain_agree agree
  obtain ⟨sign, afterSign⟩ := reworded.agree.uncons
  have isClass : (Text.words first).head?.any nativeKeywords.contains →
      (Text.words first).contains "class".toList = (Text.words second).contains "class".toList := by
    intro native
    rw [Bool.eq_iff_iff, List.contains_iff_mem, List.contains_iff_mem]
    exact reworded.mem_words_iff (by decide) (by decide) (outOfReach.noClass native)
  dsimp only [LineRole.ofHeader]
  rw [← sign, ← reworded.getLast_eq]
  generalize Text.words first = words, Text.words second = others at agree isClass plain imports ⊢
  by_cases atSign : first.head? = some '@'
  · have compiler := addressesCompiler_agree undelimited (afterSign '@' (by decide) atSign)
    cases agree <;> simp only [imports, atSign, compiler, if_true]
  · cases agree with
    | same => simp only [atSign, if_false]
    | torn isTorn otherTorn agree words others =>
      have noBlock {torn : Text} (isTorn : Text.IsTorn torn) :=
        (isTorn_dropColons isTorn).contains statementBlockWords (by decide)
      simp only [imports, atSign, plain, isTorn.beq "class".toList (by decide),
        otherTorn.beq "class".toList (by decide), isTorn.contains nativeKeywords (by decide),
        otherTorn.contains nativeKeywords (by decide), isTorn.beq "cdef:".toList (by decide),
        otherTorn.beq "cdef:".toList (by decide), noBlock isTorn, noBlock otherTorn, if_false,
        Bool.false_eq_true, Bool.or_self, Bool.false_and]
    | @shared words others word _ later =>
      have tests : ((word == "class".toList || nativeKeywords.contains word) &&
            (word :: words).contains "class".toList) =
          ((word == "class".toList || nativeKeywords.contains word) &&
            (word :: others).contains "class".toList) := by
        cases native : nativeKeywords.contains word with
        | true => rw [isClass native]
        | false =>
          by_cases same : word = "class".toList
          · simp [same]
          · rw [beq_eq_false_iff_ne.mpr same]
            rfl
      simp only [imports, atSign, plain, tests, ofNative_agree later, if_false]

/-- Texts that are the same up to a delimiter are blank alike. -/
theorem trim_eq_nil_agree {first second : Text} (agree : Text.Agree first second) :
    Text.trim first = [] ↔ Text.trim second = [] := by
  rcases agree.trim with same | ⟨⟨_, inside, _⟩, ⟨_, otherInside, _⟩⟩
  · rw [same]
  · exact iff_of_false (List.ne_nil_of_mem inside) (List.ne_nil_of_mem otherInside)

/-- The header ends at the same place whatever stands in the literals: header and rest of
one line differ from those of the other in the contents of literals only. -/
theorem headerOf_reworded {allowed : Text → Prop} {first second : Text}
    (reworded : Text.Reworded allowed first second) :
    Text.Reworded allowed (headerOf first) (headerOf second) ∧
      ∃ rest other, first = headerOf first ++ rest ∧ second = headerOf second ++ other ∧
        Text.Reworded allowed rest other := by
  have whole : Text.Reworded allowed first second ∧ ∃ rest other, first = first ++ rest ∧
      second = second ++ other ∧ Text.Reworded allowed rest other :=
    ⟨reworded, [], [], (List.append_nil _).symm, (List.append_nil _).symm, .same _⟩
  unfold headerOf
  rw [← opensDefinition_agree reworded.agree]
  split
  · rcases colonCut_reworded reworded 0 with ⟨none, otherNone⟩ |
      ⟨header, body, otherHeader, otherBody, cut, otherCut, headers, bodies⟩
    · simpa only [none, otherNone] using whole
    · have parts := (unmark_eq_of_colonCut cut).1
      have otherParts := (unmark_eq_of_colonCut otherCut).1
      rw [Text.unmark_marks] at parts otherParts
      simp only [cut, otherCut, ← trim_eq_nil_agree bodies.agree]
      split
      · exact whole
      · exact ⟨headers, body, otherBody, parts, otherParts, bodies⟩
  · exact whole

/-- A header starts with the first word of its line. The words that start a definition have no
colon, so they end before the header does. -/
theorem head_words_headerOf (text : Text) :
    (Text.words (headerOf text)).head? = (Text.words text).head? := by
  rcases headerOf_cases text with whole | ⟨body, cut, _, ends, opens⟩
  · rw [whole]
  · cases words : Text.words text with
    | nil =>
      rw [opensDefinition, words] at opens
      cases opens
    | cons word rest =>
      have noColon : ':' ∉ word := by
        rw [opensDefinition, words] at opens
        simp only [startsPlain, List.head?_cons, Option.any_some, Bool.or_eq_true, Bool.and_eq_true,
          beq_iff_eq, List.contains_iff_mem] at opens
        rcases opens with (rfl | ⟨rfl, _⟩) | native
        · decide
        · decide
        · rcases native_cases native with rfl | rfl <;> decide
      have found : Text.words (headerOf text ++ body) = word :: rest := by rw [← cut, words]
      obtain ⟨later, header, _⟩ := Text.words_of_beginning ends (by decide) noColon found
      rw [header]
      rfl

/-- Lines that differ in the contents of literals have the same role, unless the tests on
words reach into a literal. -/
theorem role_reworded {allowed : Text → Prop} {first second : Text}
    (reworded : Text.Reworded allowed first second) {names : CythonNames}
    (undelimited : ∀ name ∈ names.names, ∀ char ∈ name, Text.isDelimiter char = false)
    (outOfReach : WordsOutOfReach allowed first) :
    LineRole.of names first = LineRole.of names second := by
  obtain ⟨headers, rest, other, parts, otherParts, rests⟩ := headerOf_reworded reworded
  have whole : headerOf first = first ↔ headerOf second = second := by
    have empty : rest = [] ↔ other = [] := by
      rw [← List.getLast?_eq_none_iff, rests.getLast_eq, List.getLast?_eq_none_iff]
    calc headerOf first = first ↔ rest = [] := by nth_rewrite 2 [parts]; simp
      _ ↔ other = [] := empty
      _ ↔ headerOf second = second := by nth_rewrite 2 [otherParts]; simp
  have header : LineRole.ofHeader names (headerOf first) =
      LineRole.ofHeader names (headerOf second) := by
    refine ofHeader_reworded headers undelimited ⟨?_, ?_⟩
    · intro word rest words
      rcases headerOf_cases first with same | ⟨_, _, _, _, opens⟩
      · rw [same] at words
        exact outOfReach.module word rest words
      · have head := head_words_headerOf first
        rw [words, List.head?_cons] at head
        obtain ⟨later, starts⟩ := List.head?_eq_some_iff.mp head.symm
        rw [opensDefinition_of_from starts] at opens
        cases opens
    · rw [head_words_headerOf]
      exact outOfReach.noClass
  rw [role_eq, role_eq]
  by_cases same : headerOf first = first
  · have otherSame := whole.mp same
    rw [if_pos same, if_pos otherSame, ← same, header, otherSame]
  · rw [if_neg same, if_neg (mt whole.mpr same), header]

/-- An equals sign comes before the first parenthesis alike, if no contents that differ
hold either of them. -/
theorem assigns_reworded {allowed : Text → Prop} {first second : Text}
    (reworded : Text.Reworded allowed first second)
    (noSign : ∀ contents, allowed contents → '(' ∉ contents ∧ '=' ∉ contents) :
    '=' ∈ first.takeWhile (· != '(') ↔ '=' ∈ second.takeWhile (· != '(') := by
  have cons (char : Char) (rest : Text) : '=' ∈ (char :: rest).takeWhile (· != '(') ↔
      char = '=' ∨ char ≠ '(' ∧ '=' ∈ rest.takeWhile (· != '(') := by
    by_cases parenthesis : char = '('
    · subst parenthesis
      simp
    · rw [List.takeWhile_cons_of_pos (by simpa using parenthesis), List.mem_cons]
      simp [parenthesis, eq_comm]
  induction reworded with
  | same text => exact Iff.rfl
  | code char plain later inductionHypothesis => simp only [cons, inductionHypothesis]
  | @literal first second delimiter opens old new oldClosed newClosed rewording later
      inductionHypothesis =>
    have closing : '=' ∈ (delimiter :: first).takeWhile (· != '(') ↔
        '=' ∈ (delimiter :: second).takeWhile (· != '(') := by
      simp only [cons, inductionHypothesis]
    rw [cons, cons]
    rcases rewording with rfl | ⟨oldAllowed, newAllowed⟩
    · have contents (text : Text) : '=' ∈ (text ++ delimiter :: first).takeWhile (· != '(') ↔
          '=' ∈ (text ++ delimiter :: second).takeWhile (· != '(') := by
        induction text with
        | nil => exact closing
        | cons char text inductionHypothesis =>
          rw [List.cons_append, List.cons_append, cons, cons, inductionHypothesis]
      rw [contents]
    · have contents {text : Text} (isAllowed : allowed text) (rest : Text) :
          '=' ∈ (text ++ rest).takeWhile (· != '(') ↔ '=' ∈ rest.takeWhile (· != '(') := by
        obtain ⟨noOpening, noEquals⟩ := noSign text isAllowed
        clear isAllowed
        induction text with
        | nil => exact Iff.rfl
        | cons char text inductionHypothesis =>
          simp only [List.mem_cons, not_or] at noOpening noEquals
          rw [List.cons_append, cons, inductionHypothesis noOpening.2 noEquals.2]
          simp [Ne.symm noOpening.1, Ne.symm noEquals.1]
      rw [contents oldAllowed, contents newAllowed, closing]

/-- An equals sign comes before the first parenthesis alike, if one of the two comes before
the first delimiter. -/
theorem assigns_agree {first second : Text} (agree : Text.Agree first second)
    (seen : ∃ char ∈ first.takeWhile (fun char => !Text.isDelimiter char), char = '(' ∨ char = '=') :
    '=' ∈ first.takeWhile (· != '(') ↔ '=' ∈ second.takeWhile (· != '(') := by
  cases agree with
  | same => exact Iff.rfl
  | torn start rest other delimiter opens undelimited =>
    obtain ⟨char, early, which⟩ := seen
    have before : char ∈ start := by
      rw [List.takeWhile_append_of_pos (by simpa using undelimited),
        List.takeWhile_cons_of_neg (by simpa using opens), List.append_nil] at early
      exact early
    rw [List.takeWhile_append, List.takeWhile_append]
    split
    · rename_i whole
      have kept := List.takeWhile_eq_self_iff.mp ((List.takeWhile_prefix _).eq_of_length whole)
      rcases which with rfl | rfl
      · exact absurd (kept '(' before) (by decide)
      · exact iff_of_true (List.mem_append_left _ before) (List.mem_append_left _ before)
    · exact Iff.rfl

/-- The test for an assignment does not reach into the literals of a line: a parenthesis or
an equals sign comes before the first of them, or no contents that differ hold either. -/
def SignsOutOfReach (allowed : Text → Prop) (text : Text) : Prop :=
  (∃ char ∈ text.takeWhile (fun char => !Text.isDelimiter char), char = '(' ∨ char = '=') ∨
    ∀ contents, allowed contents → '(' ∉ contents ∧ '=' ∉ contents

/-- Lines that differ in the contents of literals leave a signature open alike, unless the
test for an assignment reaches into a literal. -/
theorem opensSignature_reworded {allowed : Text → Prop} {first second : Text}
    (reworded : Text.Reworded allowed first second) (outOfReach : SignsOutOfReach allowed first) :
    opensSignature first = opensSignature second := by
  have assigns : '=' ∈ first.takeWhile (· != '(') ↔ '=' ∈ second.takeWhile (· != '(') := by
    rcases outOfReach with early | noSign
    · exact assigns_agree reworded.agree early
    · exact assigns_reworded reworded noSign
  have isOpen : Text.openParentheses (headerOf first) = Text.openParentheses (headerOf second) := by
    rw [Text.openParentheses_eq_total, Text.openParentheses_eq_total]
    refine (headerOf_reworded reworded).1.total_eq fun mark literal => ?_
    simp [Text.Mark.roundWeight, Text.Mark.is, literal]
  rw [Bool.eq_iff_iff, opensSignature_iff, opensSignature_iff, opensDefinition_agree reworded.agree, assigns, isOpen]

/-- A line is read the same whatever its literals hold, up to three tests on raw text. The
header ends at the corresponding place; the role is the same unless the tests on words
reach into a literal; and a signature is left open alike unless the test for an
assignment does. -/
theorem reading_of_reworded {allowed : Text → Prop} {first second : Text}
    (reworded : Text.Reworded allowed first second) (names : CythonNames)
    (undelimited : ∀ name ∈ names.names, ∀ char ∈ name, Text.isDelimiter char = false) :
    (Text.Reworded allowed (headerOf first) (headerOf second) ∧
      ∃ rest other, first = headerOf first ++ rest ∧ second = headerOf second ++ other ∧
        Text.Reworded allowed rest other) ∧
    (WordsOutOfReach allowed first → LineRole.of names first = LineRole.of names second) ∧
    (SignsOutOfReach allowed first → opensSignature first = opensSignature second) :=
  ⟨headerOf_reworded reworded, role_reworded reworded undelimited, opensSignature_reworded reworded⟩

/-- A function with its body on the same line is cut, classified and found complete in the
same way when the defaults of its arguments hold a colon, brackets and an equals sign. -/
theorem defaults_are_not_read :
    let first : Text := "cpdef str f(x=\"a\", y='b'): return x"
    let second : Text := "cpdef str f(x=\": def (\", y='=['): return x"
    let allowed : Text → Prop := fun contents => "class".toList ∉ Text.words contents
    Text.Reworded allowed first second ∧ Text.Reworded allowed (headerOf first) (headerOf second) ∧
      LineRole.of ⟨["cfunc"]⟩ first = LineRole.of ⟨["cfunc"]⟩ second ∧
      opensSignature first = opensSignature second := by
  intro first second allowed
  have reworded : Text.Reworded allowed first second :=
    Text.Reworded.after "cpdef str f(x=" (by decide) <|
      .literal '"' (by decide) "a" ": def (" (Text.contents_of_plain (by decide) (by decide))
        (Text.contents_of_plain (by decide) (by decide)) (.inr (by decide)) <|
      Text.Reworded.after ", y=" (by decide) <|
      .literal '\'' (by decide) "b" "=[" (Text.contents_of_plain (by decide) (by decide))
        (Text.contents_of_plain (by decide) (by decide)) (.inr (by decide)) <|
      .same "): return x"
  obtain ⟨header, role, signature⟩ := reading_of_reworded reworded ⟨["cfunc"]⟩ (by decide)
  refine ⟨reworded, header.1, role ⟨fun module rest found => ?_, fun _ _ => id⟩,
    signature (.inl ⟨'(', by decide, .inl rfl⟩)⟩
  have starts : (Text.words first).head? = some "from".toList := congrArg List.head? found
  exact absurd starts (by decide)

/-- The contents of a literal are read where they should not be. A word `class` in a default turns
a native function into a class, a blank in a literal after `from` moves the keyword of an import
away from its place, and a parenthesis in a literal hides the equals sign of an assignment, which
is then taken for a signature that goes on. Each pair of lines is the same code around one
literal. -/
theorem literal_contents_are_read :
    (Text.Reworded Text.PlainContents "cdef str f(str x=\"a\"):".toList
        "cdef str f(str x=\"a class b\"):".toList ∧
      LineRole.of ⟨[]⟩ "cdef str f(str x=\"a\"):".toList = .functionHeader true ∧
      LineRole.of ⟨[]⟩ "cdef str f(str x=\"a class b\"):".toList = .classHeader) ∧
    (Text.Reworded Text.PlainContents "from 'a' import x".toList "from 'a b' import x".toList ∧
      LineRole.of ⟨[]⟩ "from 'a' import x".toList = .importStatement ∧
      LineRole.of ⟨[]⟩ "from 'a b' import x".toList = .statement) ∧
    Text.Reworded Text.PlainContents "cdef x['a'] = g(1,".toList "cdef x['('] = g(1,".toList ∧
      opensSignature "cdef x['a'] = g(1,".toList = false ∧
      opensSignature "cdef x['('] = g(1,".toList = true := by
  have around (start finish old new : Text) (delimiter : Char)
      (opens : Text.isDelimiter delimiter) (undelimited : ∀ char ∈ start, Text.isDelimiter char = false)
      (plain : Text.PlainContents old ∧ Text.PlainContents new) :
      Text.Reworded Text.PlainContents (start ++ delimiter :: (old ++ delimiter :: finish))
        (start ++ delimiter :: (new ++ delimiter :: finish)) :=
    .after start undelimited (.literal delimiter opens old new
      (Text.contents_of_plain opens plain.1) (Text.contents_of_plain opens plain.2) (.inr plain)
      (.same finish))
  refine ⟨⟨?_, by decide, by decide⟩, ⟨?_, by decide, by decide⟩, ?_, by decide, by decide⟩
  · exact around "cdef str f(str x=" "):" "a" "a class b" '"' (by decide) (by decide) (by decide)
  · exact around "from " " import x" "a" "a b" '\'' (by decide) (by decide) (by decide)
  · exact around "cdef x[" "] = g(1," "a" "(" '\'' (by decide) (by decide) (by decide)

end PyxProject.Source
