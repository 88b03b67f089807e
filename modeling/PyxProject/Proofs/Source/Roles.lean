import PyxProject.Proofs.Source.Headers
import PyxProject.Proofs.Text.Brackets
import PyxProject.Source.LineRole

/-!
# What a role says about a line

The role of a line is found by a sequence of tests. The statements here read a role
back: what the words, the first and the last character of a line are if it has that
role. Later modules use them and do not open the tests again.
-/

namespace PyxProject.Source

/-- The header of a line is the whole line, or a beginning of it that ends in a colon
and leaves something behind. -/
theorem headerOf_cases (text : Text) :
    headerOf text = text ∨
      ∃ body, text = headerOf text ++ body ∧ body ≠ [] ∧ (headerOf text).getLast? = some ':' ∧
        opensDefinition text := by
  unfold headerOf
  split
  · rename_i opens
    split
    · rename_i header body cut
      split
      · exact .inl rfl
      · rename_i filled
        obtain ⟨whole, ends⟩ := unmark_eq_of_colonCut cut
        refine .inr ⟨body, by simpa using whole, ?_, ends, opens⟩
        rintro rfl
        exact filled rfl
    · exact .inl rfl
  · exact .inl rfl

/-- The header of a line that ends in a colon goes on behind what holds no colon. -/
theorem headerOf_append {front rest : Text} (colonless : ':' ∉ front)
    (ends : (front ++ rest).getLast? = some ':') :
    ∃ tail finish, headerOf (front ++ rest) = front ++ tail ∧ rest = tail ++ finish ∧
      tail.getLast? = some ':' := by
  have behind {tail : Text} (ends : (front ++ tail).getLast? = some ':') : tail.getLast? = some ':' := by
    rw [List.getLast?_append] at ends
    cases last : tail.getLast? with
    | none =>
      rw [last, Option.none_or] at ends
      exact absurd (List.mem_of_getLast? ends) colonless
    | some char => rwa [last, Option.some_or] at ends
  rcases headerOf_cases (front ++ rest) with whole | ⟨body, cut, _, colon, _⟩
  · exact ⟨rest, [], whole, (List.append_nil rest).symm, behind ends⟩
  · rcases List.append_eq_append_iff.mp cut with ⟨tail, header, parts⟩ | ⟨inside, longer, _⟩
    · exact ⟨tail, body, header, parts, behind (header ▸ colon)⟩
    · rw [longer] at colonless
      exact absurd (List.mem_append_left _ (List.mem_of_getLast? colon)) colonless

/-- The header of a tight line is tight: it ends with the line or in a colon. -/
theorem tight_headerOf {text : Text} (tight : Text.Tight text) : Text.Tight (headerOf text) := by
  rcases headerOf_cases text with whole | ⟨body, cut, _, ends, _⟩
  · rwa [whole]
  · refine ⟨?_, ':', ends, by decide⟩
    obtain ⟨char, starts, letter⟩ := tight.first
    refine ⟨char, ?_, letter⟩
    have filled : headerOf text ≠ [] := by
      intro empty
      rw [empty] at ends
      cases ends
    rw [cut, List.head?_append_of_ne_nil _ filled] at starts
    exact starts

/-- A line leaves a signature open if it starts a definition, is no assignment, and its
header leaves a parenthesis open. That the line holds a parenthesis then need not be
asked. -/
theorem opensSignature_iff (text : Text) :
    opensSignature text ↔ opensDefinition text ∧ '=' ∉ text.takeWhile (· != '(') ∧
      0 < Text.openParentheses (headerOf text) := by
  have holds : 0 < Text.openParentheses (headerOf text) → '(' ∈ text := by
    intro isOpen
    have inHeader := Text.mem_of_openParentheses isOpen
    rcases headerOf_cases text with whole | ⟨body, cut, _, _, _⟩
    · rwa [whole] at inHeader
    · rw [cut]
      exact List.mem_append_left _ inHeader
  simp only [opensSignature, Bool.and_eq_true, Bool.not_eq_true', decide_eq_true_eq,
    List.contains_iff_mem, ← Bool.not_eq_true]
  constructor
  · rintro ⟨⟨⟨opens, _⟩, noAssignment⟩, isOpen⟩
    exact ⟨opens, noAssignment, isOpen⟩
  · rintro ⟨opens, noAssignment, isOpen⟩
    exact ⟨⟨⟨opens, holds isOpen⟩, noAssignment⟩, isOpen⟩

/-- A line has the role of its header if the two are the same, and else is a function
or a plain statement. -/
theorem role_cases (names : CythonNames) (text : Text) :
    (headerOf text = text ∧ LineRole.of names text = LineRole.ofHeader names text) ∨
      (headerOf text ≠ text ∧
        ((∃ native, LineRole.of names text = .functionHeader native ∧
            LineRole.ofHeader names (headerOf text) = .functionHeader native) ∨
          LineRole.of names text = .statement ∧
            ∀ native, LineRole.ofHeader names (headerOf text) ≠ .functionHeader native)) := by
  rcases headerOf_cases text with whole | ⟨body, cut, filled, _, _⟩
  · exact .inl ⟨whole, by simp [LineRole.of, whole]⟩
  · have shorter : (headerOf text).length < text.length := by
      have positive : 0 < body.length := List.length_pos_iff.mpr filled
      have lengths := congrArg List.length cut
      rw [List.length_append] at lengths
      omega
    refine .inr ⟨fun same => by simp [same] at shorter, ?_⟩
    simp only [LineRole.of, shorter, if_true]
    cases header : LineRole.ofHeader names (headerOf text) <;> simp

/-- The header of a function alone has the role of the line. What follows the header
on the line has no part in it. -/
theorem ofHeader_headerOf {names : CythonNames} {text : Text} {native : Bool}
    (function : LineRole.of names text = .functionHeader native) :
    LineRole.ofHeader names (headerOf text) = .functionHeader native := by
  rcases role_cases names text with ⟨whole, role⟩ | ⟨_, ⟨other, role, header⟩ | ⟨role, _⟩⟩
  · rw [whole, ← role, function]
  · rw [header, ← role, function]
  · rw [role] at function
    cases function

/-- A role other than those of functions and statements belongs to the whole line. -/
theorem ofHeader_of_role {names : CythonNames} {text : Text} {role : LineRole}
    (given : LineRole.of names text = role) (noStatement : role ≠ .statement)
    (noFunction : ∀ native, role ≠ .functionHeader native) :
    headerOf text = text ∧ LineRole.ofHeader names text = role := by
  rcases role_cases names text with ⟨whole, same⟩ | ⟨_, ⟨native, same, _⟩ | ⟨same, _⟩⟩
  · exact ⟨whole, same ▸ given⟩
  · exact absurd (given.symm.trans same) (noFunction native)
  · exact absurd (given.symm.trans same) noStatement

/-- Words that start with `from` start no definition. -/
theorem opensDefinition_of_from {text : Text} {rest : List Text}
    (words : Text.words text = "from".toList :: rest) : opensDefinition text = false := by
  simp only [opensDefinition, words, startsPlain, List.head?_cons, Option.any_some]
  rfl

/-- Only an import statement binds names. A line that starts like one from `cython`
but lists nothing has another role and binds nothing. -/
theorem boundNames_eq_nil {names : CythonNames} {text : Text}
    (noImport : LineRole.of names text ≠ .importStatement) : boundNames text = [] := by
  unfold boundNames
  split
  · rename_i first second third items words
    split
    · rename_i fromCython
      obtain ⟨rfl, rfl, keyword⟩ := fromCython
      cases items with
      | nil => rfl
      | cons item items =>
        exfalso
        apply noImport
        have whole : headerOf text = text := by
          simp [headerOf, opensDefinition_of_from words]
        have role : LineRole.of names text = LineRole.ofHeader names text := by
          simp [LineRole.of, whole]
        have imports : formsImport (Text.words text) = true := by
          rw [words]
          simp [formsImport, keyword]
        rw [words] at imports
        rw [role]
        simp only [LineRole.ofHeader, words, imports, if_true]
    · rfl
  · rfl

/-- Whether the words of a line start a class or a function in the plain language. -/
def startsPlainBlock (words : List Text) : Bool :=
  words.head? == some "class".toList || startsPlain words

/-- What the text of a header is like if it has the given role. -/
def FitsRole (text : Text) : LineRole → Prop
  | .importStatement => formsImport (Text.words text)
  | .decorator | .directive => text.head? = some '@'
  | .classHeader =>
    text.getLast? = some ':' ∧
      ∃ word rest, Text.words text = word :: rest ∧
        (word = "class".toList ∨ word ∈ nativeKeywords)
  | .functionHeader true =>
    text.getLast? = some ':' ∧ ∃ word rest, Text.words text = word :: rest ∧ word ∈ nativeKeywords
  | .functionHeader false => text.getLast? = some ':' ∧ startsPlain (Text.words text)
  | .enumHeader | .blockHeader | .statement =>
    text.getLast? = some ':' → startsPlainBlock (Text.words text) = false

/-- The two native keywords. -/
theorem native_cases {word : Text} (native : word ∈ nativeKeywords) :
    word = "cdef".toList ∨ word = "cpdef".toList := by
  simpa [nativeKeywords] using native

/-- A native keyword starts nothing in the plain language. -/
theorem startsPlainBlock_of_native {word : Text} (native : word ∈ nativeKeywords)
    (rest : List Text) : startsPlainBlock (word :: rest) = false := by
  rcases native_cases native with rfl | rfl <;> rfl

/-- A line that starts with a native keyword is an enumeration, a block or a function. -/
theorem ofNative_cases (rest : List Text) :
    LineRole.ofNative rest = .enumHeader ∨ LineRole.ofNative rest = .blockHeader ∨
      LineRole.ofNative rest = .functionHeader true := by
  cases rest with
  | nil => exact .inr (.inr rfl)
  | cons second rest =>
    simp only [LineRole.ofNative]
    split
    · exact .inl rfl
    · split
      · exact .inr (.inl rfl)
      · exact .inr (.inr rfl)

/-- The tests that give a header its role hold of its text. -/
theorem fitsRole_ofHeader (names : CythonNames) (text : Text) :
    FitsRole text (LineRole.ofHeader names text) := by
  unfold LineRole.ofHeader
  cases words : Text.words text with
  | nil =>
    intro _
    rw [words]
    rfl
  | cons first rest =>
    dsimp only
    split
    · rename_i imports
      simpa only [FitsRole, words] using imports
    · split
      · rename_i sign
        split <;> exact sign
      · split
        · rename_i unended
          exact fun ends => absurd ends unended
        · rename_i colon
          have ends : text.getLast? = some ':' := Decidable.not_not.mp colon
          split
          · rename_i header
            simp only [Bool.and_eq_true, Bool.or_eq_true, beq_iff_eq, List.contains_iff_mem] at header
            exact ⟨ends, first, rest, words, header.1⟩
          · rename_i noClass
            split
            · rename_i keyword
              have native : first ∈ nativeKeywords := List.contains_iff_mem.mp keyword
              have unplain : startsPlainBlock (Text.words text) = false := by
                rw [words]
                exact startsPlainBlock_of_native native rest
              rcases ofNative_cases rest with role | role | role
              · rw [role]
                exact fun _ => unplain
              · rw [role]
                exact fun _ => unplain
              · rw [role]
                exact ⟨ends, first, rest, words, native⟩
            · split
              · rename_i plain
                exact ⟨ends, by rw [words]; exact plain⟩
              · rename_i noFunction
                have unplain : startsPlainBlock (Text.words text) = false := by
                  have noKeyword : (first == "class".toList) = false := by
                    apply Bool.eq_false_iff.mpr
                    intro same
                    apply noClass
                    obtain rfl : first = "class".toList := by simpa using same
                    simp
                  rw [words, startsPlainBlock, Bool.eq_false_iff.mpr noFunction, List.head?_cons]
                  exact (Bool.or_false _).trans noKeyword
                split <;> exact fun _ => unplain

/-- A line whose role belongs to the whole line fits that role. -/
theorem fitsRole_of_role {names : CythonNames} {text : Text} {role : LineRole}
    (given : LineRole.of names text = role) (noStatement : role ≠ .statement)
    (noFunction : ∀ native, role ≠ .functionHeader native) : FitsRole text role := by
  obtain ⟨_, header⟩ := ofHeader_of_role given noStatement noFunction
  have fits := fitsRole_ofHeader names text
  rwa [header] at fits

/-- The header of a function fits the role of the line. -/
theorem fitsRole_headerOf {names : CythonNames} {text : Text} {native : Bool}
    (function : LineRole.of names text = .functionHeader native) :
    FitsRole (headerOf text) (.functionHeader native) := by
  have fits := fitsRole_ofHeader names (headerOf text)
  rwa [ofHeader_headerOf function] at fits

/-- Words start no import unless the first of them is one of its keywords. -/
theorem formsImport_of_other {first : Text} {rest : List Text} (noKeyword : isImportKeyword first = false)
    (noFrom : (first == "from") = false) : formsImport (first :: rest) = false := by
  cases rest with
  | nil => rfl
  | cons second rest => simp only [formsImport, noKeyword, noFrom, Bool.false_and, Bool.or_self]

/-- A line that starts with `class` or a native keyword and ends in a colon is the header of a
class if `class` is a word of it, and else a native declaration. -/
theorem ofHeader_of_keyword {text first : Text} {rest : List Text} (ends : text.getLast? = some ':')
    (words : Text.words text = first :: rest)
    (keyword : first = "class".toList ∨ first ∈ nativeKeywords) (names : CythonNames) :
    LineRole.ofHeader names text =
      if "class".toList ∈ first :: rest then .classHeader else .ofNative rest := by
  have known : first ∈ "class".toList :: nativeKeywords := List.mem_cons.mpr keyword
  have other : ∀ word ∈ "class".toList :: nativeKeywords,
      (isImportKeyword word = false ∧ (word == "from") = false) ∧ word.head? ≠ some '@' := by decide
  obtain ⟨⟨noKeyword, noFrom⟩, starts⟩ := other first known
  have noImport : formsImport (first :: rest) = false := formsImport_of_other noKeyword noFrom
  have noSign : text.head? ≠ some '@' :=
    fun sign => starts (Text.head_of_words sign (by decide) words)
  simp only [LineRole.ofHeader, words, noImport, noSign, ends]
  by_cases isClass : "class".toList ∈ first :: rest
  · have opens : ((first == "class" || nativeKeywords.contains first) &&
        (first :: rest).contains "class".toList) = true := by
      rw [Bool.and_eq_true, Bool.or_eq_true, beq_iff_eq, List.contains_iff_mem, List.contains_iff_mem]
      exact ⟨keyword, isClass⟩
    rw [if_pos isClass]
    simp only [opens]
    rfl
  · have noClass : (first :: rest).contains "class".toList = false := by
      rw [Bool.eq_false_iff, ne_eq, List.contains_iff_mem]
      exact isClass
    have native : nativeKeywords.contains first = true := by
      rcases keyword with rfl | native
      · exact absurd List.mem_cons_self isClass
      · exact List.contains_iff_mem.mpr native
    rw [if_neg isClass]
    simp only [noClass, native, Bool.and_false]
    rfl

/-- Words that start a plain function start no import. -/
theorem formsImport_of_startsPlain {words : List Text} (plain : startsPlain words) :
    formsImport words = false := by
  rcases words with _ | ⟨first, _ | ⟨second, rest⟩⟩
  · rfl
  · rfl
  · simp only [startsPlain, Bool.or_eq_true, Bool.and_eq_true, beq_iff_eq] at plain
    rcases plain with rfl | ⟨rfl, _⟩ <;> rfl

/-- The header of a line that starts a plain function starts it as well: the colon at
its end comes after the keywords, since these have none. -/
theorem startsPlain_headerOf {text : Text} (plain : startsPlain (Text.words text)) :
    startsPlain (Text.words (headerOf text)) := by
  rcases headerOf_cases text with whole | ⟨body, cut, _, ends, _⟩
  · rwa [whole]
  · have letter : Text.isBlank ':' = false := by decide
    cases words : Text.words text with
    | nil =>
      rw [words] at plain
      cases plain
    | cons first rest =>
      have found : Text.words (headerOf text ++ body) = first :: rest := by rw [← cut, words]
      rw [words] at plain
      simp only [startsPlain, Bool.or_eq_true, Bool.and_eq_true, beq_iff_eq] at plain
      rcases plain with rfl | ⟨rfl, second⟩
      · obtain ⟨later, header, _⟩ := Text.words_of_beginning ends letter (by decide) found
        rw [header]
        rfl
      · obtain ⟨later, header, remaining, laterEnds⟩ :=
          Text.words_of_beginning ends letter (by decide) found
        cases others : rest with
        | nil =>
          rw [others] at second
          cases second
        | cons keyword items =>
          rw [others] at second remaining
          obtain rfl : keyword = plainKeyword := Option.some.inj second
          obtain ⟨_, next, _⟩ := Text.words_of_beginning laterEnds letter (by decide) remaining.symm
          rw [header, next]
          rfl

/-- A header that starts a plain function and ends in a colon has the role of one. -/
theorem isFunction_of_startsPlain (names : CythonNames) {text : Text}
    (plain : startsPlain (Text.words text)) (ends : text.getLast? = some ':') :
    ∃ native, LineRole.ofHeader names text = .functionHeader native := by
  have tested := fitsRole_ofHeader names text
  have block : startsPlainBlock (Text.words text) = true := by
    rw [startsPlainBlock, plain, Bool.or_true]
  have noSign : text.head? ≠ some '@' := by
    intro sign
    cases words : Text.words text with
    | nil =>
      rw [words] at plain
      cases plain
    | cons first rest =>
      have head : first.head? = some '@' := Text.head_of_words sign (by decide) words
      rw [words] at plain
      simp only [startsPlain, Bool.or_eq_true, Bool.and_eq_true, beq_iff_eq] at plain
      rcases plain with rfl | ⟨rfl, _⟩ <;> exact absurd head (by decide)
  cases role : LineRole.ofHeader names text with
  | functionHeader native => exact ⟨native, rfl⟩
  | importStatement =>
    rw [role] at tested
    have imports : formsImport (Text.words text) = true := tested
    rw [formsImport_of_startsPlain plain] at imports
    cases imports
  | classHeader =>
    rw [role] at tested
    obtain ⟨_, word, rest, words, rfl | native⟩ := tested
    · rw [words] at plain
      cases plain
    · rw [words, startsPlainBlock_of_native native] at block
      cases block
  | decorator | directive =>
    rw [role] at tested
    exact absurd tested noSign
  | enumHeader | blockHeader | statement =>
    rw [role] at tested
    rw [tested ends] at block
    cases block

/-- A plain statement is not the header of a class or a function in the plain
language. If its own header is only a part of it, that header has been tested too. -/
theorem startsPlainBlock_of_statement {names : CythonNames} {text : Text}
    (role : LineRole.of names text = .statement) (ends : text.getLast? = some ':') :
    startsPlainBlock (Text.words text) = false := by
  rcases role_cases names text with ⟨_, same⟩ | ⟨cut, ⟨native, same, _⟩ | ⟨_, noFunction⟩⟩
  · have tested := fitsRole_ofHeader names text
    rw [← same, role] at tested
    exact tested ends
  · rw [role] at same
    cases same
  · rcases headerOf_cases text with whole | ⟨body, _, _, colon, opens⟩
    · exact absurd whole cut
    · have noPlain : startsPlain (Text.words text) = false := by
        apply Bool.eq_false_iff.mpr
        intro plain
        obtain ⟨native, function⟩ :=
          isFunction_of_startsPlain names (startsPlain_headerOf plain) colon
        exact noFunction native function
      rw [opensDefinition, noPlain, Bool.false_or] at opens
      cases words : Text.words text with
      | nil => rfl
      | cons first rest =>
        rw [words, List.head?_cons] at opens
        exact startsPlainBlock_of_native (List.contains_iff_mem.mp opens) rest

end PyxProject.Source
