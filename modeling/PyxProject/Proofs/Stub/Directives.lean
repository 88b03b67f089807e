import PyxProject.Proofs.Stub.Arguments
import PyxProject.Proofs.Stub.Noninterference
import PyxProject.Proofs.Text.Lines

/-!
# Decorators that address the compiler

A decorator is left out of the stub if it addresses the compiler: it is named `cython` or
with a name from that module, or by a name that the file imports from it. Which names those
are is found by taking the import lines apart into words, joining the words again, dropping
parentheses and cutting at commas. However the list is laid out, what is found are the names
that its items bind (`boundNames_of_import`), so exactly the decorators with such a name are
left out (`directive_iff_fromCython`).
-/

namespace PyxProject.Stub

open Source

/-- An item of an import list: a name of the module, which may be given another name. -/
structure ImportItem where
  name : Text
  alias? : Option Text
  identifier : IsIdentifier name
  otherIdentifier : ∀ other ∈ alias?, IsIdentifier other

namespace ImportItem

variable (item : ImportItem)

/-- The name that an item binds. -/
def bound : Text := item.alias?.getD item.name

/-- The words of an item. -/
def words : List Text :=
  match item.alias? with
  | none => [item.name]
  | some other => [item.name, "as", other]

/-- An item is written with characters of names only. -/
theorem chars : ∀ word ∈ item.words, ∀ char ∈ word, isNameChar char := by
  have keyword : ∀ char ∈ "as".toList, isNameChar char := by decide
  unfold words
  cases given : item.alias? with
  | none => simpa using item.identifier.chars
  | some other =>
    simp only [List.forall_mem_cons]
    exact ⟨item.identifier.chars, keyword, (item.otherIdentifier other given).chars,
      List.forall_mem_nil _⟩

/-- The name that an item binds is found by its words. -/
theorem boundName_of_words {text : Text} (spaced : Text.Spaced item.words text) :
    boundName? text = some item.bound := by
  rw [boundName?, Text.words_of_spaced spaced, words, bound]
  cases item.alias? <;> rfl

end ImportItem

/-- A text lists items with commas between them and perhaps one behind the last, each with
any blanks between its words and around them. -/
def Listed (items : List ImportItem) (text : Text) : Prop :=
  ∃ pieces finish, List.Forall₂ (fun item piece => Text.Spaced item.words piece) items pieces ∧
    (finish = [] ∨ ∃ blanks, finish = [blanks] ∧ ∀ char ∈ blanks, Text.isBlank char) ∧
    text = Text.join [','] (pieces ++ finish)

/-- A text lists items, as they are or in one pair of parentheses. -/
inductive ListsItems (items : List ImportItem) : Text → Prop
  | bare {text : Text} (listed : Listed items text) : ListsItems items text
  | enclosed {before inside after : Text} (beforeBlank : ∀ char ∈ before, Text.isBlank char)
      (listed : Listed items inside) (afterBlank : ∀ char ∈ after, Text.isBlank char) :
      ListsItems items (before ++ '(' :: (inside ++ ')' :: after))

/-- The first words of a line are those of an import from `cython`. -/
def StartsCythonImport (text : Text) : Prop :=
  ∃ keyword rest, Text.words text = "from".toList :: "cython".toList :: keyword :: rest ∧
    isImportKeyword keyword

/-- A line imports the given items from `cython`. -/
def ImportsFromCython (text : Text) (items : List ImportItem) : Prop :=
  ∃ keyword front rest, isImportKeyword keyword ∧
    Text.Spaced ["from".toList, "cython".toList, keyword] front ∧
    (∀ char ∈ rest.head?, Text.isBlank char) ∧ ListsItems items rest ∧ text = front ++ rest

/-- A text with the characters of a list of names: commas, blanks and those of names. -/
def IsPlain (text : Text) : Prop :=
  ∀ char ∈ text, char = ',' ∨ Text.isBlank char ∨ isNameChar char

/-- A plain text holds no other sign. -/
theorem IsPlain.absent {text : Text} (plain : IsPlain text) {sign : Char} (noComma : sign ≠ ',')
    (letter : Text.isBlank sign = false) (noName : isNameChar sign = false) : sign ∉ text := by
  intro member
  rcases plain sign member with comma | blank | inName
  · exact noComma comma
  · simp [letter] at blank
  · simp [noName] at inName

/-- A plain text holds no literal. -/
theorem IsPlain.undelimited {text : Text} (plain : IsPlain text) :
    ∀ char ∈ text, Text.isDelimiter char = false := by
  intro char member
  rcases plain char member with rfl | blank | inName
  · decide
  · exact Text.isDelimiter_of_isBlank blank
  · exact (Text.plain_of_isNeutral (isNeutral_of_isNameChar inName)).2

/-- The text of an item has blanks and characters of names. -/
theorem chars_of_spaced {item : ImportItem} {piece : Text} (spaced : Text.Spaced item.words piece) :
    ∀ char ∈ piece, Text.isBlank char ∨ isNameChar char :=
  Text.forall_of_spaced (fun _ blank => .inl blank)
    (fun word found char inside => .inr (item.chars word found char inside)) spaced

/-- The parts between the commas of a list, the last of which may be blank. -/
structure ListParts (items : List ImportItem) (parts : List Text) : Prop where
  names : parts.filterMap boundName? = items.map ImportItem.bound
  chars : ∀ part ∈ parts, ∀ char ∈ part, Text.isBlank char ∨ isNameChar char

/-- A list has parts that bind the names of its items. -/
theorem Listed.parts {items : List ImportItem} {text : Text} (listed : Listed items text) :
    ∃ parts, ListParts items parts ∧ text = Text.join [','] parts := by
  obtain ⟨pieces, finish, spaced, blank, whole⟩ := listed
  have found : ListParts items pieces := by
    clear whole
    induction spaced with
    | nil => exact ⟨rfl, List.forall_mem_nil _⟩
    | @cons item piece items pieces first _ inductionHypothesis =>
      refine ⟨?_, List.forall_mem_cons.mpr ⟨chars_of_spaced first, inductionHypothesis.chars⟩⟩
      rw [List.filterMap_cons_some (item.boundName_of_words first), inductionHypothesis.names]
      rfl
  refine ⟨_, ?_, whole⟩
  rcases blank with rfl | ⟨blanks, rfl, allBlank⟩
  · rwa [List.append_nil]
  · have noWords : Text.words blanks = [] := by simpa using Text.words_append_blanks allBlank []
    have nothing : boundName? blanks = none := by rw [boundName?, noWords]
    refine ⟨by simp [found.names, nothing], ?_⟩
    intro part member
    rcases List.mem_append.mp member with first | last
    · exact found.chars part first
    · obtain rfl := List.mem_singleton.mp last
      exact fun char inside => .inl (allBlank char inside)

/-- A list is plain. -/
theorem Listed.isPlain {items : List ImportItem} {text : Text} (listed : Listed items text) :
    IsPlain text := by
  obtain ⟨parts, fits, rfl⟩ := listed.parts
  apply Text.holds_join IsPlain (List.forall_mem_nil _)
  · intro first second before after char member
    exact (List.mem_append.mp member).elim (before char) (after char)
  · intro char member
    exact .inl (List.mem_singleton.mp member)
  · exact fun part member char inside => .inr (fits.chars part member char inside)

/-- Squeezing a list changes no word between two commas. -/
theorem ListParts.words_squeezed {items : List ImportItem} {parts : List Text}
    (listed : ListParts items parts) (filled : parts ≠ []) :
    ((Text.squeezeInner (Text.join [','] parts)).splitOn ',').map Text.words =
      parts.map Text.words := by
  have noComma {char : Char} (allowed : Text.isBlank char ∨ isNameChar char) : char ≠ ',' := by
    rcases allowed with blank | inName
    · exact Text.ne_of_isBlank blank ',' (by decide)
    · exact ne_of_isNameChar inName ',' (by decide)
  have apart : ∀ part ∈ parts, ',' ∉ Text.squeezeInner part := by
    intro part member inside
    rw [Text.mem_squeezeInner_iff (by decide)] at inside
    exact noComma (listed.chars part member _ inside) rfl
  have whole : ∀ part ∈ parts, Text.Whole part := by
    intro part member
    have plain : IsPlain part := fun char inside => .inr (listed.chars part member char inside)
    exact Text.whole_of_undelimited plain.undelimited
  have squeezed : Text.squeezeInner (Text.join [','] parts) =
      Text.join [','] (parts.map Text.squeezeInner) :=
    Text.squeezeInner_join (by decide) (by decide) whole
  rw [squeezed, Text.join, List.splitOn_intercalate ',' (by simpa using apart) (by simpa using filled),
    List.map_map]
  exact List.map_congr_left fun part _ => Text.words_squeezeInner part

/-- Which names the items of a list bind is settled by their words. -/
theorem filterMap_boundName_congr {first second : List Text}
    (same : first.map Text.words = second.map Text.words) :
    first.filterMap boundName? = second.filterMap boundName? := by
  induction first generalizing second with
  | nil =>
    obtain rfl : second = [] := by simpa using same.symm
    rfl
  | cons piece pieces inductionHypothesis =>
    cases second with
    | nil => cases same
    | cons other others =>
      obtain ⟨words, later⟩ := List.cons.inj same
      have bound : boundName? piece = boundName? other := by rw [boundName?, words, boundName?]
      rw [List.filterMap_cons, List.filterMap_cons, bound, inductionHypothesis later]

/-- The brackets around a list are dropped, and nothing of a list without brackets. -/
theorem dropRounds {before list after : Text} (opening : ∀ char ∈ before, isRound char)
    (inside : ∀ char ∈ list, isRound char = false) (closing : ∀ char ∈ after, isRound char) :
    ((before ++ (list ++ after)).dropWhile isRound).rdropWhile isRound = list := by
  rw [List.dropWhile_append_of_pos opening]
  cases list with
  | nil =>
    have gone : after.dropWhile isRound = [] := by simpa using closing
    rw [List.nil_append, gone]
    rfl
  | cons first rest =>
    have starts : isRound first = false := inside first List.mem_cons_self
    have ends := List.getLast?_eq_some_getLast (List.cons_ne_nil first rest)
    have kept : (first :: rest ++ after).dropWhile isRound = first :: rest ++ after := by
      simp [starts]
    rw [kept, Text.rdropWhile_append_of_all closing]
    exact Text.rdropWhile_of_getLast ends (inside _ (List.mem_of_getLast? ends))

/-- A squeezed list binds the names of its items. -/
theorem Listed.names_squeezed {items : List ImportItem} {text : Text} (listed : Listed items text) :
    ((Text.squeezeInner text).splitOn ',').filterMap boundName? =
      items.map ImportItem.bound := by
  obtain ⟨parts, fits, rfl⟩ := listed.parts
  by_cases filled : parts = []
  · subst filled
    rw [← fits.names]
    rfl
  · rw [filterMap_boundName_congr (fits.words_squeezed filled), fits.names]

/-- A list without brackets has none when it is squeezed. -/
theorem Listed.unrounded {items : List ImportItem} {text : Text} (listed : Listed items text)
    {squeezed : Text} (same : Text.words squeezed = Text.words text) :
    ∀ char ∈ squeezed, isRound char = false := by
  have absent {sign : Char} (noComma : sign ≠ ',') (letter : Text.isBlank sign = false)
      (noName : isNameChar sign = false) : sign ∉ squeezed := by
    rw [Text.mem_iff_mem_words letter, same, ← Text.mem_iff_mem_words letter]
    exact listed.isPlain.absent noComma letter noName
  intro char member
  apply Bool.eq_false_iff.mpr
  intro round
  simp only [isRound, Bool.or_eq_true, beq_iff_eq] at round
  rcases round with rfl | rfl
  · exact absent (by decide) (by decide) (by decide) member
  · exact absent (by decide) (by decide) (by decide) member

/-- What is left of a list of items, once its words are joined again and brackets are
dropped, binds the names of the items. -/
theorem names_of_listsItems {items : List ImportItem} {text : Text} (lists : ListsItems items text) :
    (List.splitOn ',' (Text.dropEndWhile isRound
      ((Text.join " " (Text.words text)).dropWhile isRound))).filterMap boundName? =
        items.map ImportItem.bound := by
  cases lists with
  | bare listed =>
    have kept : ((Text.squeeze text).dropWhile isRound).rdropWhile isRound = Text.squeeze text := by
      have dropped := dropRounds (List.forall_mem_nil _) (listed.unrounded (Text.words_squeeze text))
        (List.forall_mem_nil _)
      rwa [List.nil_append, List.append_nil] at dropped
    have uncut (char : Char) (blank : Text.isBlank char) : (char == ',') = false :=
      beq_false_of_ne (Text.ne_of_isBlank blank ',' (by decide))
    rw [← Text.squeeze_eq_join_words listed.isPlain.undelimited, Text.dropEndWhile_eq_rdropWhile, kept,
      ← Text.trim_squeezeInner]
    exact (filterMap_boundName_congr (Text.map_words_split_trim uncut _)).trans listed.names_squeezed
  | @enclosed before inside after beforeBlank listed afterBlank =>
    have plain : ∀ char ∈ before ++ '(' :: (inside ++ ')' :: after), Text.isDelimiter char = false := by
      simp only [List.mem_append, List.mem_cons]
      rintro char (blank | rfl | inList | rfl | blank)
      · exact Text.isDelimiter_of_isBlank (beforeBlank char blank)
      · decide
      · exact listed.isPlain.undelimited char inList
      · decide
      · exact Text.isDelimiter_of_isBlank (afterBlank char blank)
    have squeezed : Text.squeeze (before ++ '(' :: (inside ++ ')' :: after)) =
        ['('] ++ (Text.squeezeInner inside ++ [')']) := by
      have inner : Text.squeezeInner ([] ++ '(' :: (inside ++ [')'])) =
          [] ++ '(' :: (Text.squeezeInner inside ++ [')']) := by
        rw [Text.squeezeInner_append_cons rfl (by decide) (by decide),
          Text.squeezeInner_append_cons (Text.whole_of_undelimited listed.isPlain.undelimited)
            (by decide) (by decide)]
        rfl
      have outer : before ++ '(' :: (inside ++ ')' :: after) =
          before ++ ('(' :: (inside ++ [')']) ++ after) := by simp
      have ends : Text.trimEnd (Text.squeezeInner inside ++ [')']) = Text.squeezeInner inside ++ [')'] :=
        Text.rdropWhile_append_cons (by decide) _ _
      rw [← Text.squeeze_trim, outer, Text.trim_between_blanks beforeBlank afterBlank,
        Text.squeeze_trim, ← Text.trim_squeezeInner, ← List.nil_append ('(' :: _), inner,
        Text.trim_append_cons (by decide), ends]
      rfl
    rw [← Text.squeeze_eq_join_words plain, squeezed, Text.dropEndWhile_eq_rdropWhile,
      dropRounds (by decide) (listed.unrounded (Text.words_squeezeInner inside)) (by decide),
      listed.names_squeezed]

/-- The names that a line binds by importing items from `cython` are those of the items. -/
theorem boundNames_of_import {text : Text} {items : List ImportItem}
    (imports : ImportsFromCython text items) : boundNames text = items.map ImportItem.bound := by
  obtain ⟨keyword, front, rest, isKeyword, spaced, apart, lists, rfl⟩ := imports
  have words : Text.words (front ++ rest) =
      "from".toList :: "cython".toList :: keyword :: Text.words rest := by
    rw [Text.words_append_of_apart apart, Text.words_of_spaced spaced]
    rfl
  simp only [boundNames, words, isKeyword, and_self, if_true]
  exact names_of_listsItems lists

/-- Only lines that start as imports from `cython` bind names. -/
theorem boundNames_eq_nil_of_not_starts {text : Text} (other : ¬StartsCythonImport text) :
    boundNames text = [] := by
  unfold boundNames
  split
  · rename_i first second third items words
    refine if_neg ?_
    rintro ⟨rfl, rfl, keyword⟩
    exact other ⟨third, items, words, keyword⟩
  · rfl

/-- The name of a decorator: what stands between the at sign and the first parenthesis. -/
def decoratorName (text : Text) : Text := Text.trim (text.tail.takeWhile (· != '('))

/-- A line of a file imports a name from `cython`, as its own or as another name. -/
def ImportedFromCython (lines : List Source.Line) (name : Text) : Prop :=
  ∃ line ∈ lines, ∃ items, ImportsFromCython line.text items ∧ ∃ item ∈ items, item.bound = name

/-- A name is that of the module `cython`, of something in it or of something imported from it. -/
def FromCython (lines : List Source.Line) (name : Text) : Prop :=
  name = "cython" ∨ "cython.".toList <+: name ∨ ImportedFromCython lines name

/-- All lines that start as imports from `cython` import items. -/
def ImportsListed (lines : List Source.Line) : Prop :=
  ∀ line ∈ lines, StartsCythonImport line.text → ∃ items, ImportsFromCython line.text items

/-- The names that a file is found to import from `cython` are those that it imports. -/
theorem binds_ofLines_iff {lines : List Source.Line} (listed : ImportsListed lines) (name : Text) :
    (CythonNames.ofLines lines).binds name ↔ ImportedFromCython lines name := by
  simp only [CythonNames.binds, CythonNames.ofLines, List.contains_iff_mem, List.mem_flatMap]
  refine exists_congr fun line => and_congr_right fun member => ?_
  constructor
  · intro bound
    by_cases starts : StartsCythonImport line.text
    · obtain ⟨items, imports⟩ := listed line member starts
      rw [boundNames_of_import imports] at bound
      exact ⟨items, imports, List.mem_map.mp bound⟩
    · rw [boundNames_eq_nil_of_not_starts starts] at bound
      cases bound
  · rintro ⟨items, imports, item, chosen, rfl⟩
    rw [boundNames_of_import imports]
    exact List.mem_map_of_mem chosen

/-- A decorator addresses the compiler exactly if its name is from `cython`. -/
theorem addressesCompiler_iff {lines : List Source.Line} (listed : ImportsListed lines) (text : Text) :
    addressesCompiler (CythonNames.ofLines lines) text.tail ↔ FromCython lines (decoratorName text) := by
  simp only [addressesCompiler, Bool.or_eq_true, beq_iff_eq, Text.startsWith, List.isPrefixOf_iff_prefix,
    binds_ofLines_iff listed, FromCython, decoratorName, or_assoc]

/-- A line with an at sign is a decorator, and a directive if it addresses the compiler. -/
theorem role_of_at {text : Text} (sign : text.head? = some '@') (names : CythonNames) :
    LineRole.of names text =
      if addressesCompiler names text.tail then .directive else .decorator := by
  have letter : Text.isBlank '@' = false := by decide
  obtain ⟨first, rest, words⟩ : ∃ first rest, Text.words text = first :: rest := by
    obtain ⟨word, _, _, ⟨_, words⟩ | ⟨_, _, _, _, words⟩⟩ := Text.words_cases sign letter
    · exact ⟨word, _, words⟩
    · exact ⟨word, _, words⟩
  obtain ⟨tail, rfl⟩ : ∃ tail, first = '@' :: tail := by
    have starts : first.head? = some '@' := Text.head_of_words sign letter words
    exact ⟨first.tail, List.eq_cons_of_mem_head? starts⟩
  have noImport : formsImport (Text.words text) = false := by
    rw [words]
    cases rest <;> simp [formsImport, isImportKeyword]
  have noDefinition : opensDefinition text = false := by
    simp [opensDefinition, words, startsPlain, plainKeyword, nativeKeywords]
  have whole : headerOf text = text := by simp [headerOf, noDefinition]
  rw [words] at noImport
  simp [LineRole.of, whole, LineRole.ofHeader, words, noImport, sign]

/-- Two files have the same lines that start as imports from `cython`, in whatever order and
how often each of them. -/
def SameImports (first second : List Source.Line) : Prop :=
  ∀ text, StartsCythonImport text →
    ((∃ line ∈ first, line.text = text) ↔ ∃ line ∈ second, line.text = text)

/-- Files with the same imports from `cython` bind the same names. -/
theorem binds_congr {first second : List Source.Line} (same : SameImports first second) (name : Text) :
    (CythonNames.ofLines first).binds name = (CythonNames.ofLines second).binds name := by
  have starts {text : Text} (bound : name ∈ boundNames text) : StartsCythonImport text := by
    by_contra other
    rw [boundNames_eq_nil_of_not_starts other] at bound
    cases bound
  rw [Bool.eq_iff_iff]
  simp only [CythonNames.binds, CythonNames.ofLines, List.contains_iff_mem, List.mem_flatMap]
  constructor
  · rintro ⟨line, member, bound⟩
    obtain ⟨other, found, text⟩ := (same line.text (starts bound)).mp ⟨line, member, rfl⟩
    exact ⟨other, found, text ▸ bound⟩
  · rintro ⟨line, member, bound⟩
    obtain ⟨other, found, text⟩ := (same line.text (starts bound)).mpr ⟨line, member, rfl⟩
    exact ⟨other, found, text ▸ bound⟩

/-- A decorator is left out of the stub exactly if its name is that of the module `cython`,
of something in it, or bound by an item that some line of the file imports from it. Every
other decorator is written to the stub. Nothing else in the file has a part in this: the
role is the same in every file with the same lines that import from `cython`. -/
theorem directive_iff_fromCython {content : Text} (listed : ImportsListed (readLines content))
    {line : Source.Line} (member : line ∈ readLines content) (sign : line.text.head? = some '@') :
    (LineRole.of (CythonNames.ofLines (readLines content)) line.text = .directive ↔
        FromCython (readLines content) (decoratorName line.text)) ∧
      (LineRole.of (CythonNames.ofLines (readLines content)) line.text = .decorator ↔
        ¬FromCython (readLines content) (decoratorName line.text)) ∧
      (∀ pairs entry, annotated content = .ok pairs → (line, entry) ∈ pairs →
        (entry.isKept ↔ ¬FromCython (readLines content) (decoratorName line.text))) ∧
      (∀ stub, generate content = .ok stub →
        ¬FromCython (readLines content) (decoratorName line.text) →
          List.replicate line.spaces ' ' ++ Text.squeeze line.text ∈ stub) ∧
      ∀ other, SameImports (readLines content) (readLines other) →
        LineRole.of (CythonNames.ofLines (readLines other)) line.text =
          LineRole.of (CythonNames.ofLines (readLines content)) line.text := by
  have role := role_of_at sign (CythonNames.ofLines (readLines content))
  rw [← addressesCompiler_iff listed line.text]
  refine ⟨?_, ?_, ?_, ?_, ?_⟩
  · rw [role]
    cases addressesCompiler _ line.text.tail <;> simp
  · rw [role]
    cases addressesCompiler _ line.text.tail <;> simp
  · intro pairs entry found inside
    rw [Entry.isKept, role_of_mem_annotated found inside, role]
    cases addressesCompiler _ line.text.tail <;> simp [LineRole.isDefinition]
  · intro stub generated outside
    rw [if_neg outside] at role
    obtain ⟨indentation, _, _, rfl⟩ := (generate_eq_ok_iff content stub).mp generated
    have definition : (LineRole.of (CythonNames.ofLines (readLines content)) line.text).isDefinition := by
      rw [role]
      rfl
    have contributes : (line, _) ∈ contributions (readLines content) indentation :=
      mem_contributions_of_isDefinition member definition
    rw [role] at contributes
    exact List.mem_append_right _
      (List.mem_flatMap.mpr ⟨_, contributes, List.mem_singleton_self _⟩)
  · intro other same
    rw [role, role_of_at sign, addressesCompiler, addressesCompiler, binds_congr same]

/-- A line that imports from `cython` with brackets, another name and a comma at the end. -/
def bracketedImport : Text := "from cython cimport ( boundscheck ,final as  sealed,)"

/-- A file with that line behind its decorators, and with the name `final` from elsewhere. -/
def decoratedSample : Text :=
  "@sealed\nclass A:\n    @final\n    def f(self): pass\n".toList ++ bracketedImport ++
    "\nfrom typing import final\n".toList

/-- The imports from `cython` in that file have a listed form: the one line with brackets. -/
theorem listed_decoratedSample : ImportsListed (readLines decoratedSample) := by
  have only : ∀ line ∈ readLines decoratedSample, line.text = bracketedImport ∨
      (Text.words line.text).take 2 ≠ ["from".toList, "cython".toList] := by decide
  intro line member starts
  rcases only line member with text | other
  · let plain : ImportItem := ⟨"boundscheck", none, ⟨by decide, by decide⟩, by simp⟩
    let renamed : ImportItem := ⟨"final", some "sealed", ⟨by decide, by decide⟩,
      by simpa using ⟨by decide, by decide⟩⟩
    have listed : Listed [plain, renamed] " boundscheck ,final as  sealed," :=
      ⟨[" boundscheck ".toList, "final as  sealed".toList], [[]],
        .cons (Text.spaced_iff.mpr (by decide)) (.cons (Text.spaced_iff.mpr (by decide)) .nil),
        .inr ⟨[], rfl, List.forall_mem_nil _⟩, by decide⟩
    have space : ∀ char ∈ " ".toList, Text.isBlank char := by decide
    have enclosed : ListsItems [plain, renamed] " ( boundscheck ,final as  sealed,)" :=
      .enclosed space listed (List.forall_mem_nil _)
    exact ⟨[plain, renamed], "cimport", "from cython cimport", " ( boundscheck ,final as  sealed,)",
      by decide, Text.spaced_iff.mpr (by decide), by decide, enclosed, text.trans (by decide)⟩
  · obtain ⟨keyword, rest, words, _⟩ := starts
    rw [words] at other
    exact absurd rfl other

/-- The decorator that goes by the other name is left out, and that with the name from
elsewhere is kept. -/
theorem directive_of_decoratedSample :
    LineRole.of (CythonNames.ofLines (readLines decoratedSample)) "@sealed" = .directive ∧
      FromCython (readLines decoratedSample) "sealed" ∧
      LineRole.of (CythonNames.ofLines (readLines decoratedSample)) "@final" = .decorator ∧
      ¬FromCython (readLines decoratedSample) "final" := by
  have first : (⟨1, 0, false, "@sealed"⟩ : Source.Line) ∈ readLines decoratedSample := by decide
  have second : (⟨3, 4, false, "@final"⟩ : Source.Line) ∈ readLines decoratedSample := by decide
  have imported : FromCython (readLines decoratedSample) "sealed" :=
    .inr (.inr ((binds_ofLines_iff listed_decoratedSample _).mp (by decide)))
  have elsewhere : ¬FromCython (readLines decoratedSample) "final" := by
    rintro (module | inside | bound)
    · exact absurd module (by decide)
    · exact absurd inside (by decide)
    · rw [← binds_ofLines_iff listed_decoratedSample] at bound
      exact absurd bound (by decide)
  exact ⟨(directive_iff_fromCython listed_decoratedSample first rfl).1.mpr imported, imported,
    (directive_iff_fromCython listed_decoratedSample second rfl).2.1.mpr elsewhere, elsewhere⟩

end PyxProject.Stub
