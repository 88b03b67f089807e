import PyxProject.Proofs.Source.Lines
import PyxProject.Proofs.Stub.Shown
import PyxProject.Proofs.Stub.Signatures

/-!
# Line ends in stubs

A stub is written as lines, so no line of it may hold a line end. Whatever a line of the
source holds, the text that is shown for it is made of its characters, of spaces and of
fixed words, and it ends in no blank (`getLast_shownText`). So no line of a stub holds a
line feed or ends in a carriage return, and a stub that is written to a file is read back
line by line as it was (`lines_render`).
-/

namespace PyxProject.Stub

open Source

/-- A text that holds no line feed. -/
def OneLine (text : Text) : Prop := '\n' ∉ text

instance (text : Text) : Decidable (OneLine text) := inferInstanceAs (Decidable (¬ _))

/-- Characters of a text without line feeds make a text without line feeds. -/
theorem OneLine.of_subset {text part : Text} (whole : OneLine text) (inside : part ⊆ text) :
    OneLine part := fun broken => whole (inside broken)

/-- Dropping at the end of a text without line feeds leaves one. -/
theorem OneLine.rdropWhile {text : Text} (whole : OneLine text) (drop : Char → Bool) :
    OneLine (text.rdropWhile drop) :=
  whole.of_subset (List.rdropWhile_prefix drop text).subset

/-- Two texts without line feeds make one. -/
theorem OneLine.append {first second : Text} (oneFirst : OneLine first) (oneSecond : OneLine second) :
    OneLine (first ++ second) := by
  intro broken
  rcases List.mem_append.mp broken with inside | inside
  · exact oneFirst inside
  · exact oneSecond inside

/-- Joining makes no line feeds. -/
theorem oneLine_join {separator : Text} (oneSeparator : OneLine separator) {pieces : List Text}
    (onePieces : ∀ piece ∈ pieces, OneLine piece) : OneLine (Text.join separator pieces) :=
  Text.holds_join OneLine List.not_mem_nil OneLine.append oneSeparator onePieces

/-- Words hold no line feeds, since a line feed is blank. -/
theorem oneLine_of_mem_words {text word : Text} (member : word ∈ Text.words text) : OneLine word := by
  intro broken
  cases (Text.letters_of_mem_words member).2 '\n' broken

/-- Trimming keeps characters of the text. -/
theorem trim_subset (text : Text) : Text.trim text ⊆ text := by
  obtain ⟨before, after, parts, _⟩ := Text.trim_append text
  intro char member
  rw [parts]
  simp [member]

/-- Squeezing a text without line feeds gives one: it puts in spaces only. -/
theorem OneLine.squeeze {text : Text} (whole : OneLine text) : OneLine (Text.squeeze text) := by
  have kept (pending : Bool) (marks : List Text.Mark) (oneLine : OneLine (Text.unmark marks)) :
      OneLine (Text.squeezeMarks pending marks) := by
    induction marks generalizing pending with
    | nil => exact oneLine
    | cons mark rest inductionHypothesis =>
      simp only [OneLine, Text.unmark, List.map_cons, List.mem_cons, not_or] at oneLine
      obtain ⟨other, restOneLine⟩ := oneLine
      have later (pending : Bool) : '\n' ∉ Text.squeezeMarks pending rest :=
        inductionHypothesis pending restOneLine
      rw [Text.squeezeMarks]
      split
      · exact later true
      · split <;> simp [OneLine, other, later]
  apply kept
  rw [Text.unmark_marks]
  exact whole.of_subset (trim_subset text)

/-- An import is written as words, as many as it has. -/
theorem words_of_importInStub (text : Text) :
    ∃ pieces, importInStub text = Text.join " " pieces ∧ (pieces = [] → Text.words text = []) ∧
      ∀ piece ∈ pieces, piece ≠ [] ∧ ∀ char ∈ piece, Text.isBlank char = false := by
  have words : ∀ word ∈ Text.words text, word ≠ [] ∧ ∀ char ∈ word, Text.isBlank char = false :=
    fun word => Text.letters_of_mem_words
  have keyword {word : Text} (isWord : word ≠ [] ∧ ∀ char ∈ word, Text.isBlank char = false) :
      plainImport word ≠ [] ∧ ∀ char ∈ plainImport word, Text.isBlank char = false := by
    unfold plainImport
    split
    · decide
    · exact isWord
  refine ⟨_, rfl, ?_, ?_⟩ <;> generalize Text.words text = written at words ⊢
  · rcases written with _ | ⟨first, _ | ⟨second, _ | ⟨third, rest⟩⟩⟩
    · simp
    · simp
    · simp
    · dsimp only
      split <;> simp
  · rcases written with _ | ⟨first, _ | ⟨second, _ | ⟨third, rest⟩⟩⟩
    · exact words
    · simpa using keyword (words first (by simp))
    · simp only [List.forall_mem_cons] at words ⊢
      exact ⟨keyword words.1, words.2⟩
    · simp only [List.forall_mem_cons] at words
      dsimp only
      split
      · simp only [List.forall_mem_cons]
        exact ⟨words.1, words.2.1, keyword words.2.2.1, words.2.2.2⟩
      · simp only [List.forall_mem_cons]
        exact ⟨keyword words.1, words.2⟩

/-- An import is written without line feeds, since its words hold none. -/
theorem oneLine_importInStub (text : Text) : OneLine (importInStub text) := by
  obtain ⟨pieces, written, _, words⟩ := words_of_importInStub text
  rw [written]
  apply oneLine_join (by decide)
  intro piece member broken
  cases (words piece member).2 '\n' broken

/-- The header of a class is written without line feeds. -/
theorem oneLine_classInStub {text : Text} (whole : OneLine text) : OneLine (classInStub text) := by
  unfold classInStub
  extract_lets words header signature
  have squeezed := whole.squeeze
  have headerOneLine : OneLine header := by
    cases kept : words.dropWhile (fun word => word != ("class" : Text)) with
    | nil =>
      simp only [header, kept]
      exact squeezed
    | cons first rest =>
      simp only [header, kept]
      apply oneLine_join (by decide)
      intro piece member
      rw [← kept] at member
      exact squeezed.of_subset (Text.subset_of_mem_splitOnP ((List.dropWhile_sublist _).subset member))
  have signatureOneLine : OneLine signature :=
    (headerOneLine.rdropWhile _).rdropWhile _
  split
  · split
    · rename_i kept found
      obtain ⟨rest, parts⟩ := append_of_beforeLastBracket found
      have keptOneLine : OneLine kept := by
        apply signatureOneLine.of_subset
        rw [parts]
        exact List.subset_append_left _ _
      exact (keptOneLine.rdropWhile _).append (by decide)
    · exact headerOneLine
  · exact headerOneLine

/-- The header of an enumeration is written without line feeds. -/
theorem oneLine_enumInStub (text : Text) : OneLine (enumInStub text) := by
  have name : OneLine ((Text.words text)[2]?.getD []) := by
    cases found : (Text.words text)[2]? with
    | none => decide
    | some word => exact oneLine_of_mem_words (List.mem_of_getElem? found)
  exact ((show OneLine "class ".toList by decide).append
    (name.rdropWhile _)).append (by decide)

/-- Replacing keywords makes no line feeds. -/
theorem oneLine_replaceKeywords {text : Text} (whole : OneLine text) :
    OneLine (replaceKeywords text) := by
  apply oneLine_join (by decide)
  intro piece member
  obtain ⟨word, inside, rfl⟩ := List.mem_map.mp member
  split
  · decide
  · exact whole.of_subset (Text.subset_of_mem_splitOnP inside)

/-- A type is shown without line feeds if its native form has none. -/
theorem oneLine_shownType {native : Text} (whole : OneLine native) (position : Position) :
    OneLine (shownType native position) := by
  rw [shownType]
  split
  · rename_i type _
    cases type <;> decide
  · exact whole.of_subset (trim_subset native)

/-- Moving stars makes no line feeds: the type and the name are made of words. -/
theorem oneLine_moveStars {type : List Text} {name : Text} (oneType : ∀ word ∈ type, OneLine word)
    (oneName : OneLine name) :
    OneLine (moveStars type name).1 ∧ OneLine (moveStars type name).2 :=
  ⟨(oneLine_join (by decide) oneType).append
      (oneName.of_subset (List.takeWhile_sublist _).subset),
    oneName.of_subset (List.dropWhile_sublist _).subset⟩

/-- An argument that is made of words and a default is written without line feeds. -/
theorem oneLine_write_ofWords {whole : Text} (oneWhole : OneLine whole) {words : List Text}
    (oneWords : ∀ word ∈ words, OneLine word) {default? : Option Text}
    (oneDefault : ∀ value ∈ default?, OneLine value) :
    OneLine (Argument.ofWords whole words default?).write := by
  have finish : OneLine (writeDefault default?) := by
    cases default? with
    | none => decide
    | some value => exact (show OneLine "=".toList by decide).append (oneDefault value rfl)
  rcases List.eq_nil_or_concat' words with rfl | ⟨type, word, rfl⟩
  · exact oneWhole
  · have oneName : OneLine word := oneWords word (by simp)
    by_cases alone : type = []
    · subst alone
      exact oneName.append finish
    · rw [ofWords_append _ alone]
      obtain ⟨native, name⟩ := oneLine_moveStars
        (fun word member => oneWords word (List.mem_append_left _ member)) oneName
      exact ((name.append (by decide)).append (oneLine_shownType native .argument)).append finish

/-- An argument is written without line feeds if it has none. -/
theorem oneLine_write_read {text : Text} (whole : OneLine text) :
    OneLine (Argument.read text).write := by
  have argument : OneLine (Text.trim text) := whole.of_subset (trim_subset text)
  have declared (declaration : Text) (default? : Option Text)
      (oneDefault : ∀ value ∈ default?, OneLine value) :
      OneLine (if carriesType declaration then Argument.verbatim (Text.trim text)
        else .ofWords (Text.trim text) (dropNoneClause (Text.words declaration)) default?).write := by
    split
    · exact argument
    · exact oneLine_write_ofWords argument
        (fun word member => oneLine_of_mem_words (dropNoneClause_subset _ member)) oneDefault
  cases found : assignmentCut? none (Text.placed (Text.trim text)) with
  | none =>
    have written := declared (Text.trim text) none (by simp)
    simp only [Argument.read, found]
    exact written
  | some parts =>
    obtain ⟨before, after⟩ := parts
    obtain ⟨first, place, rest, places, _, rfl, rfl⟩ := assignmentCut_parts found
    have oneRest : OneLine (Text.unplace rest) := by
      apply argument.of_subset
      rw [← Text.unplace_placed (Text.trim text), places]
      intro char member
      simp only [Text.unplace, List.map_append, List.map_cons, List.mem_append, List.mem_cons]
      exact .inr (.inr member)
    have written := declared (Text.trim (Text.unplace first)) (some (Text.trim (Text.unplace rest)))
      fun value same => Option.some.inj same ▸ oneRest.of_subset (trim_subset _)
    simp only [Argument.read, found]
    exact written

/-- The end of a bracket group is looked for in the marks that are given. -/
theorem subset_of_groupEnd {depth : Nat} {marked : List Text.Mark} {inside tail : Text}
    (found : Text.groupEnd? depth marked = some (inside, tail)) :
    inside ⊆ Text.unmark marked ∧ tail ⊆ Text.unmark marked := by
  induction marked generalizing depth inside with
  | nil => cases found
  | cons mark rest inductionHypothesis =>
    have later {depth : Nat} {shorter : Text}
        (found : Text.groupEnd? depth rest = some (shorter, tail)) :
        mark.char :: shorter ⊆ Text.unmark (mark :: rest) ∧ tail ⊆ Text.unmark (mark :: rest) := by
      obtain ⟨shorterInside, tailInside⟩ := inductionHypothesis found
      exact ⟨List.cons_subset_cons _ shorterInside, List.subset_cons_of_subset _ tailInside⟩
    unfold Text.groupEnd? at found
    split at found
    · split at found
      · cases found
      · split at found
        · obtain ⟨rfl, rfl⟩ := Prod.mk.inj (Option.some.inj found)
          exact ⟨List.nil_subset _, List.subset_cons_self _ _⟩
        · cases found
      · obtain ⟨⟨shorter, after⟩, ended, same⟩ := Option.map_eq_some_iff.mp found
        obtain ⟨rfl, rfl⟩ := Prod.mk.inj same
        exact later ended
    · obtain ⟨⟨shorter, after⟩, ended, same⟩ := Option.map_eq_some_iff.mp found
      obtain ⟨rfl, rfl⟩ := Prod.mk.inj same
      exact later ended

/-- The parts of a bracket group are parts of the text. -/
theorem subset_of_firstGroup {text : Text} {group : Text.Group}
    (found : Text.firstGroup? text = some group) : group.inside ⊆ text ∧ group.tail ⊆ text := by
  unfold Text.firstGroup? at found
  extract_lets head at found
  obtain ⟨⟨inside, tail⟩, ended, rfl⟩ := Option.map_eq_some_iff.mp found
  obtain ⟨insideSubset, tailSubset⟩ := subset_of_groupEnd ended
  have marked : Text.unmark ((Text.marks text).drop head.length) ⊆ text := by
    nth_rewrite 2 [← Text.unmark_marks text]
    exact ((List.drop_sublist _ _).map Text.Mark.char).subset
  have group : inside.drop 1 ⊆ text :=
    List.Subset.trans (List.Subset.trans (List.drop_sublist 1 inside).subset insideSubset) marked
  exact ⟨group, List.Subset.trans tailSubset marked⟩

/-- What follows the first arrow is part of the text. -/
theorem subset_of_afterArrow {text rest : Text} (found : afterArrow? text = some rest) :
    rest ⊆ text := by
  fun_induction afterArrow? text with
  | case1 after =>
    obtain rfl := Option.some.inj found
    exact List.subset_cons_of_subset _ (List.subset_cons_self _ _)
  | case2 char after _ inductionHypothesis =>
    exact List.subset_cons_of_subset _ (inductionHypothesis found)
  | case3 => cases found

/-- Arguments are read without line feeds from a text that has none. -/
theorem oneLine_readArguments {inside : Text} (whole : OneLine inside) :
    ∀ argument ∈ readArguments inside, OneLine argument.write := by
  intro argument member
  obtain ⟨text, kept, rfl⟩ := List.mem_map.mp member
  obtain ⟨piece, cut, rfl⟩ := List.mem_map.mp (List.mem_of_mem_filter kept)
  obtain ⟨places, found, rfl⟩ := List.mem_map.mp cut
  have pieceInside : Text.unplace places ⊆ Text.unplace (Text.placed inside) :=
    List.map_subset _ (Text.subset_of_mem_splitOnP found)
  rw [Text.unplace_placed] at pieceInside
  exact oneLine_write_read ((whole.of_subset pieceInside).of_subset (trim_subset _))

/-- A return type that is given after an arrow has no line feeds if the header has none. -/
theorem oneLine_explicitReturn {tail type : Text} (whole : OneLine tail)
    (found : explicitReturn? tail = some type) : OneLine type := by
  obtain ⟨rest, after, given⟩ := Option.bind_eq_some_iff.mp found
  unfold filled? at given
  split at given
  · cases given
  · obtain rfl := Option.some.inj given
    have followed : OneLine rest :=
      (whole.of_subset (trim_subset _)).of_subset (subset_of_afterArrow after)
    exact followed.of_subset (trim_subset _)

/-- A signature is written without line feeds if its parts have none. -/
theorem oneLine_write {signature : Signature} (name : OneLine signature.name)
    (returns : ∀ type ∈ signature.returns?, OneLine type)
    (arguments : ∀ argument ∈ signature.arguments, OneLine argument.write) :
    OneLine signature.write := by
  have list : OneLine (Text.join ", " (signature.arguments.map Argument.write)) := by
    apply oneLine_join (by decide)
    simpa using arguments
  have keyword : OneLine (plainKeyword ++ " ".toList) := by decide
  have opened : OneLine "(".toList := by decide
  have closed : OneLine ")".toList := by decide
  have colon : OneLine ":".toList := by decide
  have front := (((keyword.append name).append opened).append list).append closed
  unfold Signature.write
  cases given : signature.returns? with
  | none =>
    have nothing : OneLine [] := by decide
    simp only
    exact (front.append nothing).append colon
  | some type =>
    have arrow : OneLine " -> ".toList := by decide
    have result := arrow.append (oneLine_shownType (returns type given) .result)
    simp only
    exact (front.append result).append colon

/-- A signature that is read from a header without line feeds is written without any. -/
theorem oneLine_signature {header : Text} (whole : OneLine header) {signature : Signature}
    (read : NativeHeader.read header = .signature signature) : OneLine signature.write := by
  simp only [NativeHeader.read] at read
  split at read
  · cases read
  · rename_i group found
    have text : OneLine (Text.trimEnd (dropColons header)) :=
      (whole.rdropWhile _).rdropWhile _
    obtain ⟨inside, tail⟩ := subset_of_firstGroup found
    split at read
    · cases read
    · rename_i word last
      obtain rfl := NativeHeader.signature.inj read
      have words : ∀ word ∈ declarationWords group.head, OneLine word := fun word member =>
        oneLine_of_mem_words (List.mem_of_mem_filter ((List.dropWhile_sublist _).subset member))
      obtain ⟨native, name⟩ := oneLine_moveStars
        (fun word member => words word ((List.dropLast_sublist _).subset member))
        (words word (List.mem_of_getLast? last))
      refine oneLine_write name ?_ (oneLine_readArguments (text.of_subset inside))
      intro type given
      rcases Option.or_eq_some_iff.mp given with explicit | ⟨_, declared⟩
      · exact oneLine_explicitReturn (text.of_subset tail) explicit
      · unfold filled? at declared
        split at declared
        · cases declared
        · obtain rfl := Option.some.inj declared
          exact native

/-- A header is written without line feeds if it has none. -/
theorem oneLine_functionInStub {native : Bool} {text : Text} (whole : OneLine text) :
    OneLine (functionInStub native text) := by
  have header := whole.squeeze
  unfold functionInStub
  dsimp only
  split
  · split
    · rename_i signature read
      exact oneLine_signature header read
    · exact oneLine_replaceKeywords header
    · exact oneLine_replaceKeywords header
  · exact header

/-- The text of a line in the stub holds no line feed if the line holds none. -/
theorem oneLine_shownText {text : Text} (whole : OneLine text) (role : LineRole) :
    OneLine (shownText role text) := by
  have header : OneLine (headerOf text) := by
    rcases headerOf_cases text with same | ⟨body, cut, _⟩
    · rwa [same]
    · apply whole.of_subset
      nth_rewrite 2 [cut]
      exact List.subset_append_left _ _
  have squeezed := whole.squeeze
  cases role with
  | importStatement => simpa only [shownText] using oneLine_importInStub text
  | classHeader => simpa only [shownText] using oneLine_classInStub whole
  | enumHeader => simpa only [shownText] using oneLine_enumInStub text
  | functionHeader native => simpa only [shownText] using oneLine_functionInStub header
  | _ => simpa only [shownText] using squeezed

/-- The header of a class is written with a colon at its end. -/
theorem getLast_classInStub {text : Text} (tight : Text.Tight text)
    (ends : text.getLast? = some ':') : (classInStub text).getLast? = some ':' := by
  have squeezed : (Text.squeeze text).getLast? = some ':' := by
    rw [Text.getLast_squeeze tight, ends]
  unfold classInStub
  extract_lets words header signature
  have headerEnds : header.getLast? = some ':' := by
    cases kept : words.dropWhile (fun word => word != ("class" : Text)) with
    | nil =>
      simp only [header, kept]
      exact squeezed
    | cons first rest =>
      simp only [header, kept]
      obtain ⟨piece, final, pieceEnds⟩ := Text.getLast_splitOnP (· == ' ') squeezed (by decide)
      refine Text.getLast_join (?_ : _ = some piece) pieceEnds
      obtain ⟨dropped, whole⟩ := List.dropWhile_suffix (fun word => word != ("class" : Text))
        (l := words)
      rw [kept] at whole
      have lastWord : words.getLast? = some piece := final
      rwa [← whole, List.getLast?_append_of_ne_nil _ (List.cons_ne_nil _ _)] at lastWord
  split
  · split
    · rw [List.getLast?_append]
      rfl
    · exact headerEnds
  · exact headerEnds

/-- An import ends as its last word does, which is no blank. -/
theorem getLast_importInStub {text : Text} (imports : formsImport (Text.words text)) :
    ∃ char, (importInStub text).getLast? = some char ∧ Text.isBlank char = false := by
  obtain ⟨pieces, written, filled, words⟩ := words_of_importInStub text
  have nonempty : pieces ≠ [] := by
    intro empty
    rw [filled empty] at imports
    cases imports
  have final := List.getLast?_eq_some_getLast nonempty
  obtain ⟨wordFilled, letters⟩ := words _ (List.getLast_mem nonempty)
  have ends := List.getLast?_eq_some_getLast wordFilled
  rw [written]
  exact ⟨_, Text.getLast_join final ends, letters _ (List.getLast_mem wordFilled)⟩

/-- The text of a line in the stub ends in no blank. -/
theorem getLast_shownText (names : CythonNames) {text : Text} (tight : Text.Tight text) :
    ∃ char, (shownText (LineRole.of names text) text).getLast? = some char ∧
      Text.isBlank char = false := by
  have squeezed : ∃ char, (Text.squeeze text).getLast? = some char ∧ Text.isBlank char = false :=
    (Text.tight_squeeze tight).last
  have colon : Text.isBlank ':' = false := by decide
  have ofHeader {line : Text} (header : isHeaderLine line) :
      ∃ char, line.getLast? = some char ∧ Text.isBlank char = false := by
    simp only [isHeaderLine, Bool.and_eq_true, beq_iff_eq] at header
    exact ⟨':', header.1, colon⟩
  cases role : LineRole.of names text with
  | importStatement =>
    simpa only [shownText] using
      getLast_importInStub (fitsRole_of_role role (by decide) (by simp))
  | classHeader =>
    obtain ⟨ends, _⟩ := fitsRole_of_role role (by decide) (by simp)
    simp only [shownText]
    exact ⟨':', getLast_classInStub tight ends, colon⟩
  | enumHeader => exact ofHeader (isHeaderLine_enumInStub text)
  | functionHeader native =>
    exact ofHeader (isHeaderLine_functionInStub (tight_headerOf tight) (fitsRole_headerOf role)).1
  | _ => simpa only [shownText] using squeezed

/-- No line of a stub holds a line feed or ends in a carriage return. -/
theorem plain_of_mem_stub {content : Text} {stub : List Text} (generated : generate content = .ok stub) :
    ∀ line ∈ stub, '\n' ∉ line ∧ line.getLast? ≠ some '\r' := by
  obtain ⟨indentation, _, _, rfl⟩ := (generate_eq_ok_iff content stub).mp generated
  intro line member
  rcases List.mem_append.mp member with inHeading | inBody
  · unfold heading at inHeading
    split at inHeading
    · rcases List.mem_cons.mp inHeading with rfl | last
      · decide
      · obtain rfl := List.mem_singleton.mp last
        decide
    · cases inHeading
  · obtain ⟨⟨found, role⟩, contributes, written⟩ := List.mem_flatMap.mp inBody
    obtain ⟨inside, rfl, _⟩ := role_of_mem_contributions contributes
    have header := oneLine_indented found.spaces
      (oneLine_shownText (oneLine_of_mem_readLines inside) _)
      (getLast_shownText (CythonNames.ofLines (readLines content)) (tight_of_mem_readLines inside))
    have body := oneLine_indented (found.spaces + indentation.step) (show OneLine ellipsis by decide)
      ⟨'.', rfl, by decide⟩
    unfold writtenLines at written
    dsimp only at written
    split at written
    · rcases List.mem_cons.mp written with rfl | last
      · exact header
      · obtain rfl := List.mem_singleton.mp last
        exact body
    · obtain rfl := List.mem_singleton.mp written
      exact header

/-- A stub that is written out is read back line by line. -/
theorem lines_render {content : Text} {stub : List Text} (generated : generate content = .ok stub) :
    Text.lines (render stub) = stub :=
  Text.lines_unlines (plain_of_mem_stub generated)

end PyxProject.Stub
