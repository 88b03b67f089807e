import PyxProject.Proofs.Text.TopLevel
import PyxProject.Stub.Signature

/-!
# Brackets in written signatures

A native header is taken apart and written in another order. What its argument list
holds is closed, and reading and writing an argument keeps that, as long as no literal is
torn apart: a word of a type must not hold one. So a written signature leaves open what
its name and its return type leave open, and nothing else (`openBrackets_write`).
-/

namespace PyxProject.Stub

open Source

/-- Whether a character is a delimiter or a bracket. -/
def isSpecial (char : Char) : Bool :=
  Text.isDelimiter char || Text.isOpening char || Text.isClosing char

/-- Delimiters and brackets are no letters: they are not blank and have no lower case. -/
theorem special_cases {char : Char} (special : isSpecial char) :
    Text.isBlank char = false ∧ char ≠ ' ' ∧ char ≠ 'Σ' ∧ char ≠ 'İ' ∧
      Text.lowerChar char = char := by
  simp only [isSpecial, Text.isDelimiter, Text.isOpening, Text.isClosing, Bool.or_eq_true,
    beq_iff_eq] at special
  rcases special with ((rfl | rfl) | (rfl | rfl) | rfl) | (rfl | rfl) | rfl <;> decide

/-- Lower case keeps delimiters and brackets. -/
theorem mem_lowercase {char : Char} (special : isSpecial char) {text : Text} (member : char ∈ text) :
    char ∈ Text.lowercase text := by
  obtain ⟨_, _, noSigma, noDotted, same⟩ := special_cases special
  have kept (before : Text) : char ∈ Text.lowerAfter before text := by
    induction text generalizing before with
    | nil => cases member
    | cons first rest inductionHypothesis =>
      rw [Text.lowerAfter]
      rcases List.mem_cons.mp member with rfl | later
      · simp [noSigma, noDotted, same]
      · exact List.mem_append_right _ (inductionHypothesis later (first :: before))
  exact kept []

/-- Attaching stars removes spaces only. -/
theorem mem_attachStars {char : Char} (noSpace : char ≠ ' ') {text : Text} (member : char ∈ text) :
    char ∈ attachStars text := by
  fun_induction attachStars text with
  | case1 rest inductionHypothesis =>
    simp only [List.mem_cons, noSpace, false_or] at member ⊢
    exact member.imp_right inductionHypothesis
  | case2 first rest _ inductionHypothesis =>
    simp only [List.mem_cons] at member ⊢
    exact member.imp_right inductionHypothesis
  | case3 => cases member

/-- A spelling that is looked up holds the delimiters and brackets of the native type. -/
theorem mem_normalize {char : Char} (special : isSpecial char) {native : Text}
    (member : char ∈ native) : char ∈ normalize native := by
  obtain ⟨letter, noSpace, _⟩ := special_cases special
  obtain ⟨word, found, inside⟩ := (Text.mem_iff_mem_words letter).mp member
  exact mem_lowercase special (mem_attachStars noSpace (Text.mem_join " " found inside))

/-- A native type with a Python type holds no delimiter and no bracket. -/
theorem plain_of_pythonType {native : Text} {position : Position} {type : PythonType}
    (known : pythonType? native position = some type) :
    ∀ char ∈ native, isSpecial char = false := by
  have table : ∀ entry ∈ nativeTypes, ∀ char ∈ entry.1, isSpecial char = false := by decide
  have key : ∀ char ∈ normalize native, isSpecial char = false := by
    by_cases void : normalize native = "void".toList
    · rw [void]
      decide
    · simp only [pythonType?, void, if_false] at known
      obtain ⟨entry, found, _⟩ := Option.map_eq_some_iff.mp known
      have same : entry.1 = normalize native := by simpa using List.find?_some found
      rw [← same]
      exact table entry (List.mem_of_find?_eq_some found)
  intro char member
  apply Bool.eq_false_iff.mpr
  intro special
  rw [key char (mem_normalize special member)] at special
  cases special

/-- A shown type leaves open what the native type leaves open. -/
theorem openBrackets_shownType (native : Text) (position : Position) :
    Text.openBrackets (shownType native position) = Text.openBrackets native := by
  rw [shownType]
  cases known : pythonType? native position with
  | none => exact Text.openBrackets_trim native
  | some type =>
    have plain := plain_of_pythonType known
    have unbracketed : ∀ char ∈ native, Text.isOpening char = false ∧ Text.isClosing char = false := by
      intro char member
      have special := plain char member
      simp only [isSpecial, Bool.or_eq_false_iff] at special
      exact ⟨special.1.2, special.2⟩
    rw [Text.openBrackets_of_unbracketed unbracketed]
    change Text.openBrackets type.spelling = 0
    cases type <;> decide

/-- A type whose literals end in it is shown as such. -/
theorem whole_shownType {native : Text} (whole : Text.Whole native) (position : Position) :
    Text.Whole (shownType native position) := by
  rw [shownType]
  cases pythonType? native position with
  | none => exact (Text.whole_trim_iff native).mpr whole
  | some type => cases type <;> rfl

/-- A default is cut off at an equals sign outside brackets. -/
theorem assignmentCut_parts {previous : Option Char} {places : List Text.Placed}
    {before after : Text} (found : assignmentCut? previous places = some (before, after)) :
    ∃ first place rest, places = first ++ place :: rest ∧ place.isTop '=' ∧
      before = Text.unplace first ∧ after = Text.unplace rest := by
  induction places generalizing previous before with
  | nil => cases found
  | cons place places inductionHypothesis =>
    rw [assignmentCut?] at found
    split at found
    · rename_i equals
      obtain ⟨rfl, rfl⟩ := Prod.mk.inj (Option.some.inj found)
      simp only [Bool.and_eq_true] at equals
      exact ⟨[], place, places, rfl, equals.1.1, rfl, rfl⟩
    · obtain ⟨⟨shorter, rest⟩, inner, same⟩ := Option.map_eq_some_iff.mp found
      obtain ⟨rfl, rfl⟩ := Prod.mk.inj same
      obtain ⟨first, equals, rest, rfl, top, rfl, rfl⟩ := inductionHypothesis inner
      exact ⟨place :: first, equals, rest, rfl, top, rfl, rfl⟩

/-- An argument that is made of the words of a declaration and a default. -/
def Argument.ofWords (whole : Text) (words : List Text) (default? : Option Text) : Argument :=
  match words.getLast?, words.dropLast with
  | none, _ => .verbatim whole
  | some word, [] => .bare word default?
  | some word, type =>
    let (native, name) := moveStars type word
    .typed name native default?

/-- A clause on `None` is dropped from words that stay otherwise. -/
theorem dropNoneClause_subset (words : List Text) : dropNoneClause words ⊆ words := by
  unfold dropNoneClause
  split
  · rename_i last beforeLast rest reversed
    split
    · intro word member
      rw [← List.mem_reverse, reversed]
      exact List.mem_cons_of_mem _ (List.mem_cons_of_mem _ (List.mem_reverse.mp member))
    · exact List.Subset.refl _
  · exact List.Subset.refl _

/-- The last of several words is the name, without the stars that go to the type. -/
theorem ofWords_append (whole : Text) {type : List Text} (filled : type ≠ []) (word : Text)
    (default? : Option Text) :
    Argument.ofWords whole (type ++ [word]) default? =
      .typed (word.dropWhile (· == '*')) (Text.join " " type ++ word.takeWhile (· == '*'))
        default? := by
  rw [Argument.ofWords, List.getLast?_concat, List.dropLast_concat]
  obtain ⟨first, rest, rfl⟩ := List.exists_cons_of_ne_nil filled
  rfl

section Declarations

variable {stops : Char → Bool} (letters : ∀ char, Text.isBlank char → stops char = false)
include letters

/-- The words of an unbroken declaration, without a clause on `None`, are unbroken, if no
stop is a letter of such a clause. -/
theorem unbroken_declaration (plain : ∀ char ∈ "notreN".toList, stops char = false)
    {declaration : Text} (unbroken : Text.Unbroken stops declaration)
    (trimmed : declaration = [] ∨ Text.Tight declaration) :
    Text.Unbroken stops (Text.join " " (dropNoneClause (Text.words declaration))) := by
  have all : Text.Unbroken stops (Text.join " " (Text.words declaration)) := by
    rcases trimmed with rfl | tight
    · exact unbroken
    · exact (Text.unbroken_join_words letters tight).mpr unbroken
  rw [dropNoneClause]
  split
  · rename_i last beforeLast rest reversed
    split
    · rename_i clause
      obtain ⟨rfl, negated, filled⟩ := clause
      have parts : Text.words declaration = rest.reverse ++ [beforeLast, "None".toList] := by
        rw [← List.reverse_reverse (Text.words declaration), reversed]
        simp
      have neutral : ∀ char ∈ " ".toList ++ Text.join " " [beforeLast, "None".toList],
          Text.isNeutral char ∧ (Text.isBlank char ∨ char ∈ "notreN".toList) := by
        rcases negated with rfl | rfl <;> decide
      rw [parts, Text.join_append _ (by simpa using filled) (List.cons_ne_nil _ _)] at all
      refine (Text.unbroken_append_neutral (fun char member => ?_) _).mp all
      exact ⟨(neutral char member).1, (neutral char member).2.elim (letters char) (plain char)⟩
    · exact all
  · exact all

/-- An argument is read from its declaration and its default. Both are unbroken if the
argument is, and they have no blanks around them. -/
theorem read_eq {text : Text} (unbroken : Text.Unbroken stops text) :
    ∃ declaration default?, Text.Unbroken stops declaration ∧
      (declaration = [] ∨ Text.Tight declaration) ∧
      (∀ value ∈ default?, Text.Unbroken stops value ∧ (value = [] ∨ Text.Tight value)) ∧
      Argument.read text =
        if carriesType declaration then .verbatim (Text.trim text)
        else .ofWords (Text.trim text) (dropNoneClause (Text.words declaration)) default? := by
  have trimmed := (Text.unbroken_trim_iff letters text).mpr unbroken
  cases found : assignmentCut? none (Text.placed (Text.trim text)) with
  | none =>
    refine ⟨Text.trim text, none, trimmed, Text.tight_trim text, by simp, ?_⟩
    simp only [Argument.read, found]
    rfl
  | some parts =>
    obtain ⟨before, after⟩ := parts
    obtain ⟨first, place, rest, whole, top, rfl, rfl⟩ := assignmentCut_parts found
    obtain ⟨unbrokenFirst, unbrokenRest⟩ := trimmed.cut whole top (by decide)
    refine ⟨Text.trim (Text.unplace first), some (Text.trim (Text.unplace rest)),
      (Text.unbroken_trim_iff letters _).mpr unbrokenFirst, Text.tight_trim _, ?_, ?_⟩
    · intro value same
      obtain rfl := Option.some.inj same
      exact ⟨(Text.unbroken_trim_iff letters _).mpr unbrokenRest, Text.tight_trim _⟩
    · simp only [Argument.read, found]
      rfl

end Declarations

/-- The native type of an argument, if it declares one. -/
def Argument.native : Argument → Text
  | .typed _ native _ => native
  | .verbatim _ | .bare _ _ => []

/-- A default is written balanced. -/
theorem balanced_writeDefault {default? : Option Text}
    (values : ∀ value ∈ default?, Text.Balanced value) : Text.Balanced (writeDefault default?) := by
  cases default? with
  | none => exact Text.balanced_of_neutral (List.forall_mem_nil _)
  | some value => exact (Text.balanced_of_neutral (by decide)).append (values value rfl)

/-- The stars in front of a name are neutral. -/
theorem neutral_stars (word : Text) : ∀ char ∈ word.takeWhile (· == '*'), Text.isNeutral char := by
  intro char member
  obtain rfl : char = '*' := by simpa using List.mem_takeWhile_imp member
  decide

/-- The words of a typed declaration are its type, neutral characters and its name. -/
theorem join_typed {type : List Text} (filled : type ≠ []) (word : Text) :
    Text.join " " (type ++ [word]) =
      Text.join " " type ++ (" " ++ word.takeWhile (· == '*') ++ word.dropWhile (· == '*')) := by
  rw [Text.join_append _ filled (List.cons_ne_nil _ _), Text.join, Text.join,
    List.intercalate_singleton, List.append_assoc, List.takeWhile_append_dropWhile]

/-- The name in a balanced declaration closes what its type leaves open, if literals that
open in the type end there. -/
theorem parts_of_typed {type : List Text} (filled : type ≠ []) {word : Text}
    (balanced : Text.Balanced (Text.join " " (type ++ [word])))
    (whole : Text.Whole (Text.join " " type ++ word.takeWhile (· == '*'))) :
    Text.Whole (Text.join " " type) ∧ Text.Whole (word.dropWhile (· == '*')) ∧
      Text.openBrackets (Text.join " " type ++ word.takeWhile (· == '*')) =
        Text.openBrackets (Text.join " " type) ∧
      Text.openBrackets (Text.join " " type) + Text.openBrackets (word.dropWhile (· == '*')) = 0 := by
  obtain ⟨native, literals⟩ := Text.reading_append_neutral (neutral_stars word) (Text.join " " type)
  have typeWhole : Text.Whole (Text.join " " type) := literals.mp whole
  have space : Text.Balanced (" " ++ word.takeWhile (· == '*')) :=
    .append (Text.balanced_of_neutral (by decide)) (Text.balanced_of_neutral (neutral_stars word))
  rw [join_typed filled] at balanced
  refine ⟨typeWhole, ?_, native, ?_⟩
  · exact (space.literals.append_iff _).mp ((typeWhole.append_iff _).mp balanced.literals)
  · have sum := balanced.brackets
    rwa [typeWhole.openBrackets_append, space.literals.openBrackets_append, space.brackets,
      Int.zero_add] at sum

/-- A name with its type is written balanced if the words it is read from are balanced and
literals that open in the type end there. -/
theorem balanced_write_typed {type : List Text} (filled : type ≠ []) {word : Text}
    (balanced : Text.Balanced (Text.join " " (type ++ [word])))
    (whole : Text.Whole (Text.join " " type ++ word.takeWhile (· == '*')))
    {default? : Option Text} (values : ∀ value ∈ default?, Text.Balanced value) :
    Text.Balanced (Argument.typed (word.dropWhile (· == '*'))
      (Text.join " " type ++ word.takeWhile (· == '*')) default?).write := by
  obtain ⟨_, nameWhole, native, total⟩ := parts_of_typed filled balanced whole
  have shownWhole := whole_shownType whole .argument
  have colon : Text.Balanced ":".toList := Text.balanced_of_neutral (by decide)
  have finish := balanced_writeDefault values
  simp only [Argument.write, List.append_assoc]
  constructor
  · rw [nameWhole.append_iff, colon.literals.append_iff, shownWhole.append_iff]
    exact finish.literals
  · rw [nameWhole.openBrackets_append, colon.literals.openBrackets_append,
      shownWhole.openBrackets_append, colon.brackets, finish.brackets, openBrackets_shownType, native,
      Int.zero_add, Int.add_zero, Int.add_comm, total]

/-- A closed argument is written balanced, unless its type holds a literal. -/
theorem balanced_write_read {text : Text} (closed : Text.Closed text)
    (undelimited : ∀ char ∈ (Argument.read text).native, Text.isDelimiter char = false) :
    Text.Balanced (Argument.read text).write := by
  obtain ⟨declaration, default?, unbroken, trimmed, values, read⟩ :=
    read_eq (fun _ _ => rfl) closed.unbroken
  have balanced :=
    (unbroken_declaration (fun _ _ => rfl) (fun _ _ => rfl) unbroken trimmed).closed.balanced
  replace values : ∀ value ∈ default?, Text.Balanced value := fun value same =>
    (values value same).1.closed.balanced
  by_cases annotated : carriesType declaration
  · rw [read, if_pos annotated]
    exact closed.trim.balanced
  · rw [read, if_neg annotated] at undelimited ⊢
    generalize dropNoneClause (Text.words declaration) = words at balanced undelimited ⊢
    rcases List.eq_nil_or_concat' words with rfl | ⟨type, word, rfl⟩
    · exact closed.trim.balanced
    · by_cases alone : type = []
      · subst alone
        rw [List.nil_append, Text.join, List.intercalate_singleton] at balanced
        exact balanced.append (balanced_writeDefault values)
      · rw [ofWords_append _ alone] at undelimited ⊢
        exact balanced_write_typed alone balanced (Text.whole_of_undelimited undelimited) values

/-- The arguments of a native header, if it can be read. -/
def declaredArguments (header : Text) : List Argument :=
  match NativeHeader.read header with
  | .signature signature => signature.arguments
  | .noArguments | .noName => []

/-- Literals stand in annotations and defaults only: none comes before the parentheses, and
no native type holds one. -/
def LiteralsInside (header : Text) : Prop :=
  (∀ char ∈ header.takeWhile (· != '('), Text.isDelimiter char = false) ∧
    ∀ argument ∈ declaredArguments header, ∀ char ∈ argument.native, Text.isDelimiter char = false

instance (header : Text) : Decidable (LiteralsInside header) :=
  inferInstanceAs (Decidable (_ ∧ _))

/-- The parts of a signature come from the first bracket group of the header and from a
word before it. -/
theorem signature_parts {header : Text} {signature : Signature}
    (read : NativeHeader.read header = .signature signature) :
    ∃ group word, Text.firstGroup? (Text.trimEnd (dropColons header)) = some group ∧
      word ∈ Text.words group.head ∧ signature.name = word.dropWhile (· == '*') ∧
      signature.arguments = readArguments group.inside := by
  simp only [NativeHeader.read] at read
  split at read
  · cases read
  · rename_i group found
    split at read
    · cases read
    · rename_i word last
      obtain rfl := NativeHeader.signature.inj read
      have member : word ∈ declarationWords group.head := List.mem_of_getLast? last
      refine ⟨group, word, found, ?_, rfl, rfl⟩
      exact List.mem_of_mem_filter ((List.dropWhile_sublist _).subset member)

/-- The arguments of a closed list are written balanced, if their types hold no literals. -/
theorem balanced_arguments {inside : Text} (closed : Text.Closed inside)
    (undelimited : ∀ argument ∈ readArguments inside, ∀ char ∈ argument.native,
      Text.isDelimiter char = false) :
    Text.Balanced (Text.join ", " ((readArguments inside).map Argument.write)) := by
  apply Text.balanced_join (Text.balanced_of_neutral (by decide))
  intro written member
  obtain ⟨argument, read, rfl⟩ := List.mem_map.mp member
  obtain ⟨text, kept, rfl⟩ := List.mem_map.mp read
  obtain ⟨piece, cut, rfl⟩ := List.mem_map.mp (List.mem_of_mem_filter kept)
  have closedPiece := Text.closed_of_mem_splitTop (by decide) closed piece cut
  exact balanced_write_read closedPiece.trim (undelimited _ read)

/-- A signature leaves open what its name and its return type leave open. -/
theorem openBrackets_write {header : Text} {signature : Signature}
    (read : NativeHeader.read header = .signature signature) (literals : LiteralsInside header) :
    Text.openBrackets signature.write =
      Text.openBrackets signature.name + Text.openBrackets (signature.returns?.getD []) := by
  obtain ⟨group, word, found, member, name, arguments⟩ := signature_parts read
  obtain ⟨before, types⟩ := literals
  have head : ∀ char ∈ group.head, Text.isDelimiter char = false := by
    obtain ⟨colons, whole, _⟩ := Text.rdropWhile_append (· == ':') header
    obtain ⟨blanks, shorter, _⟩ := Text.rdropWhile_append Text.isBlank (dropColons header)
    have beginning : header = Text.trimEnd (dropColons header) ++ (blanks ++ colons) := by
      rw [Text.trimEnd, Text.dropEndWhile_eq_rdropWhile, ← List.append_assoc, ← shorter]
      exact whole
    intro char inside
    apply before
    rw [Text.head_of_firstGroup found] at inside
    rw [beginning, List.takeWhile_append]
    split
    · exact List.mem_append_left _ ((List.takeWhile_prefix _).subset inside)
    · exact inside
  have closed : Text.Closed group.inside :=
    (Text.parts_of_firstGroup found (Text.whole_of_undelimited head)).2
  have inside : Text.Balanced (Text.join ", " (signature.arguments.map Argument.write)) := by
    have declared : declaredArguments header = signature.arguments := by
      simp only [declaredArguments, read]
    rw [declared, arguments] at types
    rw [arguments]
    exact balanced_arguments closed types
  have nameWhole : Text.Whole signature.name := by
    apply Text.whole_of_undelimited
    intro char inside
    rw [name] at inside
    have letter := (Text.letters_of_mem_words member).2 char ((List.dropWhile_sublist _).subset inside)
    apply head
    exact (Text.mem_iff_mem_words letter).mpr ⟨word, member, (List.dropWhile_sublist _).subset inside⟩
  have keyword : Text.Balanced (plainKeyword ++ " ".toList) := Text.balanced_of_neutral (by decide)
  have opening : Text.Whole "(".toList := rfl
  have closing : Text.Whole ")".toList := rfl
  have colon : ∀ char ∈ ":".toList, Text.isNeutral char := by decide
  have round : Text.openBrackets "(".toList = 1 ∧ Text.openBrackets ")".toList = -1 := by decide
  rw [Signature.write, (Text.reading_append_neutral colon _).1, List.append_assoc, List.append_assoc,
    List.append_assoc, List.append_assoc, keyword.literals.openBrackets_append,
    nameWhole.openBrackets_append, opening.openBrackets_append, inside.literals.openBrackets_append,
    closing.openBrackets_append, keyword.brackets, inside.brackets, round.1, round.2]
  cases signature.returns? with
  | none =>
    dsimp only [Option.getD_none]
    omega
  | some type =>
    have arrow : Text.Balanced " -> ".toList := Text.balanced_of_neutral (by decide)
    rw [arrow.literals.openBrackets_append, arrow.brackets, openBrackets_shownType, Option.getD_some]
    omega

end PyxProject.Stub
