import PyxProject.Proofs.Stub.Signatures
import PyxProject.Proofs.Text.TopLevel

/-!
# Translating one argument

An argument is written as a declaration and perhaps a default behind an equals sign. As
long as the declaration is closed and holds no equals sign outside brackets, the first
equals sign that is read is the one in front of the default, whatever the default holds
(`read_of_parts`). So the default reaches neither the name nor the type: a typed
declaration is written name first, a single word stays, and a declaration with a colon
keeps the whole argument (`argumentInStub_of_declaration`).
-/

namespace PyxProject.Stub

open Source

/-- Whether a character may stand in a name: an ASCII letter, a digit, an underscore, or a
character beyond ASCII that is not blank. -/
def isNameChar (char : Char) : Bool :=
  Text.inRanges [(0x30, 0x39), (0x41, 0x5A), (0x5F, 0x5F), (0x61, 0x7A)] char.toNat ||
    (0x7F < char.toNat && !Text.isBlank char)

/-- A name, as the declaration of a function or of an argument gives it. -/
structure IsIdentifier (name : Text) : Prop where
  filled : name ≠ []
  chars : ∀ char ∈ name, isNameChar char

/-- A character of a name differs from one that stands in no name. -/
theorem ne_of_isNameChar {char : Char} (inName : isNameChar char) (other : Char)
    (outside : isNameChar other = false) : char ≠ other := by
  rintro rfl
  rw [inName] at outside
  cases outside

/-- A character of a name is not blank. -/
theorem letter_of_isNameChar {char : Char} (inName : isNameChar char) :
    Text.isBlank char = false := by
  apply Bool.eq_false_iff.mpr
  intro blank
  simp only [isNameChar, blank, Bool.not_true, Bool.and_false, Bool.or_false] at inName
  simp only [Text.inRanges, List.any_cons, List.any_nil, Bool.or_eq_true, Bool.and_eq_true,
    decide_eq_true_eq, Bool.false_eq_true, or_false] at inName
  simp only [Text.isBlank, Text.inRanges, Text.blankRanges, List.any_cons, List.any_nil,
    Bool.or_eq_true, Bool.and_eq_true, decide_eq_true_eq, Bool.false_eq_true, or_false] at blank
  omega

/-- A character of a name is neutral. -/
theorem isNeutral_of_isNameChar {char : Char} (inName : isNameChar char) : Text.isNeutral char := by
  have outside : ∀ sign ∈ Text.signs, isNameChar sign = false := by decide
  exact Text.isNeutral_of_notMem fun listed =>
    ne_of_isNameChar inName char (outside char listed) rfl

/-- A name is one word, and no star stands in front of it. -/
theorem IsIdentifier.word {name : Text} (identifier : IsIdentifier name) :
    (∀ char ∈ name, Text.isBlank char = false) ∧ name.head? ≠ some '*' := by
  refine ⟨fun char member => letter_of_isNameChar (identifier.chars char member), ?_⟩
  intro star
  exact ne_of_isNameChar (identifier.chars _ (List.mem_of_head? star)) '*' (by decide) rfl

/-- A declaration holds a colon outside brackets and literals with no colon next to it. -/
def LoneColon (declaration : Text) : Prop :=
  ∃ before place after, Text.placed declaration = before ++ place :: after ∧ place.isTop ':' ∧
    (∀ previous ∈ before.getLast?, previous.char ≠ ':') ∧ ∀ next ∈ after.head?, next.char ≠ ':'

/-- The character in front of what follows some places, given the one in front of them. -/
theorem charBefore_cons (previous : Option Char) (place : Text.Placed) (places : List Text.Placed) :
    (Text.unplace (place :: places)).getLast?.or previous =
      (Text.unplace places).getLast?.or (some place.char) := by
  have shown : Text.unplace (place :: places) = place.char :: Text.unplace places := rfl
  rw [shown, List.getLast?_cons]
  cases (Text.unplace places).getLast? <;> rfl

/-- Lone colons are looked for part by part, if the second part starts with no colon. -/
theorem hasLoneColon_append {rest : List Text.Placed} (apart : ∀ next ∈ rest.head?, next.char ≠ ':')
    (previous : Option Char) (places : List Text.Placed) :
    hasLoneColon previous (places ++ rest) =
      (hasLoneColon previous places ||
        hasLoneColon ((Text.unplace places).getLast?.or previous) rest) := by
  induction places generalizing previous with
  | nil => rfl
  | cons place places inductionHypothesis =>
    have next : (places ++ rest).head?.any (fun next => next.char == ':') =
        places.head?.any fun next => next.char == ':' := by
      cases places with
      | nil =>
        cases rest with
        | nil => rfl
        | cons first rest => simpa using apart first rfl
      | cons _ _ => rfl
    rw [List.cons_append, hasLoneColon, hasLoneColon, next, inductionHypothesis, charBefore_cons,
      Bool.or_assoc]

/-- Places without a colon hold no lone one. -/
theorem hasLoneColon_of_absent {places : List Text.Placed}
    (absent : ∀ place ∈ places, place.char ≠ ':') (previous : Option Char) :
    hasLoneColon previous places = false := by
  induction places generalizing previous with
  | nil => rfl
  | cons place places inductionHypothesis =>
    obtain ⟨first, absent⟩ := List.forall_mem_cons.mp absent
    simp [hasLoneColon, Text.Placed.isTop, Text.Mark.is, first, inductionHypothesis absent]

/-- A place without a colon in front makes no difference. -/
theorem hasLoneColon_skip {place : Text.Placed} (other : place.char ≠ ':') (previous : Option Char)
    (places : List Text.Placed) :
    hasLoneColon previous (place :: places) = hasLoneColon none places := by
  have start : hasLoneColon (some place.char) places = hasLoneColon none places := by
    cases places with
    | nil => rfl
    | cons next places =>
      have free : (some place.char != some ':') = true := by simpa using other
      rw [hasLoneColon, hasLoneColon, free]
      rfl
  simp [hasLoneColon, Text.Placed.isTop, Text.Mark.is, other, start]

/-- The test for an annotation finds exactly the lone colons. -/
theorem carriesType_iff (declaration : Text) : carriesType declaration ↔ LoneColon declaration := by
  have found (previous : Option Char) (places : List Text.Placed) :
      hasLoneColon previous places ↔ ∃ before place after, places = before ++ place :: after ∧
        place.isTop ':' ∧ (Text.unplace before).getLast?.or previous ≠ some ':' ∧
        ∀ next ∈ after.head?, next.char ≠ ':' := by
    induction places generalizing previous with
    | nil => simp [hasLoneColon]
    | cons place places inductionHypothesis =>
      rw [hasLoneColon, Bool.or_eq_true, inductionHypothesis]
      constructor
      · rintro (here | ⟨before, found, after, rfl, top, first, second⟩)
        · simp only [Bool.and_eq_true, bne_iff_ne, Bool.not_eq_true'] at here
          refine ⟨[], place, places, rfl, here.1.1, here.1.2, ?_⟩
          intro next starts
          simpa [Option.mem_def.mp starts] using here.2
        · exact ⟨place :: before, found, after, rfl, top, by rwa [charBefore_cons], second⟩
      · rintro ⟨before, found, after, parts, top, first, second⟩
        cases before with
        | nil =>
          obtain ⟨rfl, rfl⟩ := List.cons.inj parts
          refine .inl ?_
          have next : (places.head?.any fun next => next.char == ':') = false := by
            cases places with
            | nil => rfl
            | cons next places => simpa using second next rfl
          simp only [top, next, Bool.true_and, Bool.not_false, Bool.and_true, bne_iff_ne]
          exact first
        | cons start before =>
          obtain ⟨rfl, rfl⟩ := List.cons.inj parts
          rw [charBefore_cons] at first
          exact .inr ⟨before, found, after, rfl, top, first, second⟩
  rw [carriesType, found, LoneColon]
  simp [Text.unplace]

instance (declaration : Text) : Decidable (LoneColon declaration) :=
  decidable_of_iff _ (carriesType_iff declaration)

/-- Every place of a text holds a character of it. -/
theorem mem_of_mem_placed {text : Text} {place : Text.Placed} (member : place ∈ Text.placed text) :
    place.char ∈ text := by
  rw [← Text.unplace_placed text]
  exact List.mem_map_of_mem member

/-- A blank is no colon. -/
theorem uncoloned_of_blanks {blanks : Text} (allBlank : ∀ char ∈ blanks, Text.isBlank char) :
    ∀ place ∈ Text.placed blanks, place.char ≠ ':' := fun _ member =>
  Text.ne_of_isBlank (allBlank _ (mem_of_mem_placed member)) ':' (by decide)

/-- Behind a closed text, an annotation in it is found as well, unless a colon follows. -/
theorem carriesType_append {text : Text} (closed : Text.Closed text) {rest : Text}
    (apart : rest.head? ≠ some ':') (annotated : carriesType text) : carriesType (text ++ rest) := by
  have start : ∀ next ∈ (Text.placed rest).head?, next.char ≠ ':' := by
    intro next first same
    apply apart
    rw [← Text.unplace_placed rest, Text.unplace, List.head?_map, Option.mem_def.mp first, ← same]
    rfl
  rw [carriesType, closed.placed_append, hasLoneColon_append start]
  exact Bool.or_eq_true_iff.mpr (.inl annotated)

/-- Blanks in front of a declaration carry no annotation. -/
theorem carriesType_trimStart (declaration : Text) :
    carriesType (Text.trimStart declaration) = carriesType declaration := by
  induction declaration with
  | nil => rfl
  | cons char declaration inductionHypothesis =>
    by_cases blank : Text.isBlank char
    · have placed := Text.placed_cons (Text.isNeutral_of_isBlank blank) declaration
      have other : char ≠ ':' := Text.ne_of_isBlank blank ':' (by decide)
      have shorter : Text.trimStart (char :: declaration) = Text.trimStart declaration :=
        List.dropWhile_cons_of_pos blank
      rw [shorter, inductionHypothesis, carriesType, carriesType, placed, hasLoneColon_skip other]
    · rw [Text.trimStart, List.dropWhile_cons_of_neg blank]

/-- Blanks around a closed declaration carry no annotation. -/
theorem carriesType_trim {declaration : Text} (closed : Text.Closed declaration) :
    carriesType (Text.trim declaration) = carriesType declaration := by
  obtain ⟨blanks, parts, allBlank⟩ :=
    Text.rdropWhile_append Text.isBlank (Text.trimStart declaration)
  have absent := uncoloned_of_blanks allBlank
  have start : ∀ next ∈ (Text.placed blanks).head?, next.char ≠ ':' := fun next first =>
    absent next (List.mem_of_head? first)
  rw [← carriesType_trimStart declaration, parts, ← Text.dropEndWhile_eq_rdropWhile,
    ← Text.trimEnd, ← Text.trim, carriesType, carriesType, closed.trim.placed_append,
    hasLoneColon_append start, hasLoneColon_of_absent absent, Bool.or_false]

/-- Places with no equals sign outside brackets are passed on the way to the default. -/
theorem assignmentCut_append {places : List Text.Placed}
    (avoids : ∀ place ∈ places, place.isTop '=' = false) (previous : Option Char)
    (rest : List Text.Placed) :
    assignmentCut? previous (places ++ rest) =
      (assignmentCut? ((Text.unplace places).getLast?.or previous) rest).map
        fun (before, after) => (Text.unplace places ++ before, after) := by
  induction places generalizing previous with
  | nil =>
    rw [List.nil_append]
    exact Option.map_id'.symm
  | cons place places inductionHypothesis =>
    obtain ⟨first, avoids⟩ := List.forall_mem_cons.mp avoids
    rw [List.cons_append, assignmentCut?, first, inductionHypothesis avoids, charBefore_cons,
      Option.map_map]
    rfl

/-- The last character of a text that is not blank altogether is its last character without
the blanks in front. -/
theorem endsComparison_trimStart {declaration : Text}
    (plain : endsComparison declaration.getLast? = false) :
    endsComparison (Text.trimStart declaration).getLast? = false := by
  have parts : declaration.takeWhile Text.isBlank ++ Text.trimStart declaration = declaration :=
    List.takeWhile_append_dropWhile
  by_cases empty : Text.trimStart declaration = []
  · rw [empty]
    rfl
  · rwa [← parts, List.getLast?_append_of_ne_nil _ empty] at plain

section Parts

variable {declaration : Text} {default? : Option Text} (closed : Text.Closed declaration)
  (avoids : Text.Avoids '=' declaration)
include closed avoids

/-- Where a default is written, the declaration is passed on the way to its equals sign. -/
theorem placed_with_default (value : Text) :
    Text.trim (declaration ++ writeDefault (some value)) =
        Text.trimStart declaration ++ '=' :: Text.trimEnd value ∧
      assignmentCut? none (Text.placed (Text.trim (declaration ++ writeDefault (some value)))) =
        (assignmentCut? (Text.trimStart declaration).getLast?
          (⟨⟨'=', true⟩, 0⟩ :: Text.placed (Text.trimEnd value))).map
            fun (before, after) => (Text.trimStart declaration ++ before, after) := by
  have trimmed : Text.trim (declaration ++ writeDefault (some value)) =
      Text.trimStart declaration ++ '=' :: Text.trimEnd value :=
    Text.trim_append_cons (by decide) declaration value
  have unbroken : Text.Unbroken (· == '=') (Text.trimStart declaration) := by
    rw [Text.unbroken_trimStart_iff (Text.unstopped_of_isBlank (by decide))]
    exact Text.unbroken_iff.mpr ⟨closed, avoids⟩
  obtain ⟨closedStart, avoidsStart⟩ := Text.unbroken_iff.mp unbroken
  refine ⟨trimmed, ?_⟩
  rw [trimmed, closedStart.placed_append, Text.placed_cons (by decide),
    assignmentCut_append avoidsStart, Text.unplace_placed, Option.or_none]

/-- An argument is read as its declaration and its default, if the equals sign between them
is no part of a comparison. -/
theorem read_of_parts
    (opens : ∀ value ∈ default?, endsComparison declaration.getLast? = false ∧
      value.head? ≠ some '=') :
    Argument.read (declaration ++ writeDefault default?) =
      if carriesType declaration then .verbatim (Text.trim (declaration ++ writeDefault default?))
      else .ofWords (Text.trim (declaration ++ writeDefault default?))
        (dropNoneClause (Text.words declaration)) (default?.map Text.trim) := by
  cases default? with
  | none =>
    have unbroken : Text.Unbroken (· == '=') (Text.trim declaration) := by
      rw [Text.unbroken_trim_iff (Text.unstopped_of_isBlank (by decide))]
      exact Text.unbroken_iff.mpr ⟨closed, avoids⟩
    have whole := assignmentCut_append (Text.unbroken_iff.mp unbroken).2 none []
    rw [List.append_nil] at whole
    have nothing : declaration ++ writeDefault none = declaration := List.append_nil _
    have cut : assignmentCut? none (Text.placed (Text.trim declaration)) = none := whole
    rw [nothing]
    simp only [Argument.read, cut, carriesType_trim closed, Text.words_trim]
    rfl
  | some value =>
    obtain ⟨plain, first⟩ := opens value rfl
    obtain ⟨trimmed, cut⟩ := placed_with_default closed avoids value
    have next : ((Text.placed (Text.trimEnd value)).head?.any fun next => next.char == '=') = false := by
      obtain ⟨blanks, parts, _⟩ := Text.rdropWhile_append Text.isBlank value
      rw [← Text.dropEndWhile_eq_rdropWhile, ← Text.trimEnd] at parts
      cases shown : Text.trimEnd value with
      | nil => rfl
      | cons char rest =>
        rw [shown] at parts
        rw [parts] at first
        have other : (char == '=') = false := by simpa using first
        exact other
    have here : assignmentCut? (Text.trimStart declaration).getLast?
        (⟨⟨'=', true⟩, 0⟩ :: Text.placed (Text.trimEnd value)) = some ([], Text.trimEnd value) := by
      rw [assignmentCut?, next, endsComparison_trimStart plain, Text.unplace_placed]
      rfl
    rw [here, Option.map_some] at cut
    simp only [Argument.read, cut, List.append_nil, Text.trim_trimStart, Text.trim_trimEnd,
      carriesType_trim closed, Text.words_trim]
    rfl

/-- An argument whose declaration carries an annotation is kept, whatever follows the
declaration: what is read as the declaration is it or goes on from it. -/
theorem read_of_annotated (annotated : carriesType declaration) :
    Argument.read (declaration ++ writeDefault default?) =
      .verbatim (Text.trim (declaration ++ writeDefault default?)) := by
  cases default? with
  | none => rw [read_of_parts closed avoids (by simp), if_pos annotated]
  | some value =>
    obtain ⟨trimmed, cut⟩ := placed_with_default closed avoids value
    have closedStart : Text.Closed (Text.trimStart declaration) :=
      ((Text.unbroken_trimStart_iff (fun _ _ => rfl) _).mpr closed.unbroken).closed
    have extended {rest : Text} (apart : rest.head? ≠ some ':') :
        carriesType (Text.trimStart declaration ++ rest) :=
      carriesType_append closedStart apart ((carriesType_trimStart declaration).trans annotated)
    cases inner : assignmentCut? (Text.trimStart declaration).getLast?
        (⟨⟨'=', true⟩, 0⟩ :: Text.placed (Text.trimEnd value)) with
    | none =>
      rw [inner, Option.map_none] at cut
      have whole : carriesType (Text.trim (declaration ++ writeDefault (some value))) := by
        rw [trimmed]
        exact extended (by simp)
      simp only [Argument.read, cut, whole, if_true]
    | some parts =>
      obtain ⟨before, after⟩ := parts
      rw [inner, Option.map_some] at cut
      have longer : carriesType (Text.trim (Text.trimStart declaration ++ before)) := by
        rw [assignmentCut?] at inner
        split at inner
        · obtain ⟨rfl, _⟩ := Prod.mk.inj (Option.some.inj inner)
          rw [List.append_nil, Text.trim_trimStart, carriesType_trim closed]
          exact annotated
        · obtain ⟨⟨more, rest⟩, _, same⟩ := Option.map_eq_some_iff.mp inner
          obtain ⟨rfl, _⟩ := Prod.mk.inj same
          rw [Text.trim_append_cons (by decide), Text.trimStart_trimStart]
          exact extended (by simp)
      simp only [Argument.read, cut, longer, if_true]

end Parts

/-- The clauses on `None` that may end a declaration. -/
def noneClauses : List (List Text) := [[], ["not", "None"], ["or", "None"]]

/-- A clause on `None` is dropped behind words that do not end with `None`. -/
theorem dropNoneClause_append {kept clause : List Text} (filled : kept ≠ [])
    (other : kept.getLast? ≠ some "None".toList) (isClause : clause ∈ noneClauses) :
    dropNoneClause (kept ++ clause) = kept := by
  simp only [noneClauses, List.mem_cons, List.not_mem_nil, or_false] at isClause
  rcases isClause with rfl | rfl | rfl
  · rw [List.append_nil, dropNoneClause]
    split
    · rename_i last beforeLast rest reversed
      have final : kept.getLast? = some last := by
        rw [← List.head?_reverse, reversed]
        rfl
      rw [if_neg]
      rintro ⟨rfl, _⟩
      exact other final
    · rfl
  · simp [dropNoneClause, filled]
  · simp [dropNoneClause, filled]

/-- A text ends with a comparison sign only if its last word does. -/
theorem endsComparison_of_words {text last : Text} (final : (Text.words text).getLast? = some last)
    (plain : endsComparison last.getLast? = false) : endsComparison text.getLast? = false := by
  cases ends : text.getLast? with
  | none => rfl
  | some char =>
    by_cases blank : Text.isBlank char
    · have other := Text.ne_of_isBlank blank
      simp [endsComparison, other '=' (by decide), other '<' (by decide), other '>' (by decide),
        other '!' (by decide)]
    · obtain ⟨piece, lastPiece, pieceEnds⟩ :=
        Text.getLast_splitOnP Text.isBlank ends (Bool.eq_false_iff.mpr blank)
      have filled : piece ≠ [] := by
        rintro rfl
        cases pieceEnds
      obtain ⟨pieces, parts⟩ := List.getLast?_eq_some_iff.mp lastPiece
      have same : last = piece := by
        rw [Text.words, parts, List.filter_append, List.filter_cons_of_pos (by simpa using filled),
          List.filter_nil, List.getLast?_concat] at final
        exact (Option.some.inj final).symm
      rw [← pieceEnds, ← same]
      exact plain

/-- A declaration of a name with a native type: the words of the type, stars and the name
with none between them, and perhaps a clause on `None`, laid out with any blanks. -/
structure Declares (types : List Text) (stars : Nat) (name declaration : Text) : Prop where
  typed : types ≠ []
  identifier : IsIdentifier name
  other : name ≠ "None".toList
  laidOut : ∃ clause ∈ noneClauses,
    Text.Spaced (types ++ [List.replicate stars '*' ++ name] ++ clause) declaration

/-- The name is the last word that is left of a typed declaration, with its stars. -/
theorem Declares.words {types : List Text} {stars : Nat} {name declaration : Text}
    (declares : Declares types stars name declaration) :
    dropNoneClause (Text.words declaration) = types ++ [List.replicate stars '*' ++ name] ∧
      endsComparison declaration.getLast? = false := by
  obtain ⟨typed, identifier, other, clause, isClause, laidOut⟩ := declares
  have words := Text.words_of_spaced laidOut
  have notNone : (List.replicate stars '*' ++ name) ≠ "None".toList := by
    cases stars with
    | zero => simpa using other
    | succ stars =>
      intro same
      cases same
  constructor
  · rw [words]
    exact dropNoneClause_append (by simp) (by simpa using notNone) isClause
  · have nameEnds : endsComparison (List.replicate stars '*' ++ name).getLast? = false := by
      obtain ⟨front, last, rfl⟩ := List.eq_nil_or_concat' name |>.resolve_left identifier.filled
      have char := ne_of_isNameChar (identifier.chars last (by simp))
      simp [endsComparison, char '=' (by decide), char '<' (by decide), char '>' (by decide),
        char '!' (by decide)]
    have noneEnds : endsComparison "None".toList.getLast? = false := by decide
    simp only [noneClauses, List.mem_cons, List.not_mem_nil, or_false] at isClause
    rcases isClause with rfl | rfl | rfl
    · apply endsComparison_of_words _ nameEnds
      rw [words, List.append_nil, List.getLast?_concat]
    · exact endsComparison_of_words (by rw [words]; simp) noneEnds
    · exact endsComparison_of_words (by rw [words]; simp) noneEnds

/-- How an argument is shown depends on its declaration alone. Of a typed declaration the
name comes first, then its type with the stars behind it. A single word stays. If a colon
stands by itself in the declaration, the argument stays as it is. A default is appended
trimmed, whatever it holds. -/
theorem argumentInStub_of_declaration {declaration : Text} {default? : Option Text}
    (closed : Text.Closed declaration) (avoids : Text.Avoids '=' declaration)
    (opens : ∀ value ∈ default?, value.head? ≠ some '=') :
    (∀ types stars name, Declares types stars name declaration → ¬ LoneColon declaration →
      argumentInStub (declaration ++ writeDefault default?) =
        name ++ ":" ++ shownType (Text.join " " types ++ List.replicate stars '*') .argument ++
          writeDefault (default?.map Text.trim)) ∧
    (∀ word, Text.Spaced [word] declaration → ¬ LoneColon declaration →
      (default?.isSome → ∀ last ∈ declaration.getLast?, last ∉ ['=', '<', '>', '!']) →
      argumentInStub (declaration ++ writeDefault default?) =
        word ++ writeDefault (default?.map Text.trim)) ∧
    (LoneColon declaration →
      argumentInStub (declaration ++ writeDefault default?) =
        Text.trim (declaration ++ writeDefault default?)) := by
  refine ⟨fun types stars name declares plain => ?_, fun word alone plain signs => ?_,
    fun colon => ?_⟩
  · obtain ⟨words, ends⟩ := declares.words
    have unannotated : ¬ carriesType declaration := (carriesType_iff declaration).not.mpr plain
    obtain ⟨starred, name_eq⟩ := Text.run_of_rest '*' stars declares.identifier.word.2
    rw [argumentInStub, read_of_parts closed avoids fun value same => ⟨ends, opens value same⟩,
      if_neg unannotated, words, ofWords_append _ declares.typed, starred, name_eq]
    rfl
  · have unannotated : ¬ carriesType declaration := (carriesType_iff declaration).not.mpr plain
    have ends : ∀ value ∈ default?, endsComparison declaration.getLast? = false := by
      intro value same
      have other := signs (Option.isSome_of_mem same)
      cases final : declaration.getLast? with
      | none => rfl
      | some last => simpa [endsComparison, and_assoc] using other last final
    rw [argumentInStub, read_of_parts closed avoids fun value same =>
      ⟨ends value same, opens value same⟩, if_neg unannotated, Text.words_of_spaced alone]
    rfl
  · rw [argumentInStub, read_of_annotated closed avoids ((carriesType_iff declaration).mpr colon)]
    rfl

/-- A memory view with a clause on `None` and a dictionary as its default, a star argument,
and an argument with an annotation whose default compares. -/
theorem argumentInStub_of_declaration_cases :
    argumentInStub ("const  double[:, ::1] **x or None ".toList ++
          writeDefault (some " \x7b'a': [1, 2]\x7d ".toList)) =
        "x:const double[:, ::1]**=\x7b'a': [1, 2]\x7d".toList ∧
      argumentInStub (" *rest ".toList ++ writeDefault none) = "*rest".toList ∧
      argumentInStub (" x : int ".toList ++ writeDefault (some " a == b ".toList)) =
        "x : int = a == b".toList := by
  have view : Text.Closed "const  double[:, ::1] **x or None ".toList := ⟨by decide, rfl⟩
  have star : Text.Closed " *rest ".toList := ⟨by decide, rfl⟩
  have annotated : Text.Closed " x : int ".toList := ⟨by decide, rfl⟩
  have viewDefault : ∀ value ∈ some " \x7b'a': [1, 2]\x7d ".toList, value.head? ≠ some '=' := by
    decide
  have starDefault : ∀ value ∈ (none : Option Text), value.head? ≠ some '=' := by decide
  have annotatedDefault : ∀ value ∈ some " a == b ".toList, value.head? ≠ some '=' := by decide
  have declares : Declares ["const".toList, "double[:,".toList, "::1]".toList] 2 "x".toList
      "const  double[:, ::1] **x or None ".toList :=
    ⟨by decide, ⟨by decide, by decide⟩, by decide, ["or".toList, "None".toList], by decide,
      Text.spaced_iff.mpr (by decide)⟩
  refine ⟨?_, ?_, ?_⟩
  · exact ((argumentInStub_of_declaration view (by decide) viewDefault).1 _ _ _ declares
      (by decide)).trans (by decide)
  · exact ((argumentInStub_of_declaration star (by decide) starDefault).2.1 "*rest".toList
      (Text.spaced_iff.mpr (by decide)) (by decide) (by decide)).trans (by decide)
  · exact ((argumentInStub_of_declaration annotated (by decide) annotatedDefault).2.2
      (by decide)).trans (by decide)

end PyxProject.Stub
