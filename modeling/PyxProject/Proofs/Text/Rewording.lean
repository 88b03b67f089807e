import PyxProject.Proofs.Text.Brackets

/-!
# Other contents for literals

Two texts may differ in nothing but what stands between the delimiters of closed
literals. The scanner then reads the same code in both. Rules that look at the raw text
see the same text up to the first delimiter (`Reworded.agree`), and past it may see
what stands in the literals: a word of the contents becomes a word of the text unless
it touches a delimiter (`Reworded.mem_words_iff`).
-/

namespace PyxProject.Text

/-- What may stand between the delimiters of a closed literal: characters that neither
close it nor start an escape, and escapes. -/
inductive Contents (delimiter : Char) : Text → Prop
  | nil : Contents delimiter []
  | plain (char : Char) (rest : Text) (noEscape : char ≠ '\\') (noEnd : char ≠ delimiter)
      (later : Contents delimiter rest) : Contents delimiter (char :: rest)
  | escaped (char : Char) (rest : Text) (later : Contents delimiter rest) :
      Contents delimiter ('\\' :: char :: rest)

/-- Two texts differ in the contents of closed literals only. Where the contents differ,
both are allowed. -/
inductive Reworded (allowed : Text → Prop) : Text → Text → Prop
  | same (text : Text) : Reworded allowed text text
  | code {first second : Text} (char : Char) (plain : isDelimiter char = false)
      (later : Reworded allowed first second) : Reworded allowed (char :: first) (char :: second)
  | literal {first second : Text} (delimiter : Char) (isDelimiter : isDelimiter delimiter)
      (old new : Text) (oldClosed : Contents delimiter old) (newClosed : Contents delimiter new)
      (rewording : old = new ∨ allowed old ∧ allowed new)
      (later : Reworded allowed first second) :
      Reworded allowed (delimiter :: (old ++ delimiter :: first))
        (delimiter :: (new ++ delimiter :: second))

/-- Contents with no delimiter and no backslash. -/
def PlainContents (contents : Text) : Prop :=
  ∀ char ∈ contents, isDelimiter char = false ∧ char ≠ '\\'

instance (contents : Text) : Decidable (PlainContents contents) :=
  inferInstanceAs (Decidable (∀ char ∈ contents, isDelimiter char = false ∧ char ≠ '\\'))

/-- Contents with no delimiter and no backslash may stand in any literal. -/
theorem contents_of_plain {delimiter : Char} (opens : isDelimiter delimiter) {text : Text}
    (plain : PlainContents text) : Contents delimiter text := by
  induction text with
  | nil => exact .nil
  | cons char rest inductionHypothesis =>
    obtain ⟨⟨noDelimiter, noEscape⟩, later⟩ := List.forall_mem_cons.mp plain
    refine .plain char rest noEscape ?_ (inductionHypothesis later)
    rintro rfl
    rw [opens] at noDelimiter
    cases noDelimiter

/-- Texts that differ in the contents of literals still do after more code. -/
theorem Reworded.after {allowed : Text → Prop} (start : Text) {first second : Text}
    (undelimited : ∀ char ∈ start, isDelimiter char = false)
    (reworded : Reworded allowed first second) :
    Reworded allowed (start ++ first) (start ++ second) := by
  induction start with
  | nil => exact reworded
  | cons char start inductionHypothesis =>
    obtain ⟨plain, undelimited⟩ := List.forall_mem_cons.mp undelimited
    exact .code char plain (inductionHypothesis undelimited)

/-- Backslashes and blanks are no delimiters. -/
theorem ne_of_isDelimiter {delimiter : Char} (opens : isDelimiter delimiter) :
    delimiter ≠ '\\' ∧ isBlank delimiter = false := by
  simp only [isDelimiter, Bool.or_eq_true, beq_iff_eq] at opens
  rcases opens with rfl | rfl <;> decide

/-- A closed literal holds no code, and what follows it is read from code. -/
theorem marks_literal {delimiter : Char} (opens : isDelimiter delimiter) {contents : Text}
    (closed : Contents delimiter contents) :
    ∃ marked, unmark marked = delimiter :: (contents ++ [delimiter]) ∧
      (∀ mark ∈ marked, mark.code = false) ∧
      ∀ rest, marks (delimiter :: (contents ++ delimiter :: rest)) = marked ++ marks rest := by
  have noEscape := (ne_of_isDelimiter opens).1
  obtain ⟨marked, shown, literal, inside⟩ : ∃ marked, unmark marked = contents ++ [delimiter] ∧
      (∀ mark ∈ marked, mark.code = false) ∧
      ∀ rest, marksFrom (.literal delimiter) (contents ++ delimiter :: rest) =
        marked ++ marks rest := by
    induction closed with
    | nil =>
      refine ⟨[⟨delimiter, false⟩], rfl, by simp, fun rest => ?_⟩
      simp [marksFrom, marks, Region.isCode, Region.next, noEscape]
    | plain char rest plain noEnd later inductionHypothesis =>
      obtain ⟨marked, shown, literal, inside⟩ := inductionHypothesis
      refine ⟨⟨char, false⟩ :: marked, by simpa [unmark] using shown, by simpa using literal,
        fun rest => ?_⟩
      simp [marksFrom, Region.isCode, Region.next, plain, noEnd, inside]
    | escaped char rest later inductionHypothesis =>
      obtain ⟨marked, shown, literal, inside⟩ := inductionHypothesis
      refine ⟨⟨'\\', false⟩ :: ⟨char, false⟩ :: marked, by simpa [unmark] using shown,
        by simpa using literal, fun rest => ?_⟩
      simp [marksFrom, Region.isCode, Region.next, inside]
  refine ⟨⟨delimiter, false⟩ :: marked, by simpa [unmark] using shown, by simpa using literal,
    fun rest => ?_⟩
  simp [marks, marksFrom, Region.isCode, Region.next, opens, inside rest]

/-- A sum over the marks of a text to which literals contribute nothing does not depend
on what stands in them. -/
theorem Reworded.total_eq {allowed : Text → Prop} {first second : Text}
    (reworded : Reworded allowed first second) {weight : Mark → Int}
    (literals : ∀ mark : Mark, mark.code = false → weight mark = 0) :
    total weight (marks first) = total weight (marks second) := by
  induction reworded with
  | same text => rfl
  | code char plain later inductionHypothesis =>
    rw [marks, marks] at inductionHypothesis
    simp [marks, marksFrom, total, Region.next, plain, inductionHypothesis]
  | literal delimiter opens old new oldClosed newClosed rewording later inductionHypothesis =>
    have nothing {marked : List Mark} (literal : ∀ mark ∈ marked, mark.code = false) :
        total weight marked = 0 := by
      induction marked with
      | nil => rfl
      | cons mark marked inductionHypothesis =>
        obtain ⟨outside, literal⟩ := List.forall_mem_cons.mp literal
        rw [total, literals mark outside, inductionHypothesis literal]
        rfl
    obtain ⟨oldMarks, _, oldLiteral, oldRead⟩ := marks_literal opens oldClosed
    obtain ⟨newMarks, _, newLiteral, newRead⟩ := marks_literal opens newClosed
    rw [oldRead, newRead, total_append, total_append, nothing oldLiteral, nothing newLiteral, inductionHypothesis]

/-- Two texts are equal, or the same up to a delimiter. -/
inductive Agree : Text → Text → Prop
  | same (text : Text) : Agree text text
  | torn (start rest other : Text) (delimiter : Char) (opens : isDelimiter delimiter)
      (undelimited : ∀ char ∈ start, isDelimiter char = false) :
      Agree (start ++ delimiter :: rest) (start ++ delimiter :: other)

/-- Texts that differ in the contents of literals are the same up to a delimiter. -/
theorem Reworded.agree {allowed : Text → Prop} {first second : Text}
    (reworded : Reworded allowed first second) : Agree first second := by
  induction reworded with
  | same text => exact .same text
  | code char plain later inductionHypothesis =>
    cases inductionHypothesis with
    | same => exact .same _
    | torn start rest other delimiter opens undelimited =>
      exact .torn (char :: start) rest other delimiter opens
        (List.forall_mem_cons.mpr ⟨plain, undelimited⟩)
  | literal delimiter opens old new oldClosed newClosed rewording later inductionHypothesis =>
    exact .torn [] _ _ delimiter opens (List.forall_mem_nil _)

/-- Texts that are the same up to a delimiter start alike, and go on alike after a first
character that is no delimiter. -/
theorem Agree.uncons {first second : Text} (agree : Agree first second) :
    first.head? = second.head? ∧
      ∀ char, isDelimiter char = false → first.head? = some char → Agree first.tail second.tail := by
  cases agree with
  | same => exact ⟨rfl, fun _ _ _ => .same _⟩
  | torn start rest other delimiter opens undelimited =>
    cases start with
    | nil =>
      refine ⟨rfl, fun char plain starts => ?_⟩
      obtain rfl : delimiter = char := Option.some.inj starts
      rw [opens] at plain
      cases plain
    | cons head start =>
      exact ⟨rfl, fun _ _ _ => .torn start rest other delimiter opens
        (List.forall_mem_cons.mp undelimited).2⟩

/-- A beginning that does not end at a delimiter is taken of both texts alike. -/
theorem Agree.takeWhile {first second : Text} (agree : Agree first second) {keep : Char → Bool}
    (delimiters : ∀ char, isDelimiter char → keep char) :
    Agree (first.takeWhile keep) (second.takeWhile keep) := by
  cases agree with
  | same text => exact .same _
  | torn start rest other delimiter opens undelimited =>
    rw [List.takeWhile_append, List.takeWhile_append]
    split
    · rw [List.takeWhile_cons_of_pos (delimiters delimiter opens),
        List.takeWhile_cons_of_pos (delimiters delimiter opens)]
      exact .torn start _ _ delimiter opens undelimited
    · exact .same _

/-- A text without delimiters is a beginning of both texts or of none. In torn texts such a
beginning ends before the delimiter. -/
theorem Agree.prefix_iff {first second : Text} (agree : Agree first second) {start : Text}
    (undelimited : ∀ char ∈ start, isDelimiter char = false) :
    start <+: first ↔ start <+: second := by
  cases agree with
  | same text => exact Iff.rfl
  | torn common rest other delimiter opens _ =>
    have within (later : Text) : start <+: common ++ delimiter :: later ↔ start <+: common := by
      refine ⟨fun begins => ?_, fun begins => begins.trans (List.prefix_append _ _)⟩
      rcases List.prefix_or_prefix_of_prefix begins (List.prefix_append common _) with
        inside | ⟨beyond, rfl⟩
      · exact inside
      · cases beyond with
        | nil => simp
        | cons char beyond =>
          obtain ⟨rfl, _⟩ := List.cons_prefix_cons.mp ((List.prefix_append_right_inj common).mp begins)
          have plain := undelimited char (by simp)
          rw [opens] at plain
          cases plain
    rw [within, within]

/-- A word holds a delimiter, so a part of it belongs to a literal. -/
def IsTorn (word : Text) : Prop := ∃ char ∈ word, isDelimiter char

/-- A torn word stays torn with a character before it. -/
theorem IsTorn.cons {torn : Text} (isTorn : IsTorn torn) (char : Char) : IsTorn (char :: torn) := by
  obtain ⟨delimiter, inside, opens⟩ := isTorn
  exact ⟨delimiter, List.mem_cons_of_mem char inside, opens⟩

/-- A torn word is none that holds no delimiter. -/
theorem IsTorn.ne {torn : Text} (isTorn : IsTorn torn) {word : Text}
    (undelimited : ∀ char ∈ word, isDelimiter char = false) : torn ≠ word := by
  obtain ⟨delimiter, inside, opens⟩ := isTorn
  rintro rfl
  rw [undelimited delimiter inside] at opens
  cases opens

/-- A torn word is found different from one that holds no delimiter. -/
theorem IsTorn.beq {torn : Text} (isTorn : IsTorn torn) (word : Text)
    (undelimited : ∀ char ∈ word, isDelimiter char = false) : (torn == word) = false :=
  beq_eq_false_iff_ne.mpr (isTorn.ne undelimited)

/-- A torn word is none of a list of words that hold no delimiter. -/
theorem IsTorn.contains {torn : Text} (isTorn : IsTorn torn) (list : List Text)
    (undelimited : ∀ word ∈ list, ∀ char ∈ word, isDelimiter char = false) :
    list.contains torn = false := by
  apply Bool.eq_false_iff.mpr
  intro member
  exact isTorn.ne (undelimited torn (List.contains_iff_mem.mp member)) rfl

/-- Two lists of words are equal, or the same up to two torn words that are themselves the
same up to a delimiter. -/
inductive WordsAgree : List Text → List Text → Prop
  | same (words : List Text) : WordsAgree words words
  | torn {word other : Text} (isTorn : IsTorn word) (otherTorn : IsTorn other)
      (agree : Agree word other) (words others : List Text) :
      WordsAgree (word :: words) (other :: others)
  | shared {words others : List Text} (word : Text)
      (undelimited : ∀ char ∈ word, isDelimiter char = false) (later : WordsAgree words others) :
      WordsAgree (word :: words) (word :: others)

/-- The first words start with a given text without delimiters alike. -/
theorem WordsAgree.starts_iff {words others : List Text} (agree : WordsAgree words others)
    {start : Text} (undelimited : ∀ char ∈ start, isDelimiter char = false) :
    (∃ more rest, words = (start ++ more) :: rest) ↔ ∃ more rest, others = (start ++ more) :: rest := by
  have starts (word : Text) (rest : List Text) :
      (∃ more later, word :: rest = (start ++ more) :: later) ↔ start <+: word := by
    constructor
    · rintro ⟨more, later, same⟩
      exact ⟨more, (List.cons.inj same).1.symm⟩
    · rintro ⟨more, rfl⟩
      exact ⟨more, rest, rfl⟩
  cases agree with
  | same => exact Iff.rfl
  | torn _ _ agree words others => rw [starts, starts, agree.prefix_iff undelimited]
  | shared word _ later => rw [starts, starts]

/-- Texts that are the same up to a delimiter have words that are. -/
theorem Agree.words {first second : Text} (agree : Agree first second) :
    WordsAgree (words first) (words second) := by
  cases agree with
  | same text => exact .same _
  | torn start rest other delimiter opens undelimited =>
    have letter : isBlank delimiter = false := (ne_of_isDelimiter opens).2
    obtain ⟨initial, last, cut⟩ : ∃ initial last, start.splitOnP isBlank = initial ++ [last] :=
      ⟨_, _, (List.dropLast_concat_getLast (List.splitOnP_ne_nil isBlank start)).symm⟩
    have plain : ∀ piece ∈ initial ++ [last], ∀ char ∈ piece, isDelimiter char = false := by
      intro piece member char inside
      rw [← cut] at member
      exact undelimited char
        ((mem_iff_mem_splitOnP (unmarked_of_mem_splitOnP member char inside)).mpr ⟨piece, member, inside⟩)
    have found (later : Text) : ∃ piece pieces, Text.words (start ++ delimiter :: later) =
        initial.filter (· ≠ []) ++ (last ++ delimiter :: piece) :: pieces := by
      obtain ⟨piece, pieces, laterCut⟩ := List.exists_cons_of_ne_nil (List.splitOnP_ne_nil isBlank later)
      refine ⟨piece, pieces.filter (· ≠ []), ?_⟩
      rw [Text.words, splitOnP_append start cut (splitOnP_cons_of_not letter laterCut), List.filter_append,
        List.filter_cons_of_pos (by simp)]
    obtain ⟨piece, pieces, words⟩ := found rest
    obtain ⟨otherPiece, otherPieces, otherWords⟩ := found other
    rw [words, otherWords]
    have shared : ∀ word ∈ initial.filter (· ≠ []), ∀ char ∈ word, isDelimiter char = false :=
      fun word member => plain word (List.mem_append_left _ (List.mem_of_mem_filter member))
    generalize initial.filter (· ≠ []) = before at shared ⊢
    induction before with
    | nil =>
      exact .torn ⟨delimiter, by simp, opens⟩ ⟨delimiter, by simp, opens⟩
        (.torn last piece otherPiece delimiter opens
          (plain last (List.mem_append_right _ List.mem_cons_self))) pieces otherPieces
    | cons word before inductionHypothesis =>
      obtain ⟨undelimited, later⟩ := List.forall_mem_cons.mp shared
      exact .shared word undelimited (inductionHypothesis later)

/-- Texts that are the same up to a delimiter are equal when trimmed, or a literal shows in
both of them. -/
theorem Agree.trim {first second : Text} (agree : Agree first second) :
    trim first = trim second ∨ IsTorn (trim first) ∧ IsTorn (trim second) := by
  cases agree with
  | same => exact .inl rfl
  | torn start rest other delimiter opens _ =>
    have letter : isBlank delimiter = false := (ne_of_isDelimiter opens).2
    have shows (later : Text) : IsTorn (Text.trim (start ++ delimiter :: later)) := by
      refine ⟨delimiter, ?_, opens⟩
      rw [mem_iff_mem_words letter, words_trim, ← mem_iff_mem_words letter]
      simp
    exact .inr ⟨shows rest, shows other⟩

/-- Texts that differ in the contents of literals end alike. -/
theorem Reworded.getLast_eq {allowed : Text → Prop} {first second : Text}
    (reworded : Reworded allowed first second) : first.getLast? = second.getLast? := by
  induction reworded with
  | same text => rfl
  | code char plain later inductionHypothesis =>
    rw [List.getLast?_cons, List.getLast?_cons, inductionHypothesis]
  | literal delimiter opens old new oldClosed newClosed rewording later inductionHypothesis =>
    simp only [List.getLast?_cons, List.getLast?_append, inductionHypothesis]
    rfl

/-- The pieces of a literal and what follows it, cut at blanks. The first piece holds a
delimiter, and so does the one in which the literal ends; between them stand pieces of
the contents, and after them the later pieces of what follows. -/
theorem split_literal {delimiter : Char} (opens : isDelimiter delimiter) (contents : Text) :
    ∃ middle : List Text, (∀ piece ∈ middle, piece ∈ contents.splitOnP isBlank) ∧
      ∀ rest piece pieces, rest.splitOnP isBlank = piece :: pieces →
        ∃ head tail, (delimiter :: (contents ++ delimiter :: rest)).splitOnP isBlank = head :: tail ∧
          delimiter ∈ head ∧
          ∀ word, delimiter ∉ word → (word ∈ tail ↔ word ∈ middle ∨ word ∈ pieces) := by
  have letter : isBlank delimiter = false := (ne_of_isDelimiter opens).2
  obtain ⟨initial, last, cut⟩ : ∃ initial last, contents.splitOnP isBlank = initial ++ [last] :=
    ⟨_, _, (List.dropLast_concat_getLast (List.splitOnP_ne_nil isBlank contents)).symm⟩
  refine ⟨initial.tail, fun piece member => ?_, fun rest piece pieces found => ?_⟩
  · rw [cut]
    exact List.mem_append_left _ (List.mem_of_mem_tail member)
  · have longer := splitOnP_append contents cut (splitOnP_cons_of_not letter found)
    cases initial with
    | nil =>
      refine ⟨_, _, splitOnP_cons_of_not letter longer, List.mem_cons_self, fun word _ => ?_⟩
      simp
    | cons first initial =>
      refine ⟨_, _, splitOnP_cons_of_not letter longer, List.mem_cons_self, fun word absent => ?_⟩
      have torn : word ≠ last ++ delimiter :: piece := by
        rintro rfl
        exact absent (by simp)
      simp [torn]

/-- A word without delimiters is the first piece of both texts or of none. -/
theorem eq_head_iff {word head other : Text} (undelimited : ∀ char ∈ word, isDelimiter char = false)
    (heads : head = other ∨ IsTorn head ∧ IsTorn other) : word = head ↔ word = other := by
  rcases heads with rfl | ⟨isTorn, otherTorn⟩
  · exact Iff.rfl
  · exact iff_of_false (isTorn.ne undelimited).symm (otherTorn.ne undelimited).symm

/-- The pieces of two texts that differ in the contents of literals, cut at blanks. The first
pieces are the same or both torn; a word without delimiters is among the other pieces of both or
of none, unless it is a piece of contents that differ. At a blank, the first pieces so far become
pieces of their own. -/
theorem Reworded.split_alike {allowed : Text → Prop} {first second : Text}
    (reworded : Reworded allowed first second) {word : Text}
    (undelimited : ∀ char ∈ word, isDelimiter char = false)
    (absent : ∀ contents, allowed contents → word ∉ contents.splitOnP isBlank) :
    ∃ head tail other others, first.splitOnP isBlank = head :: tail ∧
      second.splitOnP isBlank = other :: others ∧ (head = other ∨ IsTorn head ∧ IsTorn other) ∧
      (word ∈ tail ↔ word ∈ others) := by
  induction reworded with
  | same text =>
    obtain ⟨head, tail, cut⟩ := List.exists_cons_of_ne_nil (List.splitOnP_ne_nil isBlank text)
    exact ⟨head, tail, head, tail, cut, cut, .inl rfl, Iff.rfl⟩
  | code char plain later inductionHypothesis =>
    obtain ⟨head, tail, other, others, cut, cutOther, heads, tails⟩ := inductionHypothesis
    by_cases blank : isBlank char
    · refine ⟨[], head :: tail, [], other :: others, ?_, ?_, .inl rfl, ?_⟩
      · rw [splitOnP_cons_of isBlank blank, cut]
      · rw [splitOnP_cons_of isBlank blank, cutOther]
      · rw [List.mem_cons, List.mem_cons, tails, eq_head_iff undelimited heads]
    · have letter : isBlank char = false := Bool.eq_false_iff.mpr blank
      refine ⟨_, tail, _, others, splitOnP_cons_of_not letter cut, splitOnP_cons_of_not letter cutOther,
        ?_, tails⟩
      rcases heads with rfl | ⟨isTorn, otherTorn⟩
      · exact .inl rfl
      · exact .inr ⟨isTorn.cons char, otherTorn.cons char⟩
  | literal delimiter opens old new oldClosed newClosed rewording later inductionHypothesis =>
    obtain ⟨head, tail, other, others, cut, cutOther, _, tails⟩ := inductionHypothesis
    have noDelimiter : delimiter ∉ word := by
      intro member
      rw [undelimited delimiter member] at opens
      cases opens
    obtain ⟨middle, within, oldCut⟩ := split_literal opens old
    obtain ⟨oldHead, oldTail, oldFound, oldTorn, oldMember⟩ := oldCut _ _ _ cut
    rcases rewording with rfl | ⟨oldAllowed, newAllowed⟩
    · obtain ⟨newHead, newTail, newFound, newTorn, newMember⟩ := oldCut _ _ _ cutOther
      refine ⟨oldHead, oldTail, newHead, newTail, oldFound, newFound,
        .inr ⟨⟨delimiter, oldTorn, opens⟩, ⟨delimiter, newTorn, opens⟩⟩, ?_⟩
      rw [oldMember word noDelimiter, newMember word noDelimiter, tails]
    · obtain ⟨newMiddle, newWithin, newCut⟩ := split_literal opens new
      obtain ⟨newHead, newTail, newFound, newTorn, newMember⟩ := newCut _ _ _ cutOther
      refine ⟨oldHead, oldTail, newHead, newTail, oldFound, newFound,
        .inr ⟨⟨delimiter, oldTorn, opens⟩, ⟨delimiter, newTorn, opens⟩⟩, ?_⟩
      rw [oldMember word noDelimiter, newMember word noDelimiter, tails,
        or_iff_right fun member => absent old oldAllowed (within word member),
        or_iff_right fun member => absent new newAllowed (newWithin word member)]

/-- A word without delimiters is a word of both texts or of none, unless it may stand in
the contents that differ. -/
theorem Reworded.mem_words_iff {allowed : Text → Prop} {first second : Text}
    (reworded : Reworded allowed first second) {word : Text} (filled : word ≠ [])
    (undelimited : ∀ char ∈ word, isDelimiter char = false)
    (absent : ∀ contents, allowed contents → word ∉ words contents) :
    word ∈ words first ↔ word ∈ words second := by
  have hidden : ∀ contents, allowed contents → word ∉ contents.splitOnP isBlank :=
    fun contents isAllowed member =>
      absent contents isAllowed (List.mem_filter.mpr ⟨member, by simpa using filled⟩)
  obtain ⟨head, tail, other, others, cut, cutOther, heads, tails⟩ :=
    reworded.split_alike undelimited hidden
  rw [words, words, List.mem_filter, List.mem_filter, cut, cutOther, List.mem_cons, List.mem_cons,
    tails, eq_head_iff undelimited heads]

end PyxProject.Text
