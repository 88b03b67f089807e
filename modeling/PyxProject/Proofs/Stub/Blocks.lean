import Mathlib.Data.List.Chain
import PyxProject.Proofs.Source.Lines
import PyxProject.Proofs.Stub.Shown

/-!
# Blocks in stubs

A stub is block-structured if its indentation grows exactly after the headers of
classes and functions. A source file may give a stub that is not: the headers of
statement blocks are dropped while the definitions in them stay where they are, and
a class of whose body nothing is kept has nothing below it.

Which files do that is seen from the lines that contribute. Each leaves a depth and
perhaps a header that waits for its body, and the stub is block-structured exactly
when every contributing line takes up what the one before it left
(`blockStructured_iff_settled`).
-/

namespace PyxProject.Stub

open Source

/-- The number of spaces that a line starts with. -/
def indentOf (line : Text) : Nat := (line.takeWhile (· == ' ')).length

/-- The lines of a stub that are not empty. -/
def filledLines (stub : List Text) : List Text := stub.filter (· ≠ [])

/-- A line may follow another: it is deeper exactly if the other is a header. -/
def Nests (upper lower : Text) : Prop := indentOf upper < indentOf lower ↔ isHeaderLine upper

instance (upper lower : Text) : Decidable (Nests upper lower) :=
  inferInstanceAs (Decidable (_ ↔ _))

/-- The lines of a stub form blocks. Empty lines do not count. -/
structure BlockStructured (stub : List Text) : Prop where
  /-- The first line is not indented. -/
  start : ∀ line ∈ (filledLines stub).head?, indentOf line = 0
  /-- A line is deeper than the one before it after a header, and only then. -/
  nested : (filledLines stub).IsChain Nests
  /-- The last line is no header. -/
  finish : ∀ line ∈ (filledLines stub).getLast?, isHeaderLine line = false

instance (stub : List Text) : Decidable (BlockStructured stub) :=
  decidable_of_iff
    ((∀ line ∈ (filledLines stub).head?, indentOf line = 0) ∧ (filledLines stub).IsChain Nests ∧
      ∀ line ∈ (filledLines stub).getLast?, isHeaderLine line = false)
    ⟨fun ⟨start, nested, finish⟩ => ⟨start, nested, finish⟩,
      fun ⟨start, nested, finish⟩ => ⟨start, nested, finish⟩⟩

/-- The depth at which a contributing line leaves the stub: its own, or that of the
ellipsis below a function header. -/
def depthAfter (step : Nat) (entry : Source.Line × LineRole) : Nat :=
  if entry.2.isFunction then entry.1.spaces + step else entry.1.spaces

/-- Whether a contributing line leaves a header that has no body yet. -/
def awaitsBody (entry : Source.Line × LineRole) : Bool :=
  !entry.2.isFunction && opensBody entry.1.text entry.2

/-- Every contributing line takes up what the one before it leaves: the first is not
indented, a line is deeper than the depth before it exactly if a body is awaited, and
none is awaited at the end. -/
structure Settled (step : Nat) (kept : List (Source.Line × LineRole)) : Prop where
  start : ∀ first ∈ kept.head?, first.1.spaces = 0
  nested : kept.IsChain fun upper lower => depthAfter step upper < lower.1.spaces ↔ awaitsBody upper
  finish : ∀ last ∈ kept.getLast?, awaitsBody last = false

instance (step : Nat) (kept : List (Source.Line × LineRole)) : Decidable (Settled step kept) :=
  decidable_of_iff
    ((∀ first ∈ kept.head?, first.1.spaces = 0) ∧
      (kept.IsChain fun upper lower => depthAfter step upper < lower.1.spaces ↔ awaitsBody upper) ∧
      ∀ last ∈ kept.getLast?, awaitsBody last = false)
    ⟨fun ⟨start, nested, finish⟩ => ⟨start, nested, finish⟩,
      fun ⟨start, nested, finish⟩ => ⟨start, nested, finish⟩⟩

/-- A text that does not start with a space keeps the indentation it is given. -/
theorem indentOf_replicate_append {text : Text} (starts : text.head? ≠ some ' ') (spaces : Nat) :
    indentOf (List.replicate spaces ' ' ++ text) = spaces := by
  induction spaces with
  | zero =>
    cases text with
    | nil => rfl
    | cons char rest =>
      have noSpace : (char == ' ') = false := beq_false_of_ne fun same => starts (congrArg some same)
      simp [indentOf, noSpace]
  | succ spaces inductionHypothesis =>
    rw [List.replicate_succ, List.cons_append, indentOf, List.takeWhile_cons_of_pos (by decide),
      List.length_cons]
    exact congrArg (· + 1) inductionHypothesis

/-- Indentation changes nothing about a text being a header. -/
theorem isHeaderLine_replicate_append {text : Text} (filled : text ≠ []) (spaces : Nat) :
    isHeaderLine (List.replicate spaces ' ' ++ text) = isHeaderLine text := by
  have words : Text.words (List.replicate spaces ' ' ++ text) = Text.words text := by
    induction spaces with
    | zero => rfl
    | succ spaces inductionHypothesis =>
      rw [List.replicate_succ, List.cons_append, Text.words_cons_blank (by decide),
        inductionHypothesis]
  have ends : (List.replicate spaces ' ' ++ text).getLast? = text.getLast? := by
    rw [List.getLast?_append, List.getLast?_eq_some_getLast filled, Option.some_or]
  rw [isHeaderLine, isHeaderLine, words, ends]

/-- A contributing line writes its header, and an ellipsis if it is a function. -/
theorem writtenLines_eq (step : Nat) (line : Source.Line) (role : LineRole) :
    writtenLines step line role =
      (List.replicate line.spaces ' ' ++ shownText role line.text) ::
        if role.isFunction then [List.replicate (line.spaces + step) ' ' ++ ellipsis] else [] := by
  cases role <;> rfl

/-- The first line that a contributing line writes has its indentation, and is a header
if its role opens a body. -/
theorem first_written (names : CythonNames) {line : Source.Line} (tight : Text.Tight line.text) :
    ∃ first, List.replicate line.spaces ' ' ++ shownText (LineRole.of names line.text) line.text =
        first ∧
      first ≠ [] ∧ indentOf first = line.spaces ∧
      isHeaderLine first = opensBody line.text (LineRole.of names line.text) := by
  obtain ⟨char, starts, letter⟩ := head_shownText names tight
  have filled : shownText (LineRole.of names line.text) line.text ≠ [] := by
    intro empty
    rw [empty] at starts
    cases starts
  have noSpace := Text.ne_blank_of_letter ⟨char, starts, letter⟩ (by decide : Text.isBlank ' ')
  refine ⟨_, rfl, List.append_ne_nil_of_right_ne_nil _ filled,
    indentOf_replicate_append noSpace line.spaces, ?_⟩
  rw [isHeaderLine_replicate_append filled, isHeaderLine_shownText names tight]

/-- What a contributing line writes begins at its own indentation and ends at the
depth that it leaves, with a header if a body is awaited. Between the two there is at
most the step from a function header to its ellipsis. -/
theorem writtenLines_ends (names : CythonNames) {line : Source.Line} {role : LineRole} {step : Nat}
    (given : role = LineRole.of names line.text) (tight : Text.Tight line.text)
    (positive : 0 < step) :
    [] ∉ writtenLines step line role ∧ (writtenLines step line role).IsChain Nests ∧
      ∃ first last, (writtenLines step line role).head? = some first ∧
        (writtenLines step line role).getLast? = some last ∧ indentOf first = line.spaces ∧
        indentOf last = depthAfter step (line, role) ∧
        isHeaderLine last = awaitsBody (line, role) := by
  subst given
  obtain ⟨first, shown, filled, indent, header⟩ := first_written names tight
  rw [writtenLines_eq, shown]
  cases function : (LineRole.of names line.text).isFunction with
  | true =>
    obtain ⟨body, dots⟩ : ∃ body, List.replicate (line.spaces + step) ' ' ++ ellipsis = body :=
      ⟨_, rfl⟩
    have bodyFilled : body ≠ [] := dots ▸ List.append_ne_nil_of_right_ne_nil _ (by decide)
    have bodyIndent : indentOf body = line.spaces + step :=
      dots ▸ indentOf_replicate_append (by decide) _
    have bodyHeader : isHeaderLine body = false :=
      dots ▸ isHeaderLine_replicate_append (by decide) _
    have opens : isHeaderLine first = true := by
      cases role : LineRole.of names line.text with
      | functionHeader native =>
        rw [header, role]
        rfl
      | _ =>
        rw [role] at function
        cases function
    have nests : Nests first body := by
      rw [Nests, indent, bodyIndent, opens]
      exact iff_of_true (Nat.lt_add_of_pos_right positive) rfl
    simp only [dots, if_true]
    refine ⟨?_, List.isChain_pair.mpr nests, first, body, rfl, rfl, indent, ?_, ?_⟩
    · simp [filled.symm, bodyFilled.symm]
    · simp [bodyIndent, depthAfter, function]
    · simp [bodyHeader, awaitsBody, function]
  | false =>
    simp only [Bool.false_eq_true, if_false]
    refine ⟨?_, List.isChain_singleton _, first, first, rfl, rfl, indent, ?_, ?_⟩
    · simpa using filled.symm
    · simp [indent, depthAfter, function]
    · simp [header, awaitsBody, function]

section Body

variable {names : CythonNames} {step : Nat} {kept : List (Source.Line × LineRole)}

/-- The lines that the contributing lines write nest exactly when each contributing
line takes up what the one before it leaves. Inside what one line writes there is
nothing to require. -/
theorem isChain_written_iff (positive : 0 < step)
    (read : ∀ entry ∈ kept, entry.2 = LineRole.of names entry.1.text ∧ Text.Tight entry.1.text) :
    (kept.flatMap fun entry => writtenLines step entry.1 entry.2).IsChain Nests ↔
      kept.IsChain fun upper lower =>
        depthAfter step upper < lower.1.spaces ↔ awaitsBody upper := by
  have ends (entry : Source.Line × LineRole) (member : entry ∈ kept) :=
    writtenLines_ends names (read entry member).1 (read entry member).2 positive
  have filled : [] ∉ kept.map fun entry => writtenLines step entry.1 entry.2 := by
    intro empty
    obtain ⟨entry, member, nothing⟩ := List.mem_map.mp empty
    obtain ⟨_, _, first, _, starts, _⟩ := ends entry member
    rw [nothing] at starts
    cases starts
  have inside : ∀ lines ∈ kept.map fun entry => writtenLines step entry.1 entry.2,
      lines.IsChain Nests := by
    intro lines written
    obtain ⟨entry, member, rfl⟩ := List.mem_map.mp written
    exact (ends entry member).2.1
  rw [List.flatMap_def, List.isChain_flatten filled, and_iff_right inside, List.isChain_map]
  apply List.IsChain.iff_of_mem_imp
  intro upper lower upperKept lowerKept
  obtain ⟨_, _, _, last, _, upperEnds, _, depth, header⟩ := ends upper upperKept
  obtain ⟨_, _, first, _, lowerStarts, _, indent, _⟩ := ends lower lowerKept
  simp only [upperEnds, lowerStarts, Option.mem_some_iff, forall_eq', Nests, depth, header, indent]

/-- The lines that the contributing lines write form blocks exactly when the
contributing lines are settled. -/
theorem blockStructured_written_iff (positive : 0 < step)
    (read : ∀ entry ∈ kept, entry.2 = LineRole.of names entry.1.text ∧ Text.Tight entry.1.text) :
    BlockStructured (kept.flatMap fun entry => writtenLines step entry.1 entry.2) ↔
      Settled step kept := by
  have ends (entry : Source.Line × LineRole) (member : entry ∈ kept) :=
    writtenLines_ends names (read entry member).1 (read entry member).2 positive
  have filled : filledLines (kept.flatMap fun entry => writtenLines step entry.1 entry.2) =
      kept.flatMap fun entry => writtenLines step entry.1 entry.2 := by
    apply List.filter_eq_self.mpr
    intro line member
    obtain ⟨entry, inside, written⟩ := List.mem_flatMap.mp member
    have noEmpty := (ends entry inside).1
    apply decide_eq_true
    rintro rfl
    exact noEmpty written
  have start : (∀ line ∈ (kept.flatMap fun entry => writtenLines step entry.1 entry.2).head?,
      indentOf line = 0) ↔ ∀ first ∈ kept.head?, first.1.spaces = 0 := by
    cases kept with
    | nil => simp
    | cons entry rest =>
      obtain ⟨_, _, first, _, starts, _, indent, _⟩ := ends entry List.mem_cons_self
      simp [List.head?_append, starts, indent]
  have finish : (∀ line ∈ (kept.flatMap fun entry => writtenLines step entry.1 entry.2).getLast?,
      isHeaderLine line = false) ↔ ∀ last ∈ kept.getLast?, awaitsBody last = false := by
    rcases List.eq_nil_or_concat' kept with rfl | ⟨earlier, entry, rfl⟩
    · simp
    · obtain ⟨_, _, _, last, _, final, _, _, header⟩ := ends entry (by simp)
      simp [List.getLast?_append, final, header]
  have nested := isChain_written_iff positive read
  constructor
  · rintro ⟨noIndent, chain, noHeader⟩
    rw [filled] at noIndent chain noHeader
    exact ⟨start.mp noIndent, nested.mp chain, finish.mp noHeader⟩
  · rintro ⟨noIndent, chain, noHeader⟩
    refine ⟨?_, ?_, ?_⟩ <;> rw [filled]
    · exact start.mpr noIndent
    · exact nested.mpr chain
    · exact finish.mpr noHeader

end Body

/-- The heading that enumerations need changes nothing: it is not indented and no
header, so the line after it is held to what a first line is held to. -/
theorem blockStructured_heading_iff (body : List Text) :
    BlockStructured (enumHeading :: [] :: body) ↔ BlockStructured body := by
  have filled : filledLines (enumHeading :: [] :: body) = enumHeading :: filledLines body := by
    rw [filledLines, List.filter_cons_of_pos (by decide), List.filter_cons_of_neg (by decide)]
    rfl
  have indent : indentOf enumHeading = 0 := by decide
  have noHeader : isHeaderLine enumHeading = false := by decide +kernel
  have follows (line : Text) : Nests enumHeading line ↔ indentOf line = 0 := by
    rw [Nests, indent, noHeader]
    simp
  constructor
  · rintro ⟨_, chain, finish⟩
    rw [filled, List.isChain_cons] at chain
    rw [filled, List.getLast?_cons] at finish
    refine ⟨fun line first => (follows line).mp (chain.1 line first), chain.2, ?_⟩
    intro line last
    apply finish line
    rw [Option.mem_def.mp last]
    rfl
  · rintro ⟨start, chain, finish⟩
    refine ⟨?_, ?_, ?_⟩ <;> rw [filled]
    · simpa using indent
    · exact List.isChain_cons.mpr ⟨fun line first => (follows line).mpr (start line first), chain⟩
    · intro line last
      rw [List.getLast?_cons] at last
      cases remaining : (filledLines body).getLast? with
      | none =>
        obtain rfl : enumHeading = line := by simpa [remaining] using last
        exact noHeader
      | some other =>
        obtain rfl : other = line := by simpa [remaining] using last
        exact finish other remaining

/-- The stub of a file is block-structured exactly when the contributing lines of the
file are settled: the first is not indented, each is deeper than the depth before it
exactly if that was left by the header of a class, and no such header comes last. -/
theorem blockStructured_iff_settled (content : Text) (indentation : Indentation)
    (stub : List Text) (accepted : Indentation.infer (readLines content) = .ok indentation)
    (generated : generate content = .ok stub) :
    BlockStructured stub ↔
      Settled indentation.step (contributions (readLines content) indentation) := by
  obtain ⟨other, same, _, rfl⟩ := (generate_eq_ok_iff content stub).mp generated
  obtain rfl : indentation = other := Except.ok.inj (accepted.symm.trans same)
  have read : ∀ entry ∈ contributions (readLines content) indentation,
      entry.2 = LineRole.of (CythonNames.ofLines (readLines content)) entry.1.text ∧
        Text.Tight entry.1.text := by
    rintro ⟨line, role⟩ member
    obtain ⟨inside, given, _⟩ := role_of_mem_contributions member
    exact ⟨given, tight_of_mem_readLines inside⟩
  have body := blockStructured_written_iff (step_pos_of_infer accepted) read
  unfold nestingStub heading
  split
  · exact (blockStructured_heading_iff _).trans body
  · exact body

/-- A class with an attribute and a method below an import: its contributing lines are
settled, and the stub is block-structured. -/
theorem class_with_members_is_settled :
    let content : Text := "import os\nclass A:\n  x: int\n  def f(self):\n    return 1\n"
    Settled 2 (contributions (readLines content) ⟨some 2⟩) ∧
      BlockStructured
        ["import os", "class A:", "  x: int", "  def f(self):", "    ..."] := by
  have settled : Settled 2 (contributions
      (readLines "import os\nclass A:\n  x: int\n  def f(self):\n    return 1\n") ⟨some 2⟩) := by
    decide +kernel
  exact ⟨settled, (blockStructured_iff_settled _ ⟨some 2⟩ _ rfl rfl).mpr settled⟩

/-- Dropping block headers breaks the structure in each of three ways. A line from below
`try` comes first and is indented, a line from below `if` is deeper than the one before
it, and a class that holds only a block is left without a body. -/
theorem dropped_headers_break_blocks :
    (generate "try:\n    import fast\nexcept ImportError:\n    fast = None\n" =
        .ok ["    import fast"] ∧ ¬ BlockStructured ["    import fast"]) ∧
      (generate "import os\nif DEBUG:\n    import sys\n" = .ok ["import os", "    import sys"] ∧
        ¬ BlockStructured ["import os", "    import sys"]) ∧
      generate "class A:\n    if DEBUG:\n        x = 1\n" = .ok ["class A:"] ∧
        ¬ BlockStructured ["class A:"] :=
  ⟨⟨rfl, by decide +kernel⟩, ⟨rfl, by decide +kernel⟩, rfl, by decide +kernel⟩

end PyxProject.Stub
