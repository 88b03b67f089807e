import PyxProject.Source.Outline

/-!
# Lexical nesting

Where a line stands is decided twice. The outline carries a stack of open scopes
from line to line. Here the same question is answered from the positions alone: a
header encloses a later line when that line is deeper than the header and every
line between the two is deeper as well, and the parent of a line is the last header
that encloses it.

The stack before a line, closed for that line, holds exactly the enclosing headers,
the nearest first (`close_scopesBefore`). The placement that the outline gives to a
line is therefore the one that its parent gives (`inClass_iff`), and the lines that
the outline keeps are the ones that contribute by nesting (`isKept_iff_contributes`).
No assumption is made about the levels: a line may skip levels, and a dedent may lead
to a level that no earlier line has.
-/

namespace PyxProject.Source

/-- Whether a line of this role has a body: the header of a class, an enumeration or
a function. -/
def LineRole.isHeader : LineRole → Bool
  | .classHeader | .enumHeader | .functionHeader _ => true
  | .importStatement | .decorator | .directive | .blockHeader | .statement => false

/-- Whether a line of this role is the header of a function. -/
def LineRole.isFunction : LineRole → Bool
  | .functionHeader _ => true
  | _ => false

/-- What the body of a header belongs to. Asked of headers only. -/
def LineRole.body : LineRole → Body
  | .functionHeader _ => .ofFunction
  | _ => .ofClass

section Positions

variable (role : Nat → LineRole) (level : Nat → Nat)

/-- The header at one position encloses the line at a later position: that line and
all lines between the two are deeper than the header. -/
def Encloses (outer inner : Nat) : Prop :=
  outer < inner ∧ (role outer).isHeader ∧ level outer < level inner ∧
    ∀ between < inner, outer < between → level outer < level between

instance (outer inner : Nat) : Decidable (Encloses role level outer inner) :=
  inferInstanceAs (Decidable (_ ∧ _))

/-- The parent of a line is the last header that encloses it. -/
def IsParent (outer inner : Nat) : Prop :=
  Encloses role level outer inner ∧
    ∀ other < inner, Encloses role level other inner → other ≤ outer

instance (outer inner : Nat) : Decidable (IsParent role level outer inner) :=
  inferInstanceAs (Decidable (_ ∧ _))

/-- A line stands directly in the body of a class or of an enumeration: its parent is
the header of one, exactly one level above. -/
def InClassBody (inner : Nat) : Prop :=
  ∃ outer < inner, IsParent role level outer inner ∧
    (role outer = .classHeader ∨ role outer = .enumHeader) ∧ level inner = level outer + 1

instance (inner : Nat) : Decidable (InClassBody role level inner) :=
  inferInstanceAs (Decidable (∃ outer < inner, _))

/-- A line contributes to the stub when it is a definition, wherever it stands, or a
plain statement directly in the body of a class. -/
def Contributes (position : Nat) : Prop :=
  (role position).isDefinition ∨ role position = .statement ∧ InClassBody role level position

instance (position : Nat) : Decidable (Contributes role level position) :=
  inferInstanceAs (Decidable (_ ∨ _))

/-- The stack of open scopes before a position, carried over all earlier lines. -/
def scopesBefore : Nat → Scopes
  | 0 => []
  | position + 1 => ((scopesBefore position).pass (role position) (level position)).1

/-- The body of a header is still open before a position, for a line at the given
level. With the level of the line at that position this is `Encloses`. -/
def StillOpen (position bound outer : Nat) : Prop :=
  (role outer).isHeader ∧ level outer < bound ∧
    ∀ between < position, outer < between → level outer < level between

instance (position bound outer : Nat) : Decidable (StillOpen role level position bound outer) :=
  inferInstanceAs (Decidable (_ ∧ _))

/-- The headers whose bodies are still open before a position, the nearest first. -/
def openHeaders (position bound : Nat) : List Nat :=
  (List.range position).reverse.filter (StillOpen role level position bound)

end Positions

/-- A role opens a scope exactly when it is the role of a header. -/
theorem opens_eq (role : LineRole) :
    role.opens? = if role.isHeader then some role.body else none := by
  cases role <;> rfl

/-- Closing for one level and then for another is closing for the lower of the two. -/
theorem close_close (scopes : Scopes) (first second : Nat) :
    (scopes.close first).close second = scopes.close (min first second) := by
  induction scopes with
  | nil => rfl
  | cons scope rest inductionHypothesis =>
    by_cases closed : first ≤ scope.level
    · have closedByBoth : min first second ≤ scope.level := Nat.le_trans (Nat.min_le_left _ _) closed
      simpa [Scopes.close, closed, closedByBoth] using inductionHypothesis
    · by_cases closedLater : second ≤ scope.level
      · have lower : min first second = second := by omega
        simp [Scopes.close, closed, closedLater, lower]
      · have remains : ¬ min first second ≤ scope.level := by omega
        simp only [Scopes.close, List.dropWhile_cons, closed, closedLater, remains, decide_false,
          Bool.false_eq_true, if_false]

/-- What a line leaves open for a later one: its own scope, if it has one and the later line is
deeper, and below it what was open for both. -/
theorem close_enter (scopes : Scopes) (role : LineRole) (level bound : Nat) :
    ((scopes.close level).enter role level).close bound =
      if role.isHeader ∧ level < bound then ⟨role.body, level⟩ :: scopes.close (min level bound)
      else scopes.close (min level bound) := by
  rw [Scopes.enter, opens_eq]
  by_cases header : role.isHeader
  · by_cases deeper : level < bound
    · have lower : min level bound = level := Nat.min_eq_left (Nat.le_of_lt deeper)
      have remains : ¬ bound ≤ level := Nat.not_le_of_lt deeper
      simp [Scopes.close, header, deeper, lower, remains]
    · rw [if_pos header, if_neg fun both => deeper both.2, ← close_close]
      exact List.dropWhile_cons_of_pos (by simpa using deeper)
  · rw [if_neg header, if_neg fun both => header both.1, ← close_close]

section Stack

variable (role : Nat → LineRole) (level : Nat → Nat)

/-- One more line hides the headers that it is not deeper than. -/
theorem stillOpen_succ_iff {position bound outer : Nat} (before : outer < position) :
    StillOpen role level (position + 1) bound outer ↔
      StillOpen role level position (min (level position) bound) outer := by
  constructor
  · rintro ⟨header, shallower, unbroken⟩
    have last : level outer < level position := unbroken position (by omega) before
    exact ⟨header, by omega, fun between inside => unbroken between (by omega)⟩
  · rintro ⟨header, shallower, unbroken⟩
    refine ⟨header, by omega, fun between inside after => ?_⟩
    rcases Nat.lt_succ_iff_lt_or_eq.mp inside with inside | rfl
    · exact unbroken between inside after
    · omega

/-- One more line: what it leaves open for a later line is its own body, if it has one and the
later line is deeper, before the bodies that were open for both. -/
theorem openHeaders_succ (position bound : Nat) :
    openHeaders role level (position + 1) bound =
      if (role position).isHeader ∧ level position < bound then
        position :: openHeaders role level position (min (level position) bound)
      else openHeaders role level position (min (level position) bound) := by
  have earlier : ∀ outer ∈ (List.range position).reverse,
      decide (StillOpen role level (position + 1) bound outer) =
        decide (StillOpen role level position (min (level position) bound) outer) := by
    intro outer member
    have before : outer < position := by simpa using member
    exact decide_eq_decide.mpr (stillOpen_succ_iff role level before)
  have own : StillOpen role level (position + 1) bound position ↔
      (role position).isHeader ∧ level position < bound := by
    constructor
    · exact fun still => ⟨still.1, still.2.1⟩
    · exact fun ⟨header, deeper⟩ => ⟨header, deeper, fun between inside after => by omega⟩
  simp only [openHeaders, List.range_succ, List.reverse_append, List.reverse_singleton,
    List.singleton_append, List.filter_cons, List.filter_congr earlier, own, decide_eq_true_eq]

/-- The stack before a position, closed for a line at any level, holds exactly the
headers whose bodies are still open for that line, the nearest first.

The induction is over the lines passed. What the last of them leaves open for a later line is
given in the same form on both sides, by its own body and by what was open for both lines. -/
theorem close_scopesBefore (position bound : Nat) :
    (scopesBefore role level position).close bound =
      (openHeaders role level position bound).map
        fun outer => ⟨(role outer).body, level outer⟩ := by
  induction position generalizing bound with
  | zero => rfl
  | succ position inductionHypothesis =>
    have passed : scopesBefore role level (position + 1) =
        ((scopesBefore role level position).close (level position)).enter (role position)
          (level position) := rfl
    rw [passed, close_enter, openHeaders_succ, inductionHypothesis]
    split <;> rfl

/-- A header is open for the line at a position exactly when it encloses that line. -/
theorem mem_openHeaders_iff {outer inner : Nat} :
    outer ∈ openHeaders role level inner (level inner) ↔ Encloses role level outer inner := by
  simp only [openHeaders, List.mem_filter, List.mem_reverse, List.mem_range, decide_eq_true_eq]
  exact Iff.rfl

/-- The open headers come in descending order, so the first of them is the last in
the file. -/
theorem openHeaders_descending (position bound : Nat) :
    (openHeaders role level position bound).Pairwise (· > ·) := by
  have descending : (List.range position).reverse.Pairwise (· > ·) := by
    simpa [List.pairwise_reverse] using List.pairwise_lt_range
  exact descending.filter _

/-- The first open header is the parent. -/
theorem head_openHeaders_iff {outer inner : Nat} :
    (openHeaders role level inner (level inner)).head? = some outer ↔
      IsParent role level outer inner := by
  have member (other : Nat) : other ∈ openHeaders role level inner (level inner) ↔
      Encloses role level other inner := mem_openHeaders_iff role level
  have descending := openHeaders_descending role level inner (level inner)
  cases headers : openHeaders role level inner (level inner) with
  | nil =>
    have none (other : Nat) : ¬ Encloses role level other inner := by
      rw [← member, headers]
      exact List.not_mem_nil
    simp [IsParent, none]
  | cons first rest =>
    rw [headers] at descending
    have encloses (other : Nat) : Encloses role level other inner ↔ other = first ∨ other ∈ rest := by
      rw [← member, headers, List.mem_cons]
    have largest : ∀ other ∈ rest, other < first := (List.pairwise_cons.mp descending).1
    simp only [List.head?_cons, Option.some.injEq]
    constructor
    · rintro rfl
      refine ⟨(encloses first).mpr (.inl rfl), fun other _ enclosing => ?_⟩
      rcases (encloses other).mp enclosing with rfl | later
      · exact Nat.le_refl other
      · exact Nat.le_of_lt (largest other later)
    · rintro ⟨enclosing, last⟩
      have firstEncloses : Encloses role level first inner := (encloses first).mpr (.inl rfl)
      have atMost : first ≤ outer := last first firstEncloses.1 firstEncloses
      rcases (encloses outer).mp enclosing with same | later
      · exact same.symm
      · have below : outer < first := largest outer later
        omega

/-- The outline places a line in the body of a class exactly when its parent is the
header of a class or an enumeration one level above it. -/
theorem inClass_iff (inner : Nat) :
    (((scopesBefore role level inner).close (level inner)).placement (level inner)).inClass ↔
      InClassBody role level inner := by
  rw [close_scopesBefore, Scopes.placement, List.head?_map]
  cases parent : (openHeaders role level inner (level inner)).head? with
  | none =>
    have orphan (outer : Nat) : ¬ IsParent role level outer inner := by
      rw [← head_openHeaders_iff, parent]
      rintro ⟨⟩
    simp [InClassBody, orphan]
  | some outer =>
    have isParent : IsParent role level outer inner := (head_openHeaders_iff role level).mp parent
    have only (other : Nat) (also : IsParent role level other inner) : other = outer := by
      have same := ((head_openHeaders_iff role level).mpr also).symm.trans parent
      exact Option.some.inj same
    have ofClass : (role outer).body = .ofClass ↔
        role outer = .classHeader ∨ role outer = .enumHeader := by
      have header : (role outer).isHeader := isParent.1.2.1
      cases kind : role outer <;> simp_all [LineRole.body, LineRole.isHeader]
    simp only [Option.map_some, Bool.and_eq_true, beq_iff_eq, ofClass]
    constructor
    · rintro ⟨kind, oneBelow⟩
      exact ⟨outer, isParent.1.1, isParent, kind, oneBelow⟩
    · rintro ⟨other, _, also, kind, oneBelow⟩
      rw [only other also] at kind oneBelow
      exact ⟨kind, oneBelow⟩

/-- A line that the outline keeps is one that contributes by nesting. -/
theorem isKept_iff_contributes (position : Nat) :
    Entry.isKept ⟨role position, level position,
        ((scopesBefore role level position).close (level position)).placement (level position)⟩ ↔
      Contributes role level position := by
  have placed := inClass_iff role level position
  cases kind : role position <;>
    simp [Entry.isKept, Contributes, kind, LineRole.isDefinition, placed]

end Stack

end PyxProject.Source
