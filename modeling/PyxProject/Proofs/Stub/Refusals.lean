import Mathlib.Algebra.GCDMonoid.Multiset
import Mathlib.Algebra.GCDMonoid.Nat
import Mathlib.Order.Bounds.Basic
import PyxProject.Proofs.Source.Numbers
import PyxProject.Proofs.Stub.Widths

/-!
# Which files are refused, and where

A file is refused for a blank in its indentation that is no space, for an indentation that
is no multiple of the smallest, or for a signature that goes on in the next line. Each of
these is looked for in the whole file before the next is, and is reported for the first
line at which it shows (`generate_refuses_exactly`).

The smallest indentation divides all others exactly if it is their greatest common divisor
(`eq_commonIndent_iff`). So a file is aligned if its smallest indentation and the greatest
common divisor of all of them are the same, and both are then the unit of the file.
-/

namespace PyxProject.Stub

open Source

/-- The indentations of the lines of a file that are indented. -/
def indents (lines : List Source.Line) : Set Nat :=
  {spaces | 0 < spaces ∧ ∃ line ∈ lines, line.spaces = spaces}

/-- The greatest common divisor of the indentations of all lines. -/
def commonIndent (lines : List Source.Line) : Nat :=
  (lines.map Source.Line.spaces : Multiset Nat).gcd

/-- The smallest indentation of a file, if there is one, is the greatest common divisor of
all of them. -/
def Aligned (lines : List Source.Line) : Prop :=
  ∀ unit, IsLeast (indents lines) unit → unit = commonIndent lines

/-- The smallest indentation is the least of the positive ones. -/
theorem smallestIndent_eq_some_iff {lines : List Source.Line} {unit : Nat} :
    smallestIndent? lines = some unit ↔ IsLeast (indents lines) unit := by
  have member (spaces : Nat) :
      spaces ∈ (lines.map Source.Line.spaces).filter (0 < ·) ↔ spaces ∈ indents lines := by
    simp [indents, and_comm]
  simp only [smallestIndent?, List.min?_eq_some_iff, member, IsLeast, lowerBounds,
    Set.mem_ofPred_eq]

/-- A file without an indented line has no smallest indentation. -/
theorem smallestIndent_eq_none {lines : List Source.Line} (flat : smallestIndent? lines = none)
    (unit : Nat) : ¬ IsLeast (indents lines) unit := by
  rw [← smallestIndent_eq_some_iff, flat]
  rintro ⟨⟩

/-- One of the indentations divides all others exactly if it is their greatest common
divisor. -/
theorem eq_commonIndent_iff {lines : List Source.Line} {unit : Nat} (member : unit ∈ indents lines) :
    unit = commonIndent lines ↔ ∀ line ∈ lines, unit ∣ line.spaces := by
  obtain ⟨_, line, inside, rfl⟩ := member
  have divides (divisor : Nat) : divisor ∣ commonIndent lines ↔ ∀ line ∈ lines, divisor ∣ line.spaces := by
    simp [commonIndent, Multiset.dvd_gcd]
  constructor
  · intro common
    exact (divides _).mp (dvd_of_eq common)
  · intro all
    exact Nat.dvd_antisymm ((divides _).mpr all) ((divides _).mp (Nat.dvd_refl _) line inside)

/-- Nothing but spaces indents the lines of a file. -/
def Untabbed (lines : List Source.Line) : Prop := ∀ line ∈ lines, line.tabbed = false

/-- No line of a file leaves a signature open. -/
def SignaturesClosed (lines : List Source.Line) : Prop :=
  ∀ line ∈ lines, opensSignature line.text = false

/-- Why a file is refused, and for which of its lines. Each reason counts only where none of
those before it applies anywhere in the file. -/
inductive Refused (lines : List Source.Line) : Source.Error → Prop
  /-- The first line that another blank than a space indents. -/
  | tab {line : Source.Line} (first : IsFirst (fun line => line.tabbed) lines line) :
      Refused lines (.tab line.number)
  /-- The first line whose indentation is no multiple of the smallest. -/
  | misaligned {unit : Nat} {line : Source.Line} (untabbed : Untabbed lines)
      (smallest : IsLeast (indents lines) unit) (uncommon : unit ≠ commonIndent lines)
      (first : IsFirst (fun line => ¬ unit ∣ line.spaces) lines line) :
      Refused lines (.misaligned line.number line.spaces unit)
  /-- The first line that leaves a signature open. -/
  | openSignature {line : Source.Line} (untabbed : Untabbed lines) (aligned : Aligned lines)
      (first : IsFirst (fun line => opensSignature line.text) lines line) :
      Refused lines (.openSignature line.number line.text)

/-- A file with a first tabbed line is tabbed. -/
theorem not_untabbed {lines : List Source.Line} {line : Source.Line}
    (first : IsFirst (fun line => line.tabbed) lines line) : ¬ Untabbed lines := by
  intro untabbed
  have tabbed : line.tabbed = true := first.holds
  rw [untabbed line first.member] at tabbed
  cases tabbed

section Numbered

variable {lines : List Source.Line}
  (increasing : lines.Pairwise fun first second => first.number < second.number)
include increasing

/-- An indentation is refused for one of the first two reasons, or neither applies. -/
theorem infer_cases :
    (∃ error, Refused lines error ∧ Indentation.infer lines = .error error) ∨
      Untabbed lines ∧ Aligned lines ∧ ∃ indentation, Indentation.infer lines = .ok indentation := by
  unfold Indentation.infer
  cases tabbed : lines.find? Source.Line.tabbed with
  | some line => exact .inl ⟨_, .tab ((find_eq_some_iff increasing).mp tabbed), rfl⟩
  | none =>
    have untabbed : Untabbed lines := by simpa [Untabbed] using tabbed
    cases smallest : smallestIndent? lines with
    | none =>
      refine .inr ⟨untabbed, fun unit least => ?_, _, rfl⟩
      exact absurd least (smallestIndent_eq_none smallest unit)
    | some unit =>
      have least := smallestIndent_eq_some_iff.mp smallest
      have common := eq_commonIndent_iff least.1
      dsimp only
      cases misfit : lines.find? fun line => line.spaces % unit ≠ 0 with
      | some line =>
        have first : IsFirst (fun line => ¬ unit ∣ line.spaces) lines line := by
          simpa [Nat.dvd_iff_mod_eq_zero] using (find_eq_some_iff increasing).mp misfit
        have uncommon : unit ≠ commonIndent lines := fun same =>
          first.holds (common.mp same line first.member)
        exact .inl ⟨_, .misaligned untabbed least uncommon first, rfl⟩
      | none =>
        have divides : ∀ line ∈ lines, unit ∣ line.spaces := by
          simpa [Nat.dvd_iff_mod_eq_zero] using misfit
        refine .inr ⟨untabbed, fun other otherLeast => ?_, _, rfl⟩
        rw [otherLeast.unique least]
        exact common.mpr divides

/-- A file is refused for one reason and one line. -/
theorem Refused.unique {first second : Source.Error} (refused : Refused lines first)
    (again : Refused lines second) : first = second := by
  cases refused with
  | tab isFirst =>
    cases again with
    | tab isSecond => rw [isFirst.unique increasing isSecond]
    | misaligned untabbed => exact absurd untabbed (not_untabbed isFirst)
    | openSignature untabbed => exact absurd untabbed (not_untabbed isFirst)
  | misaligned untabbed smallest uncommon isFirst =>
    cases again with
    | tab isSecond => exact absurd untabbed (not_untabbed isSecond)
    | misaligned _ otherSmallest _ isSecond =>
      obtain rfl := smallest.unique otherSmallest
      rw [isFirst.unique increasing isSecond]
    | openSignature _ aligned => exact absurd (aligned _ smallest) uncommon
  | openSignature untabbed aligned isFirst =>
    cases again with
    | tab isSecond => exact absurd untabbed (not_untabbed isSecond)
    | misaligned _ smallest uncommon => exact absurd (aligned _ smallest) uncommon
    | openSignature _ _ isSecond => rw [isFirst.unique increasing isSecond]

end Numbered

/-- A run is refused for one of the three reasons, or none of them applies. -/
theorem generate_cases (content : Text) :
    (∃ error, Refused (readLines content) error ∧ generate content = .error error) ∨
      Untabbed (readLines content) ∧ Aligned (readLines content) ∧
        SignaturesClosed (readLines content) ∧ ∃ stub, generate content = .ok stub := by
  have increasing := readLines_increasing content
  simp only [generate, stubLines, outline, bind, Except.bind, pure, Except.pure]
  rcases infer_cases increasing with ⟨error, refused, failed⟩ | ⟨untabbed, aligned, indentation, inferred⟩
  · exact .inl ⟨error, refused, by rw [failed]⟩
  · rw [inferred]
    cases search : (readLines content).find? fun line => opensSignature line.text with
    | some line =>
      exact .inl ⟨_, .openSignature untabbed aligned ((find_eq_some_iff increasing).mp search), rfl⟩
    | none => exact .inr ⟨untabbed, aligned, by simpa [SignaturesClosed] using search, _, rfl⟩

/-- Nothing is wrong with a file that is not refused. -/
theorem not_refused {lines : List Source.Line} (untabbed : Untabbed lines) (aligned : Aligned lines)
    (closed : SignaturesClosed lines) (error : Source.Error) : ¬ Refused lines error := by
  rintro (⟨first⟩ | ⟨_, smallest, uncommon, _⟩ | ⟨_, _, first⟩)
  · exact not_untabbed first untabbed
  · exact uncommon (aligned _ smallest)
  · simpa [closed _ first.member] using first.holds

/-- A file with an indented line has a smallest indentation. -/
theorem exists_isLeast {lines : List Source.Line} (indented : ∃ line ∈ lines, 0 < line.spaces) :
    ∃ unit, IsLeast (indents lines) unit := by
  cases smallest : smallestIndent? lines with
  | some unit => exact ⟨unit, smallestIndent_eq_some_iff.mp smallest⟩
  | none => exact absurd indented ((smallestIndent_eq_none_iff lines).mp smallest)

/-- The unit of an accepted file is the smallest indentation and the greatest common divisor
of all of them, and every line is indented by its level in units. -/
theorem unit_eq_commonIndent {lines : List Source.Line} {indentation : Indentation} {unit : Nat}
    (accepted : Indentation.infer lines = .ok indentation) (smallest : IsLeast (indents lines) unit) :
    indentation.unit = some unit ∧ unit = commonIndent lines ∧
      ∀ line ∈ lines, line.spaces = indentation.level line * unit := by
  have isUnit : indentation.unit = some unit := by
    rw [unit_of_infer accepted]
    exact smallestIndent_eq_some_iff.mpr smallest
  have divides := multiple_of_infer accepted isUnit
  refine ⟨isUnit, (eq_commonIndent_iff smallest.1).mpr divides, fun line member => ?_⟩
  rw [Indentation.level, isUnit]
  exact (Nat.div_mul_cancel (divides line member)).symm

/-- A run fails with an error exactly if the file is refused for that reason and line. -/
theorem generate_eq_error_iff (content : Text) (error : Source.Error) :
    generate content = .error error ↔ Refused (readLines content) error := by
  rcases generate_cases content with ⟨found, refused, failed⟩ | ⟨untabbed, aligned, closed, stub, made⟩
  · rw [failed]
    constructor
    · rintro ⟨⟩
      exact refused
    · intro again
      rw [refused.unique (readLines_increasing content) again]
  · rw [made]
    exact iff_of_false nofun (not_refused untabbed aligned closed error)

/-- A run gives a stub exactly if none of the three reasons applies. -/
theorem exists_stub_iff (content : Text) :
    (∃ stub, generate content = .ok stub) ↔
      Untabbed (readLines content) ∧ Aligned (readLines content) ∧
        SignaturesClosed (readLines content) := by
  constructor
  · rintro ⟨stub, made⟩
    rcases generate_cases content with ⟨error, _, failed⟩ | ⟨untabbed, aligned, closed, _⟩
    · rw [made] at failed
      cases failed
    · exact ⟨untabbed, aligned, closed⟩
  · rintro ⟨untabbed, aligned, closed⟩
    rcases generate_cases content with ⟨error, refused, _⟩ | ⟨_, _, _, made⟩
    · exact absurd refused (not_refused untabbed aligned closed error)
    · exact made

/-- A run is refused exactly for the first of the three reasons that applies, and for the
first line that gives it; otherwise it gives a stub. Whether a file is aligned is a matter of
the smallest indentation and the greatest common divisor, which are the same in an accepted
file and are its unit. The numbers are those of the lines of the file. -/
theorem generate_refuses_exactly (content : Text) :
    (∀ error, generate content = .error error ↔ Refused (readLines content) error) ∧
    ((∃ number found unit, generate content = .error (.misaligned number found unit)) ↔
      Untabbed (readLines content) ∧ ∃ unit, IsLeast (indents (readLines content)) unit ∧
        unit ≠ commonIndent (readLines content)) ∧
    ((∃ stub, generate content = .ok stub) ↔
      Untabbed (readLines content) ∧ Aligned (readLines content) ∧
        SignaturesClosed (readLines content)) ∧
    (∀ indentation, Indentation.infer (readLines content) = .ok indentation →
      (∃ line ∈ readLines content, 0 < line.spaces) →
        ∃ unit, IsLeast (indents (readLines content)) unit ∧ indentation.unit = some unit ∧
          unit = commonIndent (readLines content) ∧
          ∀ line ∈ readLines content, line.spaces = indentation.level line * unit) ∧
    ∀ line ∈ readLines content, ∃ raw, rawLine? content line.number = some raw ∧
      ReadFrom raw line := by
  refine ⟨generate_eq_error_iff content, ?_, exists_stub_iff content, ?_,
    fun line => mem_readLines_iff.mp⟩
  · constructor
    · rintro ⟨number, found, unit, failed⟩
      obtain ⟨⟩ | ⟨untabbed, smallest, uncommon, _⟩ := (generate_eq_error_iff content _).mp failed
      exact ⟨untabbed, unit, smallest, uncommon⟩
    · rintro ⟨untabbed, unit, smallest, uncommon⟩
      rcases generate_cases content with ⟨error, refused, failed⟩ | ⟨_, aligned, _⟩
      · cases refused with
        | tab first => exact absurd untabbed (not_untabbed first)
        | misaligned => exact ⟨_, _, _, failed⟩
        | openSignature _ aligned => exact absurd (aligned unit smallest) uncommon
      · exact absurd (aligned unit smallest) uncommon
  · intro indentation accepted indented
    obtain ⟨unit, smallest⟩ := exists_isLeast indented
    exact ⟨unit, smallest, unit_eq_commonIndent accepted smallest⟩

/-- A tab is reported before an indentation that is no multiple of the smallest one. -/
example : generate "# heading\n\nif a:\n  b\n   c\n\td\n" = .error (.tab 6) := rfl

/-- Without the tab the indentation is reported, by its number in the file. -/
example : generate "# heading\n\nif a:\n  b\n   c\n" = .error (.misaligned 5 3 2) := rfl

end PyxProject.Stub
