import PyxProject.Proofs.Source.Widths
import PyxProject.Proofs.Stub.Shown

/-!
# Stubs and the width of the indentation

A file that is indented more widely has the same stub, indented more widely: the unit of
the file, the step under a function header and the indentation of every line grow by one
factor, and the levels that decide what is shown stay. A file without indentation has the
stub that it had, since the step under its functions is none of its own.
-/

namespace PyxProject.Stub

open Source

/-- Widened lines bind the names that the lines bind. -/
theorem ofLines_widen (factor : Nat) (lines : List Source.Line) :
    CythonNames.ofLines (lines.map (Source.Line.widen factor)) = CythonNames.ofLines lines := by
  rw [CythonNames.ofLines, List.flatMap_map]
  rfl

/-- Widened lines have the shape that the lines have. -/
theorem keepsShape_widen {factor : Nat} (positive : 0 < factor) (lines : List Source.Line)
    (indentation : Indentation) :
    KeepsShape (Source.Line.widen factor) lines indentation (indentation.widen factor) where
  names := ofLines_widen factor lines
  roles _ _ := rfl
  levels line _ := level_widen positive indentation line

/-- What a widened line writes under a widened step is what the line writes, widened. No
text in a stub starts with a space, so all of the indentation is the line's own. -/
theorem writtenLines_widen (factor step : Nat) (names : CythonNames) {line : Source.Line}
    (tight : Text.Tight line.text) :
    writtenLines (factor * step) (line.widen factor) (LineRole.of names line.text) =
      (writtenLines step line (LineRole.of names line.text)).map (widenText factor) := by
  have starts : (shownText (LineRole.of names line.text) line.text).head? ≠ some ' ' :=
    Text.ne_blank_of_letter (head_shownText names tight) (by decide)
  have header : List.replicate (factor * line.spaces) ' ' ++
      shownText (LineRole.of names line.text) line.text =
      widenText factor (List.replicate line.spaces ' ' ++
        shownText (LineRole.of names line.text) line.text) :=
    (widenText_replicate_append factor line.spaces starts).symm
  have body : List.replicate (factor * line.spaces + factor * step) ' ' ++ ellipsis =
      widenText factor (List.replicate (line.spaces + step) ' ' ++ ellipsis) := by
    rw [widenText_replicate_append factor _ (by decide), Nat.mul_add]
  cases role : LineRole.of names line.text with
  | functionHeader native =>
    rw [role] at header
    simp only [writtenLines, Source.Line.widen, header, body, List.map_cons, List.map_nil]
  | _ =>
    rw [role] at header
    simp only [writtenLines, Source.Line.widen, header, List.map_cons, List.map_nil]

/-- The stub of widened lines with a widened unit is the stub of the lines, widened. -/
theorem nestingStub_widen {factor : Nat} (positive : 0 < factor) {lines : List Source.Line}
    (tight : ∀ line ∈ lines, Text.Tight line.text) (unit : Nat) :
    nestingStub (lines.map (Source.Line.widen factor)) ⟨some (factor * unit)⟩ =
      (nestingStub lines ⟨some unit⟩).map (widenText factor) := by
  have headings : (heading lines).map (widenText factor) = heading lines := by
    rw [heading]
    split
    · rw [List.map_cons, List.map_cons, widenText_of_head factor (by decide),
        widenText_of_head factor (by decide), List.map_nil]
    · rfl
  have bodies : ((contributions lines ⟨some unit⟩).flatMap fun entry =>
        writtenLines (factor * unit) (entry.1.widen factor) entry.2) =
      ((contributions lines ⟨some unit⟩).flatMap fun entry =>
        writtenLines unit entry.1 entry.2).map (widenText factor) := by
    rw [List.map_flatMap]
    apply List.flatMap_congr
    rintro ⟨line, role⟩ member
    obtain ⟨inside, rfl, _⟩ := role_of_mem_contributions member
    exact writtenLines_widen factor unit _ (tight line inside)
  have widened := (keepsShape_widen positive lines ⟨some unit⟩).nestingStub_eq
  simp only [Indentation.widen, Option.map_some, Indentation.step, Option.getD_some] at widened
  rw [widened, bodies, nestingStub, List.map_append, headings]
  rfl

/-- Lines without indentation are not changed by widening. -/
theorem map_widen_of_flat (factor : Nat) {lines : List Source.Line}
    (flat : ¬ ∃ line ∈ lines, 0 < line.spaces) :
    lines.map (Source.Line.widen factor) = lines := by
  have same : ∀ line ∈ lines, line.widen factor = line := by
    intro line member
    have unindented : line.spaces = 0 := by
      by_contra indented
      exact flat ⟨line, member, Nat.pos_of_ne_zero indented⟩
    rw [Source.Line.widen, unindented, Nat.mul_zero, ← unindented]
  rw [List.map_congr_left same, List.map_id']

/-- A file shows a unit of its own exactly if some line with code is indented. -/
theorem smallestIndent_eq_none_iff (lines : List Source.Line) :
    smallestIndent? lines = none ↔ ¬ ∃ line ∈ lines, 0 < line.spaces := by
  simp [smallestIndent?, List.min?_eq_none_iff]

/-- What a run on a widened file gives, by the lines of the file. -/
theorem generate_widen_eq_ok_iff {factor : Nat} (positive : 0 < factor) (content : Text)
    (stub : List Text) :
    generate (widen factor content) = .ok stub ↔
      ∃ indentation, Indentation.infer (readLines content) = .ok indentation ∧
        (∀ line ∈ readLines content, opensSignature line.text = false) ∧
        stub = nestingStub ((readLines content).map (Source.Line.widen factor))
          (indentation.widen factor) := by
  have closed : (∀ line ∈ (readLines content).map (Source.Line.widen factor),
      opensSignature line.text = false) ↔
        ∀ line ∈ readLines content, opensSignature line.text = false := by
    rw [List.forall_mem_map]
    rfl
  rw [generate_eq_ok_iff, readLines_widen positive]
  simp only [infer_widen positive, closed]
  constructor
  · rintro ⟨_, ⟨indentation, accepted, rfl⟩, signatures, same⟩
    exact ⟨indentation, accepted, signatures, same⟩
  · rintro ⟨indentation, accepted, signatures, same⟩
    exact ⟨_, ⟨indentation, accepted, rfl⟩, signatures, same⟩

/-- A file with every indentation taken a number of times has a stub exactly if the file
has one. Where some line with code is indented, the stub is the one of the file with every
indentation taken as many times, that of the ellipses included; where none is, the two
stubs are the same. -/
theorem generate_widen (factor : Nat) (positive : 0 < factor) (content : Text) :
    ((∃ stub, generate (widen factor content) = .ok stub) ↔ ∃ stub, generate content = .ok stub) ∧
      ∀ stub, generate content = .ok stub →
        generate (widen factor content) = .ok
          (if ∃ line ∈ readLines content, 0 < line.spaces then stub.map (widenText factor)
            else stub) := by
  refine ⟨?_, fun stub generated => ?_⟩
  · simp only [generate_widen_eq_ok_iff positive, generate_eq_ok_iff]
    constructor
    · rintro ⟨_, indentation, accepted, closed, rfl⟩
      exact ⟨_, indentation, accepted, closed, rfl⟩
    · rintro ⟨_, indentation, accepted, closed, rfl⟩
      exact ⟨_, indentation, accepted, closed, rfl⟩
  · obtain ⟨indentation, accepted, closed, rfl⟩ := (generate_eq_ok_iff content stub).mp generated
    refine (generate_widen_eq_ok_iff positive content _).mpr ⟨indentation, accepted, closed, ?_⟩
    have inferred := unit_of_infer accepted
    cases smallest : smallestIndent? (readLines content) with
    | none =>
      rw [smallest] at inferred
      have flat := (smallestIndent_eq_none_iff _).mp smallest
      rw [if_neg flat, map_widen_of_flat factor flat, inferred]
      rfl
    | some unit =>
      rw [smallest] at inferred
      have indented : ∃ line ∈ readLines content, 0 < line.spaces := by
        by_contra flat
        rw [(smallestIndent_eq_none_iff _).mpr flat] at smallest
        cases smallest
      have tight : ∀ line ∈ readLines content, Text.Tight line.text := fun line member =>
        tight_of_mem_readLines member
      rw [if_pos indented, inferred]
      exact (nestingStub_widen positive tight unit).symm

/-- A class with a method, widened three times. The ellipsis moves with the method, and a
comment that fits no unit does not matter. -/
theorem class_widened_three_times :
    let content : Text := "class A:\n  x = 1\n   # note\n  def f(self):\n    pass\n"
    let stub : List Text := ["class A:", "  x = 1", "  def f(self):", "    ..."]
    (∃ line ∈ readLines content, 0 < line.spaces) ∧ generate content = .ok stub ∧
      generate (widen 3 content) = .ok (stub.map (widenText 3)) ∧
      stub.map (widenText 3) =
        ["class A:", "      x = 1", "      def f(self):", "            ..."] := by
  have indented : ∃ line ∈ readLines "class A:\n  x = 1\n   # note\n  def f(self):\n    pass\n",
      0 < line.spaces := ⟨⟨2, 2, false, "x = 1"⟩, by decide, by decide⟩
  have widened := (generate_widen 3 (by decide)
    "class A:\n  x = 1\n   # note\n  def f(self):\n    pass\n").2 _ rfl
  rw [if_pos indented] at widened
  exact ⟨indented, rfl, widened, rfl⟩

end PyxProject.Stub
