import PyxProject.Proofs.Source.Lines
import PyxProject.Proofs.Stub.Contributions

/-!
# Bodies of classes

The body of a class is laid out by the line right after its header: what is aligned
with that line, before anything shallower comes, belongs to the body. Whether the stub
shows a statement there is decided by levels instead, and those are counted in the
smallest indentation of the whole file.

The two agree as long as the body is one unit deeper than its header. A body that is
indented further, in a file that has a smaller indentation elsewhere, is lost as a
whole (`statement_of_class_body`). What else stands between the header and the
statement has no part in it: nested classes, functions and blocks are deeper than the
statement and are closed when it is reached.
-/

namespace PyxProject.Stub

open Source

/-- The indentation of the line at a position. A position past the end is never asked
for. -/
def spacesAt (lines : List Source.Line) (position : Nat) : Nat :=
  match lines[position]? with
  | some line => line.spaces
  | none => 0

/-- A line is aligned with the body below a header: the line after the header is deeper
than the header, nothing from there on is shallower than that line, and the line is
exactly as deep. -/
structure AlignedBelow (lines : List Source.Line) (header position : Nat) : Prop where
  after : header < position
  deeper : spacesAt lines header < spacesAt lines (header + 1)
  unbroken : ∀ between ≤ position, header < between →
    spacesAt lines (header + 1) ≤ spacesAt lines between
  aligned : spacesAt lines position = spacesAt lines (header + 1)

/-- A line that is aligned with the body below the header of a class has that header as its
parent, so it stands in a class body exactly if it is one level deeper. A header further down is
no shallower than the line, so it does not enclose it. -/
theorem inClassBody_iff_of_aligned {role : Nat → LineRole} {level : Nat → Nat}
    {header position : Nat} (kind : role header = .classHeader ∨ role header = .enumHeader)
    (after : header < position) (deeper : level header < level position)
    (unbroken : ∀ between < position, header < between → level position ≤ level between) :
    InClassBody role level position ↔ level position = level header + 1 := by
  have isHeader : (role header).isHeader := by
    rcases kind with kind | kind <;> rw [kind] <;> rfl
  have encloses : Encloses role level header position := by
    refine ⟨after, isHeader, deeper, fun between before later => ?_⟩
    exact Nat.lt_of_lt_of_le deeper (unbroken between before later)
  have nearest : ∀ other < position, Encloses role level other position → other ≤ header := by
    intro other before enclosing
    apply Nat.le_of_not_lt
    intro later
    have shallower : level other < level position := enclosing.2.2.1
    have noShallower : level position ≤ level other := unbroken other before later
    omega
  constructor
  · rintro ⟨outer, before, ⟨enclosing, last⟩, _, oneBelow⟩
    have same : outer = header :=
      Nat.le_antisymm (nearest outer before enclosing) (last header after encloses)
    rw [oneBelow, same]
  · intro oneBelow
    exact ⟨header, after, ⟨encloses, nearest⟩, kind, oneBelow⟩

/-- Every line of an accepted file is indented by its level in units. -/
theorem spacesAt_eq_mul {lines : List Source.Line} {indentation : Indentation} {unit : Nat}
    (accepted : Indentation.infer lines = .ok indentation) (indented : indentation.unit = some unit)
    (position : Nat) : spacesAt lines position = levelAt lines indentation position * unit := by
  unfold spacesAt levelAt
  cases located : lines[position]? with
  | none => simp
  | some line =>
    have aligned := multiple_of_infer accepted indented line (List.mem_of_getElem? located)
    simp only [Indentation.level, indented]
    exact (Nat.div_mul_cancel aligned).symm

/-- A file with an indented line has a unit. -/
theorem unit_of_indented {lines : List Source.Line} {indentation : Indentation} {position : Nat}
    (accepted : Indentation.infer lines = .ok indentation) (indented : 0 < spacesAt lines position) :
    ∃ unit, indentation.unit = some unit := by
  unfold spacesAt at indented
  cases located : lines[position]? with
  | none => simp [located] at indented
  | some line =>
    rw [located] at indented
    apply Option.ne_none_iff_exists'.mp
    rw [unit_of_infer accepted]
    intro flat
    have noneIndented := List.min?_eq_none_iff.mp flat
    rw [List.filter_eq_nil_iff] at noneIndented
    have member : line.spaces ∈ lines.map Source.Line.spaces :=
      List.mem_map_of_mem (List.mem_of_getElem? located)
    simpa using (noneIndented _ member) (by simpa using indented)

/-- A stub is its heading, what the lines before a position write, what the line at the
position writes, and what the lines after it write. -/
theorem nestingStub_at {lines : List Source.Line} {position : Nat} {line : Source.Line}
    (indentation : Indentation) (located : lines[position]? = some line) :
    nestingStub lines indentation =
      heading lines ++ writtenFrom lines indentation 0 (lines.take position) ++
        writtenFrom lines indentation position [line] ++
        writtenFrom lines indentation (position + 1) (lines.drop (position + 1)) := by
  have append (offset : Nat) (first second : List Source.Line) :
      writtenFrom lines indentation offset (first ++ second) =
        writtenFrom lines indentation offset first ++
          writtenFrom lines indentation (offset + first.length) second := by
    simp only [writtenFrom, List.zipIdx_append, List.filterMap_append, List.flatMap_append]
  obtain ⟨inside, same⟩ := List.getElem?_eq_some_iff.mp located
  have whole : lines.take position ++ ([line] ++ lines.drop (position + 1)) = lines := by
    rw [← same, List.singleton_append, ← List.drop_eq_getElem_cons inside, List.take_append_drop]
  have before : (lines.take position).length = position :=
    List.length_take_of_le (Nat.le_of_lt inside)
  calc nestingStub lines indentation
      = heading lines ++ writtenFrom lines indentation 0
          (lines.take position ++ ([line] ++ lines.drop (position + 1))) := by rw [whole]; rfl
    _ = _ := by
      rw [append, append, before, Nat.zero_add, List.length_singleton, List.append_assoc,
        List.append_assoc]

section Body

variable {lines : List Source.Line} {indentation : Indentation} {header position : Nat}

/-- In an accepted file, a line that is aligned with the body below a class stands in a class body
exactly if that body is one unit deeper than the header. Comparing indentations is comparing
levels, since both count the same unit. -/
theorem inClassBody_iff_one_unit (accepted : Indentation.infer lines = .ok indentation)
    (kind : roleAt lines header = .classHeader ∨ roleAt lines header = .enumHeader)
    (below : AlignedBelow lines header position) :
    InClassBody (roleAt lines) (levelAt lines indentation) position ↔
      spacesAt lines (header + 1) = spacesAt lines header + indentation.step := by
  obtain ⟨unit, indented⟩ := unit_of_indented accepted (Nat.zero_lt_of_lt below.deeper)
  have positive : 0 < unit := unit_pos_of_infer accepted indented
  have step : indentation.step = unit := by simp [Indentation.step, indented]
  have spaces (place : Nat) : spacesAt lines place = levelAt lines indentation place * unit :=
    spacesAt_eq_mul accepted indented place
  have aligned : levelAt lines indentation position = levelAt lines indentation (header + 1) := by
    have same := below.aligned
    rw [spaces, spaces] at same
    exact Nat.eq_of_mul_eq_mul_right positive same
  have deeper : levelAt lines indentation header < levelAt lines indentation position := by
    have further := below.deeper
    rw [spaces, spaces, ← aligned] at further
    exact Nat.lt_of_mul_lt_mul_right further
  have unbroken : ∀ between < position, header < between →
      levelAt lines indentation position ≤ levelAt lines indentation between := by
    intro between before after
    have noShallower := below.unbroken between (Nat.le_of_lt before) after
    rw [spaces, spaces, ← aligned] at noShallower
    exact Nat.le_of_mul_le_mul_right noShallower positive
  rw [inClassBody_iff_of_aligned kind below.after deeper unbroken, spaces, spaces, step, ← aligned,
    ← Nat.succ_mul]
  constructor
  · intro oneBelow
    rw [oneBelow]
  · exact Nat.eq_of_mul_eq_mul_right positive

end Body

/-- A plain statement that is aligned with the body below the header of a class is
written at its place, between what the lines before it and the lines after it write, if
the body is one unit deeper than the header; it is its indentation and its squeezed
text. If the body is deeper than that, the statement is left out. -/
theorem statement_of_class_body (content : Text) (indentation : Indentation) (line : Source.Line)
    (header position : Nat)
    (accepted : Indentation.infer (readLines content) = .ok indentation)
    (closed : ∀ line ∈ readLines content, opensSignature line.text = false)
    (kind : roleAt (readLines content) header = .classHeader ∨
      roleAt (readLines content) header = .enumHeader)
    (below : AlignedBelow (readLines content) header position)
    (located : (readLines content)[position]? = some line)
    (statement : roleAt (readLines content) position = .statement) :
    generate content = .ok
      (heading (readLines content) ++
        writtenFrom (readLines content) indentation 0 ((readLines content).take position) ++
        (if spacesAt (readLines content) (header + 1) =
            spacesAt (readLines content) header + indentation.step then
          [List.replicate line.spaces ' ' ++ Text.squeeze line.text]
        else []) ++
        writtenFrom (readLines content) indentation (position + 1)
          ((readLines content).drop (position + 1))) := by
  refine (generate_eq_ok_iff content _).mpr ⟨indentation, accepted, closed, ?_⟩
  have placed := inClassBody_iff_one_unit accepted kind below
  rw [nestingStub_at indentation located]
  by_cases oneUnit : spacesAt (readLines content) (header + 1) =
      spacesAt (readLines content) header + indentation.step
  · have contributes : Contributes (roleAt (readLines content))
        (levelAt (readLines content) indentation) position := .inr ⟨statement, placed.mpr oneUnit⟩
    rw [writtenFrom_of_contributes contributes, if_pos oneUnit, statement]
    rfl
  · have hidden : ¬ Contributes (roleAt (readLines content))
        (levelAt (readLines content) indentation) position := by
      rintro (definition | ⟨_, inClass⟩)
      · rw [statement] at definition
        cases definition
      · exact oneUnit (placed.mp inClass)
    rw [writtenFrom_of_hidden hidden, if_neg oneUnit]
    rfl

/-- An attribute after a method with a body of its own is still written. -/
theorem attribute_after_method :
    let content : Text := "class A:\n  def f(self):\n    y = 2\n  x  =  1\n"
    AlignedBelow (readLines content) 0 3 ∧
      generate content = .ok ["class A:", "  def f(self):", "    ...", "  x = 1"] := by
  have below : AlignedBelow
      (readLines "class A:\n  def f(self):\n    y = 2\n  x  =  1\n") 0 3 :=
    ⟨by decide, by decide, by decide +kernel, by decide⟩
  exact ⟨below, statement_of_class_body _ ⟨some 2⟩ ⟨4, 2, false, "x  =  1"⟩ 0 3 rfl
    (closed_of_all rfl) (.inl rfl) below rfl rfl⟩

/-- A class body that is two units deep, since a later function is indented less, is
lost. -/
theorem deep_class_body_is_lost :
    let content : Text := "class A:\n    x = 1\ndef f():\n  return 1\n"
    roleAt (readLines content) 0 = .classHeader ∧ roleAt (readLines content) 1 = .statement ∧
      AlignedBelow (readLines content) 0 1 ∧
      generate content = .ok ["class A:", "def f():", "  ..."] :=
  ⟨rfl, rfl, ⟨by decide, by decide, by decide +kernel, by decide⟩, rfl⟩

end PyxProject.Stub
