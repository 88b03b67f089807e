import Mathlib.Data.List.Sort
import PyxProject.Files.Path

/-!
# The order of paths

Paths are ordered by their components, and components by their sorts and then by their
characters. The order is total, and only paths with the same components are equal in it. So
paths of which no two have the same components stand in strict order once they are sorted
(`sortPaths_increasing`).
-/

namespace PyxProject.Files

open Std

/-- A text is before another one exactly if it is neither after it nor the same. -/
theorem text_lt_iff (first second : Text) : first < second ↔ ¬second < first ∧ first ≠ second := by
  constructor
  · intro before
    exact ⟨fun after => List.lt_irrefl first (List.lt_trans before after),
      fun same => List.lt_irrefl second (same ▸ before)⟩
  · rintro ⟨notAfter, different⟩
    exact Decidable.byContradiction fun notBefore =>
      different (List.le_antisymm notAfter notBefore)

/-- Texts are compared as lists of characters are ordered. -/
instance transCmp_text : TransCmp fun first second : Text => compareOfLessAndEq first second :=
  TransOrd.compareOfLessAndEq_of_lt_trans_of_lt_iff List.lt_trans text_lt_iff

/-- Texts that compare as equal are the same. -/
theorem eq_of_compareText {first second : Text} (same : compareOfLessAndEq first second = .eq) :
    first = second := by
  rw [compareOfLessAndEq] at same
  split at same
  · cases same
  · split at same
    · assumption
    · cases same

namespace Component

/-- The characters of a component, if it is a name. -/
def label : Component → Text
  | .name text => text
  | _ => []

/-- Components are compared by their kinds first and by their labels then. -/
theorem compare_eq_compareLex : Component.compare =
    compareLex (compareOn compare.rank)
      (fun first second => compareOfLessAndEq first.label second.label) := by
  funext first second
  cases first <;> cases second <;> rfl

/-- Components with their labels compared are ordered as the labels are. -/
instance transCmp_label : TransCmp fun first second : Component =>
    compareOfLessAndEq first.label second.label where
  eq_swap := transCmp_text.eq_swap
  isLE_trans := transCmp_text.isLE_trans

/-- The order of components is transitive, as both of its parts are. -/
instance transCmp_compare : TransCmp Component.compare := by
  rw [compare_eq_compareLex]
  infer_instance

/-- Components that compare as equal are the same: kind and label make up a component. -/
instance lawfulEqCmp_compare : LawfulEqCmp Component.compare where
  eq_of_compare {first second} same := by
    rw [compare_eq_compareLex, compareLex_eq_eq] at same
    obtain ⟨sorts, labels⟩ := same
    have label := eq_of_compareText labels
    cases first <;> cases second <;> simp_all [compareOn, compare.rank, Component.label]

end Component

/-- Paths are equal in their order exactly if they have the same components. -/
theorem FilePath.compare_eq_eq {path other : FilePath} :
    path.compare other = .eq ↔ path.components = other.components := by
  rw [compare]
  exact LawfulEqCmp.compare_eq_iff_eq

/-- A path that is no later than a second one is no later than any path that the second is no
later than. -/
theorem FilePath.isLE_trans {first second third : FilePath} (before : (first.compare second).isLE)
    (after : (second.compare third).isLE) : (first.compare third).isLE := by
  rw [compare] at *
  exact TransCmp.isLE_trans before after

/-- Of two paths one is no later than the other. -/
theorem FilePath.isLE_total (first second : FilePath) :
    (first.compare second).isLE ∨ (second.compare first).isLE := by
  cases compared : first.compare second with
  | lt => exact .inl rfl
  | eq => exact .inl rfl
  | gt =>
    rw [compare] at *
    exact .inr (OrientedCmp.isLE_of_isGE (Ordering.isGE_of_eq_gt compared))

/-- Sorted paths of which no two have the same components stand in strict order. -/
theorem sortPaths_increasing {paths : List FilePath} (distinct : (paths.map FilePath.components).Nodup) :
    (sortPaths paths).Pairwise fun path other => path.compare other = .lt := by
  have sorted : (sortPaths paths).Pairwise fun path other => (path.compare other).isLE := by
    refine List.pairwise_mergeSort ?_ ?_ paths
    · exact fun first second third => FilePath.isLE_trans
    · exact fun first second => Bool.or_eq_true_iff.mpr (FilePath.isLE_total first second)
  have apart : (sortPaths paths).Pairwise fun path other => path.components ≠ other.components := by
    rw [sortPaths, ← List.pairwise_map, ← List.nodup_iff_pairwise_ne]
    exact ((List.mergeSort_perm paths _).map _).nodup_iff.mpr distinct
  refine (sorted.and apart).imp fun ⟨before, different⟩ => ?_
  rcases Ordering.isLE_iff_eq_lt_or_eq_eq.mp before with less | same
  · exact less
  · exact absurd (FilePath.compare_eq_eq.mp same) different

end PyxProject.Files
