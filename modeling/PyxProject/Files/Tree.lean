import PyxProject.Files.Program

/-!
# File trees

A file tree lists its entries by their locations, the names on the way from the
root. The list is in the order of the locations, name by name, so an entry is
followed by everything below it. The root itself is a directory and not listed.

A tree is read through `get?`. Putting a node changes what is held at its location
and nowhere else (`get?_put_self`, `get?_put_of_ne`); erasing a location leaves
nothing there or below it, and everything elsewhere (`get?_erase`).
-/

namespace PyxProject.Files

/-- The names that lead from the root to an entry. -/
abbrev Location := List Text

/-- What a tree holds at a location. -/
inductive Node where
  | directory
  /-- A regular file, and whether it may be started. -/
  | file (content : ByteArray) (executable : Bool := false)
  /-- A symbolic link with its target as it was written. -/
  | link (target : Text)
  /-- A regular file that may be started, and what it then does. -/
  | program (program : Program)
  /-- A file that is neither regular nor a directory, such as a device. -/
  | device
deriving DecidableEq

/-- Whether a node is a file that may be started. -/
def Node.isExecutable : Node → Bool
  | .file _ executable => executable
  | .program _ => true
  | _ => false

/-- An entry of a tree. -/
abbrev Entry := Location × Node

/-- Put an entry at its place in an ordered list, over one at the same location. -/
def insertEntry (location : Location) (node : Node) : List Entry → List Entry
  | [] => [(location, node)]
  | entry :: rest =>
    if entry.1 < location then entry :: insertEntry location node rest
    else if entry.1 = location then (location, node) :: rest
    else (location, node) :: entry :: rest

/-- The entries of a list stand in the order of their locations. -/
def Ordered (entries : List Entry) : Prop :=
  entries.Pairwise fun first second => first.1 < second.1

/-- Inserting adds one location and no other. -/
theorem mem_insertEntry {location : Location} {node : Node} {entries : List Entry} {entry : Entry}
    (member : entry ∈ insertEntry location node entries) :
    entry = (location, node) ∨ entry ∈ entries := by
  induction entries with
  | nil => simpa [insertEntry] using member
  | cons head rest inductive_step =>
    simp only [insertEntry] at member
    split at member
    · rcases List.mem_cons.mp member with same | later
      · exact Or.inr (same ▸ List.mem_cons_self)
      · rcases inductive_step later with same | old
        · exact Or.inl same
        · exact Or.inr (List.mem_cons_of_mem _ old)
    · split at member
      · rcases List.mem_cons.mp member with same | later
        · exact Or.inl same
        · exact Or.inr (List.mem_cons_of_mem _ later)
      · rcases List.mem_cons.mp member with same | later
        · exact Or.inl same
        · exact Or.inr later

/-- Inserting keeps the order. -/
theorem ordered_insertEntry (location : Location) (node : Node) (entries : List Entry)
    (ordered : Ordered entries) : Ordered (insertEntry location node entries) := by
  induction entries with
  | nil => exact List.pairwise_singleton _ _
  | cons head rest inductive_step =>
    obtain ⟨head_first, rest_ordered⟩ := List.pairwise_cons.mp ordered
    simp only [insertEntry]
    split
    · rename_i before
      refine List.pairwise_cons.mpr ⟨?_, inductive_step rest_ordered⟩
      intro entry member
      rcases mem_insertEntry member with same | old
      · exact same ▸ before
      · exact head_first entry old
    · rename_i not_before
      split
      · rename_i same
        refine List.pairwise_cons.mpr ⟨?_, rest_ordered⟩
        intro entry member
        exact same ▸ head_first entry member
      · rename_i different
        have after : location < head.1 := Decidable.byContradiction fun not_after =>
          different (List.le_antisymm not_after not_before)
        refine List.pairwise_cons.mpr ⟨?_, ordered⟩
        intro entry member
        rcases List.mem_cons.mp member with same | later
        · exact same ▸ after
        · exact List.lt_trans after (head_first entry later)

/-- The entry that was inserted is found at its location. -/
theorem find?_insertEntry_self (location : Location) (node : Node) (entries : List Entry) :
    (insertEntry location node entries).find? (fun entry => entry.1 = location) =
      some (location, node) := by
  induction entries with
  | nil => simp [insertEntry]
  | cons head rest inductive_step =>
    simp only [insertEntry]
    split
    · rename_i before
      have different : head.1 ≠ location := fun same => List.lt_irrefl location (same ▸ before)
      simpa [List.find?_cons, different] using inductive_step
    · split <;> simp

/-- What is found at other locations is not changed by inserting. -/
theorem find?_insertEntry_of_ne {location other : Location} (different : other ≠ location)
    (node : Node) (entries : List Entry) :
    (insertEntry location node entries).find? (fun entry => entry.1 = other) =
      entries.find? (fun entry => entry.1 = other) := by
  have elsewhere : location ≠ other := Ne.symm different
  induction entries with
  | nil => simp [insertEntry, elsewhere]
  | cons head rest inductive_step =>
    simp only [insertEntry]
    split
    · simp only [List.find?_cons, inductive_step]
    · split
      · rename_i same
        simp [same, elsewhere]
      · simp [List.find?_cons, elsewhere]

/-- A file tree. -/
structure FileTree where
  entries : List Entry
  ordered : Ordered entries

namespace FileTree

/-- Trees are the same if their entries are: the proofs of their order do not count. -/
instance : DecidableEq FileTree := fun first second =>
  if same : first.entries = second.entries then
    isTrue (by cases first; cases second; cases same; rfl)
  else isFalse fun equal => same (equal ▸ rfl)

/-- The tree with no entries. -/
def empty : FileTree := ⟨[], List.Pairwise.nil⟩

/-- What a tree holds at a location. -/
def get? (tree : FileTree) (location : Location) : Option Node :=
  if location = [] then some .directory
  else (tree.entries.find? fun entry => entry.1 = location).map Prod.snd

/-- Put a node at a location. -/
def put (tree : FileTree) (location : Location) (node : Node) : FileTree :=
  ⟨insertEntry location node tree.entries, ordered_insertEntry location node _ tree.ordered⟩

/-- Take away a location with everything below it. -/
def erase (tree : FileTree) (location : Location) : FileTree :=
  ⟨tree.entries.filter fun entry => !location.isPrefixOf entry.1, tree.ordered.filter _⟩

/-- A node that was put is held at its location. -/
@[simp]
theorem get?_put_self (tree : FileTree) {location : Location} (inside : location ≠ [])
    (node : Node) : (tree.put location node).get? location = some node := by
  simp [get?, put, inside, find?_insertEntry_self]

/-- Putting a node leaves the other locations as they were. -/
theorem get?_put_of_ne (tree : FileTree) {location other : Location} (different : other ≠ location)
    (node : Node) : (tree.put location node).get? other = tree.get? other := by
  simp [get?, put, find?_insertEntry_of_ne different]

/-- Erasing takes away exactly the locations that start with the erased one. -/
theorem get?_erase (tree : FileTree) (location other : Location) (inside : other ≠ []) :
    (tree.erase location).get? other =
      if location.isPrefixOf other then none else tree.get? other := by
  simp only [get?, erase, inside, if_false, List.find?_filter]
  split
  · rename_i below
    rw [Option.map_eq_none_iff, List.find?_eq_none]
    intro entry _
    by_cases same : entry.1 = other
    · simp [same, below]
    · simp [same]
  · rename_i above
    congr 2
    funext entry
    by_cases same : entry.1 = other
    · simp [same, above]
    · simp [same]

/-- The entries below a location, with their locations taken from there. -/
def below (tree : FileTree) (location : Location) : List Entry :=
  tree.entries.filterMap fun (at_, node) =>
    if location.isPrefixOf at_ && location.length < at_.length then
      some (at_.drop location.length, node)
    else none

/-- The names directly below a location, in order. -/
def names (tree : FileTree) (location : Location) : List Text :=
  (tree.below location).filterMap fun (at_, _) =>
    match at_ with
    | [name] => some name
    | _ => none

/-- Whether a tree holds a directory at a location. -/
def holdsDirectory (tree : FileTree) (location : Location) : Bool :=
  tree.get? location == some .directory

end FileTree

end PyxProject.Files
