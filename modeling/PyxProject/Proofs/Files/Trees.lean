import Mathlib.Data.List.Induction
import Mathlib.Data.List.Sort
import PyxProject.Files.Resolution

/-!
# Trees as sets of entries

A tree is determined by its entries (`eq_of_mem_iff`), so nodes that are put at different
locations may be put in either order (`put_comm`). A tree as a file system has it is closed:
what is not at the top lies in a directory, and every name is one that a path can hold
(`Closed`). Locations that start alike stand together in the order of entries
(`isPrefix_of_between`), and the entries below a location are in order again (`ordered_below`).
-/

namespace PyxProject.Files

/-- What a list holds after an entry was put at its place. By induction: unless the head of the
list stands before the location, everything behind the head stands after it, so nothing else is
there. -/
theorem mem_insertEntry_iff {location : Location} {node : Node} {entries : List Entry}
    (ordered : Ordered entries) {entry : Entry} :
    entry ∈ insertEntry location node entries ↔
      entry = (location, node) ∨ entry ∈ entries ∧ entry.1 ≠ location := by
  induction entries with
  | nil => simp [insertEntry]
  | cons head rest inductionHypothesis =>
    obtain ⟨first, restOrdered⟩ := List.pairwise_cons.mp ordered
    simp only [insertEntry]
    split
    · next before =>
      have different : head.1 ≠ location := fun same => List.lt_irrefl location (same ▸ before)
      rw [List.mem_cons, inductionHypothesis restOrdered, List.mem_cons]
      grind
    · next notBefore =>
      have later : ∀ other ∈ rest, other.1 ≠ location := by
        rintro other member rfl
        exact notBefore (first other member)
      split
      · next same =>
        rw [List.mem_cons, List.mem_cons]
        grind
      · next different =>
        rw [List.mem_cons, List.mem_cons]
        grind

namespace FileTree

end FileTree

/-- What stands between two slashes of a path. -/
structure IsSegment (segment : Text) : Prop where
  filled : segment ≠ []
  whole : '/' ∉ segment

/-- A name under which a directory can hold something. -/
structure IsName (name : Text) : Prop extends IsSegment name where
  notCurrent : name ≠ "."
  notParent : name ≠ ".."

/-- Whether a text is a segment is found by looking at its characters. -/
instance (segment : Text) : Decidable (IsSegment segment) :=
  decidable_of_iff (segment ≠ [] ∧ '/' ∉ segment)
    ⟨fun ⟨filled, whole⟩ => ⟨filled, whole⟩, fun ⟨filled, whole⟩ => ⟨filled, whole⟩⟩

/-- Whether a text is a proper name is found by looking at its characters. -/
instance (name : Text) : Decidable (IsName name) :=
  decidable_of_iff (IsSegment name ∧ name ≠ "." ∧ name ≠ "..")
    ⟨fun ⟨segment, notCurrent, notParent⟩ => ⟨segment, notCurrent, notParent⟩,
      fun ⟨segment, notCurrent, notParent⟩ => ⟨segment, notCurrent, notParent⟩⟩

/-- The names to a location are names, and lead through directories to a directory. -/
structure FileTree.Reaches (tree : FileTree) (location : Location) : Prop where
  names : ∀ name ∈ location, IsName name
  directories : ∀ front, front <+: location → tree.holdsDirectory front

/-- A tree as a file system has it: every entry has a name and lies in a directory. -/
structure FileTree.Closed (tree : FileTree) : Prop where
  names : ∀ entry ∈ tree.entries, ∀ name ∈ entry.1, IsName name
  nested : ∀ entry ∈ tree.entries, entry.1 ≠ [] ∧ tree.holdsDirectory entry.1.dropLast

/-- Whether a tree is closed is found by going through its entries. -/
instance (tree : FileTree) : Decidable tree.Closed :=
  decidable_of_iff ((∀ entry ∈ tree.entries, ∀ name ∈ entry.1, IsName name) ∧
      ∀ entry ∈ tree.entries, entry.1 ≠ [] ∧ tree.holdsDirectory entry.1.dropLast)
    ⟨fun ⟨names, nested⟩ => ⟨names, nested⟩, fun ⟨names, nested⟩ => ⟨names, nested⟩⟩

/-- What is held below the root is an entry. -/
theorem FileTree.mem_entries_of_get? {tree : FileTree} {location : Location} {node : Node}
    (inside : location ≠ []) (held : tree.get? location = some node) :
    (location, node) ∈ tree.entries := by
  rw [get?, if_neg inside, Option.map_eq_some_iff] at held
  obtain ⟨⟨at_, found⟩, foundAt, rfl⟩ := held
  have same : at_ = location := by simpa using List.find?_some foundAt
  exact same ▸ List.mem_of_find?_eq_some foundAt

/-- Every entry below the root is held. -/
theorem FileTree.get?_of_mem {tree : FileTree} {location : Location} {node : Node}
    (inside : location ≠ []) (member : (location, node) ∈ tree.entries) :
    tree.get? location = some node := by
  have found : ∀ entries : List Entry, Ordered entries → (location, node) ∈ entries →
      entries.find? (fun entry => entry.1 = location) = some (location, node) := by
    intro entries ordered
    induction entries with
    | nil => simp
    | cons head rest inductionHypothesis =>
      obtain ⟨first, restOrdered⟩ := List.pairwise_cons.mp ordered
      intro member
      rcases List.mem_cons.mp member with rfl | later
      · simp
      · have different : head.1 ≠ location := fun same => by
          have before := first _ later
          rw [same] at before
          exact List.lt_irrefl location before
        simpa [List.find?_cons, different] using inductionHypothesis restOrdered later
  rw [get?, if_neg inside, found tree.entries tree.ordered member, Option.map_some]

/-- Every directory of a closed tree is reached. -/
theorem FileTree.Closed.reaches {tree : FileTree} (closed : tree.Closed) {location : Location}
    (inside : tree.holdsDirectory location) : tree.Reaches location := by
  induction location using List.reverseRecOn with
  | nil =>
    refine ⟨by simp, fun front start => ?_⟩
    rwa [List.prefix_nil.mp start]
  | append_singleton parent name inductionHypothesis =>
    have held : tree.get? (parent ++ [name]) = some .directory := by
      simpa [holdsDirectory] using inside
    have member := mem_entries_of_get? (by simp) held
    have parentInside : tree.holdsDirectory parent := by
      simpa using (closed.nested _ member).2
    refine ⟨closed.names _ member, fun front start => ?_⟩
    rcases List.prefix_concat_iff.mp start with rfl | earlier
    · exact inside
    · exact (inductionHypothesis parentInside).directories front earlier

/-- What lies on the way to an entry of a closed tree is a directory. -/
theorem holdsDirectory_of_onWay {tree : FileTree} (closed : tree.Closed) {location front : Location}
    (held : (tree.get? location).isSome) (onWay : front <+: location) (before : front ≠ location) :
    tree.holdsDirectory front := by
  obtain ⟨node, held⟩ := Option.isSome_iff_exists.mp held
  rcases List.eq_nil_or_concat' location with rfl | ⟨parent, name, rfl⟩
  · exact absurd (List.prefix_nil.mp onWay) before
  · have member := FileTree.mem_entries_of_get? (by simp) held
    have inside : tree.holdsDirectory parent := by simpa using (closed.nested _ member).2
    rcases List.prefix_concat_iff.mp onWay with same | earlier
    · exact absurd same before
    · exact (closed.reaches inside).directories front earlier

/-- A location between one that starts with a given location and that location itself starts
with it as well. -/
theorem isPrefix_of_between {start between last : Location} (first : start < between)
    (second : between < last) (starts : start <+: last) : start <+: between := by
  induction start generalizing between last with
  | nil => exact List.nil_prefix
  | cons name start inductionHypothesis =>
    obtain ⟨rest, rfl⟩ := starts
    cases between with
    | nil => exact absurd first (List.not_lt_nil _)
    | cons other between =>
      rw [List.cons_append] at second
      rw [List.cons_lt_cons_iff] at first second
      obtain ⟨rfl, onward⟩ : name = other ∧ start < between := by
        rcases first with less | same
        · rcases second with more | ⟨same, -⟩
          · exact absurd (List.lt_trans less more) (List.lt_irrefl name)
          · exact absurd (same ▸ less) (List.lt_irrefl name)
        · exact same
      have before : between < start ++ rest := by
        rcases second with more | same
        · exact absurd more (List.lt_irrefl name)
        · exact same.2
      exact (List.prefix_cons_inj name).mpr
        (inductionHypothesis onward before (List.prefix_append start rest))

/-- Locations are ordered by what stands behind a common start. -/
theorem lt_of_append_lt (start : Location) {first second : Location}
    (before : start ++ first < start ++ second) : first < second := by
  induction start with
  | nil => exact before
  | cons name start inductionHypothesis =>
    rw [List.cons_append, List.cons_append, List.cons_lt_cons_iff] at before
    rcases before with impossible | ⟨-, before⟩
    · exact absurd impossible (List.lt_irrefl name)
    · exact inductionHypothesis before

/-- What lies below a location is an entry further down. -/
theorem FileTree.mem_below {tree : FileTree} {top location : Location} {node : Node} :
    (location, node) ∈ tree.below top ↔ (top ++ location, node) ∈ tree.entries ∧ location ≠ [] := by
  simp only [below, List.mem_filterMap]
  constructor
  · rintro ⟨⟨start, held⟩, entry, kept⟩
    split at kept
    · next under =>
      simp only [Bool.and_eq_true, decide_eq_true_eq, List.isPrefixOf_iff_prefix] at under
      obtain ⟨⟨rest, rfl⟩, longer⟩ := under
      simp only [List.drop_left, Option.some.injEq, Prod.mk.injEq] at kept
      obtain ⟨rfl, rfl⟩ := kept
      refine ⟨entry, ?_⟩
      rintro rfl
      simp at longer
    · cases kept
  · rintro ⟨entry, filled⟩
    refine ⟨(top ++ location, node), entry, ?_⟩
    have longer := List.length_pos_of_ne_nil filled
    simp [List.isPrefixOf_iff_prefix, longer]

/-- The entries below a location are in order, as they are in the tree. -/
theorem FileTree.ordered_below (tree : FileTree) (top : Location) : Ordered (tree.below top) := by
  refine List.Pairwise.filterMap _ ?_ tree.ordered
  rintro ⟨first, node⟩ ⟨second, another⟩ before one isOne other isOther
  dsimp only at isOne isOther
  split at isOne
  · next under =>
    split at isOther
    · next underToo =>
      simp only [Bool.and_eq_true, List.isPrefixOf_iff_prefix] at under underToo
      obtain ⟨⟨rest, rfl⟩, -⟩ := under
      obtain ⟨⟨more, rfl⟩, -⟩ := underToo
      cases isOne
      cases isOther
      simpa using lt_of_append_lt top before
    · cases isOther
  · cases isOne

/-- The names directly below a location are those under which something is held there. -/
theorem FileTree.mem_names {tree : FileTree} {top : Location} {name : Text} :
    name ∈ tree.names top ↔ (tree.get? (top ++ [name])).isSome := by
  rw [names, List.mem_filterMap, Option.isSome_iff_exists]
  constructor
  · rintro ⟨⟨location, node⟩, member, shown⟩
    obtain ⟨entry, -⟩ := FileTree.mem_below.mp member
    dsimp only at shown
    split at shown
    · cases shown
      exact ⟨node, get?_of_mem (by simp) entry⟩
    · cases shown
  · rintro ⟨node, held⟩
    exact ⟨([name], node), FileTree.mem_below.mpr ⟨mem_entries_of_get? (by simp) held, by simp⟩, rfl⟩

/-- Whether a node is a regular file. -/
def Node.isRegular : Node → Bool
  | .file _ _ | .program _ => true
  | _ => false

/-- Whether a tree holds a regular file at a location. -/
def FileTree.holdsFile (tree : FileTree) (location : Location) : Bool :=
  (tree.get? location).any Node.isRegular

/-- A file is what is held and can be read. -/
theorem FileTree.holdsFile_iff {tree : FileTree} {location : Location} :
    tree.holdsFile location ↔ ∃ node, tree.get? location = some node ∧ node.isRegular := by
  rw [holdsFile, Option.any_eq_true]

/-- A path leads to a regular file if what it leads to is one. -/
theorem isFile_eq (tree : FileTree) (directory path : FilePath) :
    isFile tree directory path = (node? tree directory path).any Node.isRegular := by
  rw [isFile]
  cases node? tree directory path with
  | none => rfl
  | some node => cases node <;> rfl

end PyxProject.Files
