import PyxProject.Proofs.Files.LinkFree

/-!
# What operations do to a plain tree

A closed tree without links is plain, and stays plain under every operation. Apart from the
directories, of which creating and moving only ever adds some, a tree is known by what it holds
where (`holdings`). Creating directories leaves these holdings alone, removing a file clears one
location, and a file that is renamed moves from the place of one path to that of the other.
-/

namespace PyxProject.Files

/-- What is held where, besides directories. -/
abbrev Holdings := Location → Option Node

/-- What a tree holds besides directories. -/
def FileTree.holdings (tree : FileTree) : Holdings := fun location =>
  (tree.get? location).filter (· ≠ .directory)

/-- Nothing is held at a location, and everything else as before. -/
def Holdings.clear (held : Holdings) (location : Location) : Holdings := fun other =>
  if other = location then none else held other

/-- What was held at one location is held at another instead. -/
def Holdings.move (held : Holdings) (origin goal : Location) : Holdings := fun other =>
  if goal = origin then held other
  else if other = goal then held origin
  else if other = origin then none
  else held other

/-- The goal of a move holds what the origin held, also if they are the same. -/
theorem Holdings.move_goal (held : Holdings) (origin goal : Location) :
    held.move origin goal goal = held origin := by
  rw [Holdings.move]
  split
  · next same => rw [same]
  · rw [if_pos rfl]

/-- A move to the same place changes nothing. -/
theorem Holdings.move_self (held : Holdings) (location : Location) :
    held.move location location = held := by
  funext other
  rw [Holdings.move, if_pos rfl]

/-- A tree as a file system has it, without symbolic links. -/
structure FileTree.Plain (tree : FileTree) : Prop where
  closed : tree.Closed
  linkFree : tree.LinkFree

/-- A plain tree that keeps its directories and has given holdings. -/
structure FileTree.Becomes (tree changed : FileTree) (held : Holdings) : Prop where
  plain : changed.Plain
  directories : ∀ location, tree.holdsDirectory location → changed.holdsDirectory location
  holdings : changed.holdings = held

namespace FileTree

variable {tree : FileTree}

/-- Files are among the holdings. -/
theorem holdsFile_iff_holdings {location : Location} :
    tree.holdsFile location ↔ (tree.holdings location).any Node.isRegular := by
  rw [holdsFile, holdings]
  cases tree.get? location with
  | none => simp
  | some node => cases node <;> simp [Node.isRegular, Option.filter]

/-- What is held besides directories is what is held and is no directory. -/
theorem holdings_eq_some_iff {location : Location} {node : Node} :
    tree.holdings location = some node ↔ tree.get? location = some node ∧ node ≠ .directory := by
  rw [holdings, Option.filter_eq_some_iff, decide_eq_true_eq]

/-- The root is a directory of every tree. -/
theorem ne_nil_of_not_holdsDirectory {location : Location}
    (noDirectory : ¬tree.holdsDirectory location) : location ≠ [] := by
  rintro rfl
  exact noDirectory (by simp [holdsDirectory, get?])

/-- A tree that is left alone has the holdings that it had. -/
theorem Plain.becomes_self (plain : tree.Plain) : tree.Becomes tree tree.holdings :=
  ⟨plain, fun _ => id, rfl⟩

/-- Of two changes in a row, the second settles the holdings, and both keep the directories. -/
theorem Becomes.trans {middle changed : FileTree} {held further : Holdings}
    (first : tree.Becomes middle held) (second : middle.Becomes changed further) :
    tree.Becomes changed further :=
  ⟨second.plain,
    fun location inside => second.directories location (first.directories location inside),
    second.holdings⟩

/-- Without links, a tree that keeps its directories keeps every passage. -/
theorem Plain.keepsPassages {changed : FileTree} (plain : tree.Plain)
    (directories : ∀ location, tree.holdsDirectory location → changed.holdsDirectory location) :
    KeepsPassages tree changed :=
  ⟨directories, fun location target held => absurd held (plain.linkFree.get? location target)⟩

/-- What is left of a plain tree, once everything from a location on is taken out, is plain: what
is left does not stand below what is gone. -/
theorem Plain.erase (plain : tree.Plain) (location : Location) : (tree.erase location).Plain := by
  refine ⟨⟨fun entry member => ?_, fun entry member => ?_⟩, fun entry member => ?_⟩
  · exact plain.closed.names entry (List.mem_of_mem_filter member)
  · obtain ⟨inside, apart⟩ := List.mem_filter.mp member
    obtain ⟨filled, directory⟩ := plain.closed.nested entry inside
    refine ⟨filled, ?_⟩
    by_cases top : entry.1.dropLast = []
    · simp [top, holdsDirectory, get?]
    · have outside : location.isPrefixOf entry.1.dropLast = false := by
        refine Bool.eq_false_iff.mpr fun below => ?_
        have starts := List.isPrefixOf_iff_prefix.mp below
        simp [List.isPrefixOf_iff_prefix.mpr (starts.trans (List.dropLast_prefix entry.1))] at apart
      rw [holdsDirectory, get?_erase _ _ _ top, outside]
      exact directory
  · exact plain.linkFree entry (List.mem_of_mem_filter member)

/-- Nothing lies below a file, so only the file is erased. -/
theorem get?_erase_file (closed : tree.Closed) {location : Location}
    (noDirectory : ¬tree.holdsDirectory location) (other : Location) :
    (tree.erase location).get? other = if other = location then none else tree.get? other := by
  by_cases top : other = []
  · have different : other ≠ location := top ▸ (ne_nil_of_not_holdsDirectory noDirectory).symm
    rw [if_neg different, top]
    rfl
  · rw [get?_erase _ _ _ top]
    by_cases same : other = location
    · rw [if_pos same, if_pos (by simp [same])]
    · rw [if_neg same]
      split
      · next below =>
        refine (Option.not_isSome_iff_eq_none.mp fun held => noDirectory ?_).symm
        exact holdsDirectory_of_onWay closed held (List.isPrefixOf_iff_prefix.mp below)
          fun equal => same equal.symm
      · rfl

/-- Nothing is held any more at the location or below it. -/
theorem holdings_erase (tree : FileTree) (location : Location) :
    (tree.erase location).holdings = fun other =>
      if location <+: other then none else tree.holdings other := by
  funext other
  by_cases top : other = []
  · simp [holdings, get?, top, Option.filter]
  · simp only [holdings, get?_erase _ _ _ top, List.isPrefixOf_iff_prefix]
    split
    · rfl
    · rfl

/-- To take out what is no directory clears one location, since nothing stands below it. -/
theorem becomes_erase (plain : tree.Plain) {location : Location}
    (noDirectory : ¬tree.holdsDirectory location) :
    tree.Becomes (tree.erase location) (tree.holdings.clear location) := by
  have gets := get?_erase_file plain.closed noDirectory
  refine ⟨plain.erase location, fun other inside => ?_, ?_⟩
  · have different : other ≠ location := by
      rintro rfl
      exact noDirectory inside
    rw [holdsDirectory, gets, if_neg different]
    exact inside
  · funext other
    rw [holdings, gets, Holdings.clear]
    split
    · rfl
    · rfl

/-- A node that is no link may be put where a directory has no directory of that name. -/
theorem Plain.put (plain : tree.Plain) {parent : Location} {name : Text} {node : Node}
    (inside : tree.holdsDirectory parent) (proper : IsName name) (noLink : node.isLink = false)
    (free : ¬tree.holdsDirectory (parent ++ [name])) :
    (tree.put (parent ++ [name]) node).Plain := by
  have kept : ∀ location, tree.holdsDirectory location →
      (tree.put (parent ++ [name]) node).holdsDirectory location := by
    intro location directory
    have different : location ≠ parent ++ [name] := by
      rintro rfl
      exact free directory
    rw [holdsDirectory, get?_put_of_ne _ different]
    exact directory
  refine ⟨⟨fun entry member => ?_, fun entry member => ?_⟩, fun entry member => ?_⟩
  · rcases (mem_insertEntry_iff tree.ordered).mp member with rfl | ⟨old, -⟩
    · intro other inName
      rcases List.mem_append.mp inName with before | last
      · exact (plain.closed.reaches inside).names other before
      · exact List.mem_singleton.mp last ▸ proper
    · exact plain.closed.names entry old
  · rcases (mem_insertEntry_iff tree.ordered).mp member with rfl | ⟨old, -⟩
    · exact ⟨by simp, kept _ (by simpa using inside)⟩
    · obtain ⟨filled, directory⟩ := plain.closed.nested entry old
      exact ⟨filled, kept _ directory⟩
  · rcases (mem_insertEntry_iff tree.ordered).mp member with rfl | ⟨old, -⟩
    · exact noLink
    · exact plain.linkFree entry old

end FileTree

/-- Creating a directory leaves everything else alone. -/
theorem makeDirectory_becomes {tree made : FileTree} (plain : tree.Plain)
    {directory path : FilePath} (makes : makeDirectory tree directory path = .ok made) :
    tree.Becomes made tree.holdings := by
  simp only [makeDirectory, bind, Except.bind] at makes
  cases named : target tree directory path with
  | error fault => simp [named] at makes
  | ok entry =>
    cases entry with
    | special => simp [named] at makes
    | entry parent name slash =>
      obtain ⟨-, inside, proper⟩ := target_place plain.linkFree named
      cases held : tree.get? (parent ++ [name]) with
      | some node => simp [named, held] at makes
      | none =>
        obtain rfl : tree.put (parent ++ [name]) .directory = made := by
          simpa [named, held, pure, Except.pure] using makes
        have free : ¬tree.holdsDirectory (parent ++ [name]) := by
          simp [FileTree.holdsDirectory, held]
        refine ⟨plain.put inside proper rfl free, fun location directory => ?_, ?_⟩
        · have different : location ≠ parent ++ [name] := by
            rintro rfl
            exact free directory
          rw [FileTree.holdsDirectory, tree.get?_put_of_ne different]
          exact directory
        · funext location
          by_cases same : location = parent ++ [name]
          · simp [same, FileTree.holdings, held, Option.filter]
          · rw [FileTree.holdings, tree.get?_put_of_ne same, FileTree.holdings]

/-- A directory that is made, or accepted if it is there, leaves the holdings alone. -/
theorem settle_becomes {tree : FileTree} (plain : tree.Plain) (directory path : FilePath) :
    tree.Becomes (makeDirectories.settle directory path tree).2 tree.holdings := by
  rw [makeDirectories.settle]
  cases makes : makeDirectory tree directory path with
  | ok made => exact makeDirectory_becomes plain makes
  | error fault =>
    dsimp only
    split <;> exact plain.becomes_self

/-- Creating a directory with its ancestors adds directories and nothing else, whether all of
them can be created or not. -/
theorem makeDirectories_becomes {tree : FileTree} (plain : tree.Plain) (directory : FilePath)
    (paths : List FilePath) :
    tree.Becomes (makeDirectories directory paths tree).2 tree.holdings := by
  induction paths with
  | nil => exact plain.becomes_self
  | cons path ancestors inductionHypothesis =>
    rw [makeDirectories]
    split
    · exact plain.becomes_self
    · cases makes : makeDirectory tree directory path with
      | ok made => exact makeDirectory_becomes plain makes
      | error fault =>
        by_cases missing : fault = .notFound
        · subst missing
          dsimp only
          rcases before : makeDirectories directory ancestors tree with ⟨outcome, changed⟩
          rw [before] at inductionHypothesis
          cases outcome with
          | error fault => exact inductionHypothesis
          | ok _ =>
            have settled := settle_becomes inductionHypothesis.plain directory path
            rw [inductionHypothesis.holdings] at settled
            exact inductionHypothesis.trans settled
        · cases fault <;>
            first | exact absurd rfl missing | exact settle_becomes plain directory path

/-- A file that is removed is erased. -/
theorem removeFile_eq_ok {tree changed : FileTree} (linkFree : tree.LinkFree)
    {directory path : FilePath} (removes : removeFile tree directory path = .ok changed) :
    changed = tree.erase (place directory path) ∧ ¬tree.holdsDirectory (place directory path) := by
  simp only [removeFile, bind, Except.bind] at removes
  cases named : target tree directory path with
  | error fault => simp [named] at removes
  | ok entry =>
    cases entry with
    | special => simp [named] at removes
    | entry parent name slash =>
      obtain ⟨whole, -, -⟩ := target_place linkFree named
      simp only [named, whole] at removes
      constructor
      · split at removes
        · cases removes
        · cases removes
        · split at removes
          · cases removes
          · exact (Except.ok.inj removes).symm
      · intro inside
        have held : tree.get? (place directory path) = some .directory := by
          simpa [FileTree.holdsDirectory] using inside
        simp [held] at removes

/-- Removing a file clears the place of the path, which held no directory. -/
theorem removeFile_becomes {tree changed : FileTree} (plain : tree.Plain)
    {directory path : FilePath} (removes : removeFile tree directory path = .ok changed) :
    tree.Becomes changed (tree.holdings.clear (place directory path)) := by
  obtain ⟨rfl, noDirectory⟩ := removeFile_eq_ok plain.linkFree removes
  exact FileTree.becomes_erase plain noDirectory

/-- Removing a directory takes out everything from the place of the path on. -/
theorem removeTree_eq_ok {tree changed : FileTree} (linkFree : tree.LinkFree)
    {directory path : FilePath} (removes : removeTree tree directory path = .ok changed) :
    changed = tree.erase (place directory path) := by
  simp only [removeTree, bind, Except.bind] at removes
  cases named : target tree directory path with
  | error fault => simp [named] at removes
  | ok entry =>
    cases entry with
    | special => simp [named] at removes
    | entry parent name slash =>
      obtain ⟨whole, -, -⟩ := target_place linkFree named
      simp only [named, whole] at removes
      split at removes
      · cases removes
      · exact (Except.ok.inj removes).symm
      · split at removes
        · cases removes
        · exact (Except.ok.inj removes).symm

/-- A path that names an entry of a plain tree names it as long as directories are kept. -/
theorem NamesEntry.becomes {tree changed : FileTree} {held : Holdings} (plain : tree.Plain)
    {directory path : FilePath} {parent : Location} {name : Text}
    (named : NamesEntry tree directory path parent name) (becomes : tree.Becomes changed held) :
    NamesEntry changed directory path parent name := by
  obtain ⟨checked, inside, ordinary, fits, names, ends, followed⟩ := named
  refine ⟨checked, becomes.directories parent inside, ordinary, fits, names, ends, ?_⟩
  exact follow_eq_ok.mpr
    (trace_kept (plain.keepsPassages becomes.directories) (follow_eq_ok.mp followed) inside)

/-- A path that names the entry at its place. -/
def IsReached (tree : FileTree) (directory path : FilePath) : Prop :=
  ∃ parent name, NamesEntry tree directory path parent name ∧
    parent ++ [name] = place directory path

/-- A path that names the entry at its place still does so, since no passage to it is gone. -/
theorem IsReached.becomes {tree changed : FileTree} {held : Holdings} (plain : tree.Plain)
    {directory path : FilePath} (reached : IsReached tree directory path)
    (becomes : tree.Becomes changed held) : IsReached changed directory path := by
  obtain ⟨parent, name, named, whole⟩ := reached
  exact ⟨parent, name, named.becomes plain becomes, whole⟩

/-- A path that names the entry at its place leads to what is held there, unless it is a link. -/
theorem IsReached.resolve_eq {tree : FileTree} {directory path : FilePath} {node : Node}
    (reached : IsReached tree directory path) (held : tree.get? (place directory path) = some node)
    (noLink : node.isLink = false) : resolve tree directory path = .ok (place directory path) := by
  obtain ⟨parent, name, named, whole⟩ := reached
  rw [← whole] at held ⊢
  refine resolve_of_namesEntry (.refl tree) named held ?_
  rintro target rfl
  cases noLink

/-- What is read of a file is read where it was moved to. -/
theorem readBytes_of_moved {tree after : FileTree} (linkFree : tree.LinkFree)
    {directory path goal : FilePath} (file : isFile tree directory path)
    (reached : IsReached after directory goal)
    (moved : after.holdings (place directory goal) = tree.holdings (place directory path)) :
    ∃ content, readBytes tree directory path = .ok content ∧
      readBytes after directory goal = .ok content := by
  obtain ⟨resolved, holds⟩ := resolve_of_isFile linkFree file
  obtain ⟨node, found, regular⟩ := FileTree.holdsFile_iff.mp holds
  obtain ⟨different, noLink⟩ := Node.plain_of_isRegular regular
  rw [FileTree.holdings_eq_some_iff.mpr ⟨found, different⟩] at moved
  have foundAfter := (FileTree.holdings_eq_some_iff.mp moved).1
  exact ⟨node.content, readBytes_of_resolve resolved found regular,
    readBytes_of_resolve (reached.resolve_eq foundAfter noLink) foundAfter regular⟩

/-- A file that is renamed is held at the place of its new path, which then names it. -/
theorem rename_becomes {tree changed : FileTree} (plain : tree.Plain)
    {directory source destination : FilePath}
    (renamed : rename tree directory source destination = .ok changed) :
    tree.Becomes changed
        (tree.holdings.move (place directory source) (place directory destination)) ∧
      IsReached changed directory destination := by
  obtain ⟨node, parent, name, held, notDirectory, named, proper, whole, free, rfl⟩ :=
    rename_eq_ok plain.linkFree renamed
  suffices becomes : tree.Becomes _
      (tree.holdings.move (place directory source) (place directory destination)) from
    ⟨becomes, parent, name, named.becomes plain becomes, whole⟩
  by_cases same : place directory destination = place directory source
  · rw [if_pos same]
    refine ⟨plain, fun _ => id, ?_⟩
    funext other
    rw [Holdings.move, if_pos same]
  · rw [if_neg same]
    have noDirectory : ¬tree.holdsDirectory (place directory source) := by
      simpa [FileTree.holdsDirectory, held] using notDirectory
    have erased := FileTree.becomes_erase plain noDirectory
    have noLink : node.isLink = false := by
      cases node with
      | link target => exact absurd held (plain.linkFree.get? _ target)
      | _ => rfl
    have gets := FileTree.get?_erase_file plain.closed noDirectory
    have stillFree : ¬(tree.erase (place directory source)).holdsDirectory
        (place directory destination) := by
      rw [FileTree.holdsDirectory, gets, if_neg same]
      exact free
    rw [← whole] at stillFree
    have put := erased.plain.put (erased.directories parent named.inside) proper noLink stillFree
    rw [whole] at put
    refine ⟨put, fun other inside => ?_, ?_⟩
    · have different : other ≠ place directory destination := by
        rintro rfl
        exact free inside
      rw [FileTree.holdsDirectory, FileTree.get?_put_of_ne _ different]
      exact erased.directories other inside
    · funext other
      rw [Holdings.move, if_neg same]
      by_cases atGoal : other = place directory destination
      · have inside : place directory destination ≠ [] := by simp [← whole]
        rw [if_pos atGoal, atGoal, FileTree.holdings, FileTree.get?_put_self _ inside,
          FileTree.holdings, held]
      · rw [if_neg atGoal, FileTree.holdings, FileTree.get?_put_of_ne _ atGoal, gets]
        split
        · rfl
        · rfl

end PyxProject.Files
