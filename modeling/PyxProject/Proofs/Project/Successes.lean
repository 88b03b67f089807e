import PyxProject.Project.Artifacts
import PyxProject.Proofs.Files.Changes
import PyxProject.Proofs.Project.Actions

/-!
# What successful actions give

Of an action that may fail it is often enough to know what holds if it succeeds (`Gives`). Then
every action before the last has succeeded as well, and hands on the tree that it left
(`Gives.bind`). A file that is moved with success is held at its destination, whether it could be
renamed or had to be copied (`renameOrCopy_gives`, `relocate_gives`).
-/

namespace PyxProject.Project

open Files

variable {α β : Type} {host : Host} {tree : FileTree}

/-- What holds of the value and of the tree that an action leaves whenever it succeeds. -/
def Gives (action : Action α) (host : Host) (tree : FileTree) (post : α → FileTree → Prop) : Prop :=
  ∀ session value after, session.tree = tree →
    action.perform host session = (.ok value, after) → post value after.tree

/-- What an action gives may be weakened. -/
theorem Gives.mono {action : Action α} {post weaker : α → FileTree → Prop}
    (gives : Gives action host tree post)
    (weaken : ∀ value after, post value after → weaker value after) :
    Gives action host tree weaker :=
  fun session value after same performed => weaken _ _ (gives session value after same performed)

/-- An action that does nothing gives its value and the tree that was there. -/
theorem gives_pure {value : α} {post : α → FileTree → Prop} (holds : post value tree) :
    Gives (pure value) host tree post := by
  rintro session _ _ rfl performed
  cases performed
  exact holds

/-- An action that fails gives anything, as it leaves no value. -/
theorem gives_throw (failure : Failure) (post : α → FileTree → Prop) :
    Gives (throw failure) host tree post := by
  rintro session _ _ - performed
  cases performed

/-- Two actions in a row give what the second gives from where the first left off. -/
theorem Gives.bind {action : Action α} {next : α → Action β} {post : β → FileTree → Prop}
    (gives : Gives action host tree fun value middle => Gives (next value) host middle post) :
    Gives (action >>= next) host tree post := by
  rintro session value after same performed
  rw [perform_bind] at performed
  rcases first : action.perform host session with ⟨failure | found, middle⟩
  · rw [first] at performed
    cases performed
  · rw [first] at performed
    exact gives session found middle same first middle value after rfl performed

/-- An action that only looks at the tree gives what it saw. -/
theorem gives_inspect {query : FileTree → FilePath → α} {post : α → FileTree → Prop}
    (holds : post (query tree host.directory) tree) :
    Gives (inspect query) host tree post := by
  rintro session _ _ rfl performed
  rw [perform_inspect] at performed
  cases performed
  exact holds

/-- An action that only talks leaves the tree as it was. -/
theorem Talks.gives {action : Action Unit} (talks : Talks action) {post : Unit → FileTree → Prop}
    (holds : post () tree) : Gives action host tree post := by
  rintro session value after rfl performed
  obtain ⟨middle, talked, alike⟩ := talks host session
  rw [talked] at performed
  cases performed
  exact alike.tree ▸ holds

/-- What each turn of a loop hands on, with the items that remain, holds in the end. -/
theorem gives_foldlM {items : List α} {action : β → α → Action β}
    (holds : List α → β → FileTree → Prop)
    (turn : ∀ item rest value tree, item ∈ items → holds (item :: rest) value tree →
      Gives (action value item) host tree (holds rest))
    {value : β} (start : holds items value tree) :
    Gives (items.foldlM action value) host tree (holds []) := by
  induction items generalizing value tree with
  | nil => exact gives_pure start
  | cons item rest inductionHypothesis =>
    rw [List.foldlM_cons]
    have first := turn item rest value tree List.mem_cons_self start
    refine Gives.bind (first.mono fun _ _ onward => ?_)
    exact inductionHypothesis (fun other later value tree member =>
      turn other later value tree (List.mem_cons_of_mem item member)) onward

/-- An operation that succeeds leaves the changed tree. -/
theorem gives_change {attempt : Attempt}
    {operation : FileTree → FilePath → Except Fault FileTree} {post : Unit → FileTree → Prop}
    (holds : ∀ changed, operation tree host.directory = .ok changed → post () changed) :
    Gives (change attempt operation) host tree post := by
  refine Gives.bind (gives_inspect ?_)
  cases operated : operation tree host.directory with
  | error fault => exact gives_throw _ _
  | ok changed =>
    rintro session _ _ - performed
    rw [perform_modify] at performed
    cases performed
    exact holds changed operated

/-- Creating a directory, and the ancestors that it lacks. -/
theorem createDirectory_gives (attempt : Attempt) (path : FilePath) :
    Gives (createDirectory attempt path) host tree fun _ after =>
      makeDirectoryTree host.directory path tree = (.ok (), after) := by
  rintro session value after rfl performed
  simp only [createDirectory, perform_bind, perform_read, perform_get, perform_modify] at performed
  split at performed
  · next made =>
    cases performed
    exact Prod.ext made rfl
  · cases performed

/-- What holds of the tree with the directory made holds after a directory is created. -/
theorem gives_createDirectory {attempt : Attempt} {path : FilePath} {post : Unit → FileTree → Prop}
    (holds : post () (makeDirectoryTree host.directory path tree).2) :
    Gives (createDirectory attempt path) host tree post := by
  refine (createDirectory_gives attempt path).mono fun _ after made => ?_
  rw [made] at holds
  exact holds

/-- A file is moved by renaming it: what cannot be renamed cannot be copied either. -/
theorem renameOrCopy_renames (plain : tree.Plain) (source destination : FilePath) :
    Gives (renameOrCopy source destination) host tree fun _ after =>
      rename tree host.directory source destination = .ok after := by
  refine Gives.bind (gives_inspect ?_)
  cases renamed : rename tree host.directory source destination with
  | ok changed =>
    rintro session _ _ - performed
    rw [perform_modify] at performed
    cases performed
    rfl
  | error fault =>
    refine Gives.bind (gives_change fun copied copies => ?_)
    obtain ⟨changed, impossible⟩ := rename_of_copyFile plain.closed plain.linkFree copies
    rw [renamed] at impossible
    cases impossible

/-- A file that is moved is held at its destination, whether it could be renamed or not. -/
theorem renameOrCopy_gives (plain : tree.Plain) (source destination : FilePath) :
    Gives (renameOrCopy source destination) host tree fun _ after =>
      tree.Becomes after
          (tree.holdings.move (place host.directory source) (place host.directory destination)) ∧
        IsReached after host.directory destination :=
  (renameOrCopy_renames plain source destination).mono fun _ _ renamed =>
    rename_becomes plain renamed

/-- A file that is moved is held at its destination, also if the directory for it had to be made.
-/
theorem relocate_gives (plain : tree.Plain) (source destination : FilePath) :
    Gives (relocate source destination) host tree fun _ after =>
      tree.Becomes after
          (tree.holdings.move (place host.directory source) (place host.directory destination)) ∧
        IsReached after host.directory destination := by
  have onward {middle : FileTree} (grown : tree.Becomes middle tree.holdings) :
      Gives (renameOrCopy source destination) host middle fun _ after =>
        tree.Becomes after
            (tree.holdings.move (place host.directory source) (place host.directory destination)) ∧
          IsReached after host.directory destination := by
    refine (renameOrCopy_gives grown.plain source destination).mono ?_
    rintro _ after ⟨becomes, reached⟩
    exact ⟨grown.trans (grown.holdings ▸ becomes), reached⟩
  refine Gives.bind ((talks_report _).gives ?_)
  split
  · exact Gives.bind (gives_createDirectory (onward (makeDirectories_becomes plain _ _)))
  · exact onward plain.becomes_self

end PyxProject.Project
