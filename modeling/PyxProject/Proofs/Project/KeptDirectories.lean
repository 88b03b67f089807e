import PyxProject.Proofs.Files.StandingDirectories
import PyxProject.Proofs.Project.DeedPlaces

/-!
# Directories that a cleanup keeps

Once a cleanup has removed the directory for intermediate files it moves and removes files only.
Every directory that it moves a file to is there already, so it neither adds a directory nor
takes one away (`cleanSource_spares`). So the directory that collects the reports is there in the
end, unless its path passes the directory for intermediate files, and that one is not
(`cleanUp_keeps`).
-/

namespace PyxProject.Project

open Files

variable {α β : Type} {host : Host} {tree : FileTree} {layout : Layout} {source : FilePath}
  {front : Location} {stem : Text} {report : CleanupReport} {candidates : List FilePath}

/-- What a step keeps that moves and removes nothing but files. -/
structure KeepsDirectories (tree after : FileTree) : Prop where
  plain : after.Plain
  same : SameDirectories tree after

/-- A plain tree keeps its directories. -/
theorem KeepsDirectories.refl (plain : tree.Plain) : KeepsDirectories tree tree :=
  ⟨plain, .refl tree⟩

/-- Of two steps that keep the directories, both together do. -/
theorem KeepsDirectories.trans {middle after : FileTree} (first : KeepsDirectories tree middle)
    (second : KeepsDirectories middle after) : KeepsDirectories tree after :=
  ⟨second.plain, first.same.trans second.same⟩

/-- A tower of directories stands where the directories were kept. -/
theorem KeepsDirectories.isStanding {after : FileTree} (kept : KeepsDirectories tree after)
    (plain : tree.Plain) {directory path : FilePath} (standing : IsStanding tree directory path) :
    IsStanding after directory path :=
  kept.same.isStanding plain kept.plain standing

/-- A root that was a directory is one where the directories were kept. -/
theorem KeepsDirectories.rooted {after : FileTree} (kept : KeepsDirectories tree after)
    (plain : tree.Plain) {directory root : FilePath} {top : Location}
    (rooted : Rooted tree directory root top) : Rooted after directory root top :=
  rooted.kept plain fun location inside => (kept.same location).trans inside

/-- An action that leaves the directories as they are if it succeeds. -/
def Spares (action : Action α) (host : Host) (tree : FileTree) : Prop :=
  Gives action host tree fun _ after => KeepsDirectories tree after

/-- A value spares the tree. -/
theorem spares_pure {value : α} (plain : tree.Plain) : Spares (pure value) host tree :=
  gives_pure (.refl plain)

/-- Actions that spare the tree, one after the other, spare it. -/
theorem Spares.bind {action : Action α} {next : α → Action β} (first : Spares action host tree)
    (second : ∀ value middle, KeepsDirectories tree middle → Spares (next value) host middle) :
    Spares (action >>= next) host tree :=
  Gives.bind (first.mono fun value middle kept =>
    (second value middle kept).mono fun _ _ further => kept.trans further)

/-- A loop spares the tree if each turn does, whatever the earlier ones have left. -/
theorem spares_foldlM {items : List α} {action : β → α → Action β} {value : β} (plain : tree.Plain)
    (turn : ∀ item ∈ items, ∀ value middle, KeepsDirectories tree middle →
      Spares (action value item) host middle) :
    Spares (items.foldlM action value) host tree :=
  gives_foldlM (fun _ _ after => KeepsDirectories tree after)
    (fun item _ value middle member kept =>
      (turn item member value middle kept).mono fun _ _ further => kept.trans further)
    (.refl plain)

/-- Moving a file to a directory that stands creates none, so all directories stay as they are. -/
theorem relocate_spares (plain : tree.Plain) {destination : FilePath}
    (standing : ∀ parent ∈ destination.parent?, IsStanding tree host.directory parent) :
    Spares (relocate source destination) host tree := by
  have renames : Spares (renameOrCopy source destination) host tree :=
    (renameOrCopy_renames plain source destination).mono fun _ after renamed =>
      ⟨(rename_becomes plain renamed).1.plain, sameDirectories_rename plain renamed⟩
  refine Gives.bind ((talks_report _).gives ?_)
  split
  · next parent found =>
    refine Gives.bind ((createDirectory_gives _ parent).mono fun _ middle made => ?_)
    rw [makeDirectoryTree_of_isStanding plain.linkFree (standing parent found)] at made
    obtain rfl : tree = middle := congrArg Prod.snd made
    exact renames
  · exact renames

/-- Removing a C file spares the tree. -/
theorem removeCFile_spares (plain : tree.Plain) : Spares (removeCFile source report) host tree := by
  refine Gives.bind (gives_inspect ?_)
  split
  · refine Gives.bind (gives_change fun changed removes => gives_pure ?_)
    exact ⟨(removeFile_becomes plain removes).plain, sameDirectories_removeFile plain removes⟩
  · exact spares_pure plain

/-- Moving a report spares the tree if reports are collected in a directory that stands. -/
theorem moveReport_spares (plain : tree.Plain) {top : Location}
    (rooted : Rooted tree host.directory layout.root top)
    (sourceAt : SourceAt layout.root source front stem)
    (collecting : IsStanding tree host.directory layout.annotationsDir) :
    Spares (moveReport layout source report) host tree := by
  refine Gives.bind (gives_inspect ?_)
  rw [sourceAt.isFile_htmlFile plain rooted]
  split
  · next seen =>
    have readable : isReadable host.directory (htmlFile source) := (Bool.and_eq_true_iff.mp seen).1
    refine Spares.bind (relocate_spares plain fun parent found => ?_) fun _ _ kept =>
      spares_pure kept.plain
    rw [sourceAt.parent?_reportDestination readable layout] at found
    obtain rfl := Option.some.inj found
    exact collecting.trimmed plain
  · exact spares_pure plain

/-- Moving a module spares the tree if it is moved to a directory that stands. -/
theorem moveModule_spares (plain : tree.Plain) {root goal file : FilePath} {name : Text}
    (proper : IsName name) (below : file = root.join ⟨name⟩)
    (standing : IsStanding tree host.directory goal) :
    Spares (moveModule goal report file) host tree := by
  rw [moveModule, below, FilePath.fileName?_join _ proper]
  dsimp only
  split
  · exact spares_pure plain
  · refine Gives.bind (gives_inspect ?_)
    split
    · refine Spares.bind (relocate_spares plain fun parent found => ?_) fun _ _ kept =>
        spares_pure kept.plain
      rw [FilePath.parent?_join _ proper] at found
      obtain rfl := Option.some.inj found
      exact standing.trimmed plain
    · exact spares_pure plain

/-- Moving the modules of a source spares the tree, since the source stands in the directory that
they are moved to. -/
theorem moveModules_spares (plain : tree.Plain) {root : FilePath}
    (sourceAt : SourceAt root source front stem) (below : AreBelow root candidates)
    (standing : IsStanding tree host.directory (pathBelow root front)) :
    Spares (moveModules candidates source report) host tree := by
  rw [moveModules, sourceAt.moduleOf?_eq, sourceAt.parent?_eq]
  refine spares_foldlM plain fun file member found middle kept => ?_
  obtain ⟨name, proper, same⟩ := below file (List.mem_of_mem_filter member)
  exact moveModule_spares kept.plain proper same (kept.isStanding plain (standing.trimmed plain))

/-- What a cleanup does for one source leaves the directories as they are. If the source is there,
then so is the directory that its modules are moved to. -/
theorem cleanSource_spares {keepCFiles : Bool} (plain : tree.Plain) {top : Location}
    (rooted : Rooted tree host.directory layout.root top)
    (sourceAt : SourceAt layout.root source front stem) (below : AreBelow layout.root candidates)
    (collecting : IsStanding tree host.directory layout.annotationsDir) :
    Spares (cleanSource layout keepCFiles candidates report source) host tree := by
  refine Gives.bind (gives_inspect ?_)
  split
  · next present =>
    rw [sourceAt.path, pathBelow_concat] at present
    have standing := isStanding_of_isFile plain sourceAt.isName present
    have onward (found : CleanupReport) (middle : FileTree) (kept : KeepsDirectories tree middle) :
        Spares (do
            let report ← moveReport layout source found
            moveModules candidates source report) host middle :=
      (moveReport_spares kept.plain (kept.rooted plain rooted) sourceAt
        (kept.isStanding plain collecting)).bind fun _ _ further =>
          moveModules_spares further.plain sourceAt below
            ((kept.trans further).isStanding plain standing)
    cases keepCFiles with
    | true => exact (spares_pure plain).bind onward
    | false => exact (removeCFile_spares plain).bind onward
  · exact Gives.bind ((talks_report _).gives (spares_pure plain))

/-- The directory for intermediate files is no longer there when the deeds start. -/
theorem removeBuildDir_clears (plain : tree.Plain)
    (inside : place host.directory layout.buildDir ≠ []) {path : FilePath}
    (apart : passes (place host.directory layout.buildDir) []
      (FilePath.namesOf (host.directory.join path).text) = false)
    (isDir : isDirectory tree host.directory path) :
    Gives (removeBuildDir layout report) host tree fun _ after => after.Plain ∧
      isDirectory after host.directory path ∧
      isDirectory after host.directory layout.buildDir = false := by
  refine Gives.bind (gives_inspect ?_)
  split
  · refine Gives.bind (gives_change fun changed removes => gives_pure ?_)
    obtain rfl := removeTree_eq_ok plain.linkFree removes
    exact ⟨plain.erase _, isDirectory_erase plain inside apart isDir,
      not_isDirectory_erase plain inside⟩
  · next absent => exact gives_pure ⟨plain, isDir, Bool.eq_false_iff.mpr absent⟩

/-- The files of a root are listed only if its path is accepted. -/
theorem rootFiles_checked {root : FilePath} :
    Gives (rootFiles root) host tree fun _ _ => checkPath root = .ok () := by
  refine Gives.bind (gives_inspect ?_)
  cases checked : checkPath root with
  | ok _ => exact fun _ _ _ _ _ => rfl
  | error fault =>
    have refused : listDirectory tree host.directory root = .error fault := by
      simp [listDirectory, resolve, checked, bind, Except.bind]
    rw [refused]
    exact gives_throw _ _

/-- A cleanup that succeeds has listed its root, so the root is named by a path that can be
looked up. -/
theorem cleanUp_checked {sources : List FilePath} {keepCFiles : Bool} :
    Gives (cleanUp layout sources keepCFiles) host tree fun _ _ =>
      checkPath layout.root = .ok () := by
  refine Gives.bind fun _ _ middle _ _ => Gives.bind fun _ _ later _ _ => ?_
  refine Gives.bind (rootFiles_checked.mono fun _ _ checked => ?_)
  exact fun _ _ _ _ _ => checked

/-- After a cleanup that succeeds the directory that collects the reports is there, and the
directory for intermediate files is not, if the way to the one does not pass the other. -/
theorem cleanUp_keeps {sources : List FilePath} {keepCFiles : Bool} (plain : tree.Plain)
    (usual : layout.buildDir = layout.root.join ⟨buildName⟩)
    (filled : layout.annotationsDir.text ≠ [])
    (apart : passes (place host.directory layout.buildDir) []
      (FilePath.namesOf (host.directory.join layout.annotationsDir).text) = false)
    (discovered : ∀ source ∈ sources, Discovered layout.root source) :
    Gives (cleanUp layout sources keepCFiles) host tree fun _ after =>
      isDirectory after host.directory layout.annotationsDir ∧
      isDirectory after host.directory layout.buildDir = false := by
  have inside : place host.directory layout.buildDir ≠ [] := by
    rw [usual, place_join _ _ (by decide : IsName buildName)]
    simp
  refine Gives.bind ((createDirectory_gives _ _).mono fun _ created made => ?_)
  have grown := makeDirectories_becomes plain host.directory layout.annotationsDir.ancestors
  rw [← makeDirectoryTree, made] at grown
  have isThere := isDirectory_of_makeDirectoryTree plain filled made
  refine Gives.bind ((removeBuildDir_clears grown.plain inside apart isThere).mono ?_)
  rintro _ cleared ⟨clearedPlain, collecting, noBuild⟩
  refine Gives.bind ((rootFiles_gives clearedPlain).mono ?_)
  rintro candidates listed ⟨rfl, rooted, members⟩
  have below : AreBelow layout.root candidates := fun file member => ((members file).mp member).1
  refine (spares_foldlM clearedPlain fun source member found middle kept => ?_).mono
    fun _ after kept => ?_
  · obtain ⟨front, stem, sourceAt⟩ := sourceAt_of_discovered (discovered source member)
    exact cleanSource_spares kept.plain (kept.rooted clearedPlain rooted) sourceAt below
      (kept.isStanding clearedPlain (.inr collecting))
  · rw [kept.same.isDirectory_eq clearedPlain kept.plain,
      kept.same.isDirectory_eq clearedPlain kept.plain]
    exact ⟨collecting, noBuild⟩

end PyxProject.Project
