import PyxProject.Proofs.Project.SourcePlaces
import PyxProject.Proofs.Project.Successes

/-!
# The deeds of a cleanup

Which files a cleanup would remove and where it would move others is settled before it starts:
each source has its list of deeds (`deedsOf`). A deed is carried out if there is a file for it at
that time, and then it is entered in the report. In a plain tree a cleanup that succeeds does
this and nothing else: what the tree holds besides directories, and the report, follow from what
it held at first by carrying out the deeds of the sources in turn (`cleanUp_gives`).
-/

namespace PyxProject.Project

open Files

/-- Something that a cleanup does if there is a file for it. -/
inductive Deed where
  /-- Remove a C file. -/
  | remove (file : FilePath)
  /-- Move a report to where reports are collected. -/
  | collect (move : Move)
  /-- Move a compiled module to its source. -/
  | deliver (move : Move)
deriving DecidableEq

namespace Deed

/-- The kinds of deeds. -/
inductive Kind where
  | remove
  | collect
  | deliver
deriving DecidableEq

/-- The kind of a deed. -/
def kind : Deed → Kind
  | .remove _ => .remove
  | .collect _ => .collect
  | .deliver _ => .deliver

/-- The extensions of the names that a kind of deeds is about. -/
def Kind.suffixes : Kind → List Text
  | .remove => ["c"]
  | .collect => ["html"]
  | .deliver => compiledExtensions

/-- The file that a deed is about. -/
def file : Deed → FilePath
  | .remove file => file
  | .collect move | .deliver move => move.source

/-- The place that a file takes by a deed. -/
def goal? (directory : FilePath) : Deed → Option Location
  | .remove _ => none
  | .collect move | .deliver move => some (place directory move.destination)

/-- What is held after a deed. -/
def effect (directory : FilePath) (held : Holdings) (deed : Deed) : Holdings :=
  match deed.goal? directory with
  | none => held.clear (place directory deed.file)
  | some goal => held.move (place directory deed.file) goal

/-- The report after a deed. -/
def entered (report : CleanupReport) : Deed → CleanupReport
  | .remove file => { report with removedCFiles := report.removedCFiles ++ [file] }
  | .collect move => { report with movedReports := report.movedReports ++ [move] }
  | .deliver move => { report with movedModules := report.movedModules ++ [move] }

end Deed

/-- The deeds of a kind that a report lists. -/
def CleanupReport.deeds (report : CleanupReport) : Deed.Kind → List Deed
  | .remove => report.removedCFiles.map Deed.remove
  | .collect => report.movedReports.map Deed.collect
  | .deliver => report.movedModules.map Deed.deliver

/-- A deed is entered behind those of its kind, and nowhere else. -/
theorem deeds_entered (report : CleanupReport) (deed : Deed) (kind : Deed.Kind) :
    (deed.entered report).deeds kind =
      report.deeds kind ++ if deed.kind = kind then [deed] else [] := by
  cases deed <;> cases kind <;> simp [Deed.entered, CleanupReport.deeds, Deed.kind]

/-- What a tree holds besides directories, and what was reported. -/
structure Ledger where
  held : Holdings
  report : CleanupReport

/-- Carry out a deed if there is a file for it. -/
def Ledger.carryOut (directory : FilePath) (ledger : Ledger) (deed : Deed) : Ledger :=
  if sees ledger.held directory deed.file then
    ⟨deed.effect directory ledger.held, deed.entered ledger.report⟩
  else ledger

/-- Carry out deeds in turn. -/
def Ledger.carryOutAll (directory : FilePath) (ledger : Ledger) (deeds : List Deed) : Ledger :=
  deeds.foldl (Ledger.carryOut directory) ledger

/-- A compiled module is delivered to a directory, unless it is there already. -/
def deliveries (goal file : FilePath) : List Deed :=
  match file.fileName? with
  | none => []
  | some name => if file.same (goal.join ⟨name⟩) then [] else [.deliver ⟨file, goal.join ⟨name⟩⟩]

/-- The candidates that are compiled forms of a source, delivered to the source. -/
def deliveriesOf (candidates : List FilePath) (source : FilePath) : List Deed :=
  match moduleOf? source, source.parent? with
  | some module, some goal =>
    (candidates.filter fun file => file.fileName?.any fun name => isBuildOf name module).flatMap
      (deliveries goal)
  | _, _ => []

/-- What a cleanup does for a source that is present. -/
def deedsOf (layout : Layout) (keepCFiles : Bool) (candidates : List FilePath) (source : FilePath) :
    List Deed :=
  (if keepCFiles then [] else [.remove (cFile source)]) ++
    .collect ⟨htmlFile source, layout.reportDestination source⟩ :: deliveriesOf candidates source

/-- Attend to a source: carry out its deeds, or note that it is not there. -/
def Ledger.attend (directory : FilePath) (layout : Layout) (keepCFiles : Bool)
    (candidates : List FilePath) (ledger : Ledger) (source : FilePath) : Ledger :=
  if sees ledger.held directory source then
    ledger.carryOutAll directory (deedsOf layout keepCFiles candidates source)
  else
    { ledger with report :=
      { ledger.report with skipped := ledger.report.skipped ++ [source] } }

/-- A plain tree whose root is a directory and in which every file that was moved is reached. -/
structure Ready (directory root : FilePath) (top : Location) (report : CleanupReport)
    (tree : FileTree) : Prop where
  plain : tree.Plain
  rooted : Rooted tree directory root top
  reached : ∀ move ∈ report.movedReports ++ report.movedModules,
    IsReached tree directory move.destination

section Runs

variable {host : Host} {root : FilePath} {top : Location} {report : CleanupReport} {tree : FileTree}

/-- A tree that was ready is ready after a change that keeps its directories. -/
theorem Ready.becomes {changed : FileTree} {held : Holdings} {directory : FilePath}
    (ready : Ready directory root top report tree) (becomes : tree.Becomes changed held) :
    Ready directory root top report changed :=
  ⟨becomes.plain, ready.rooted.becomes ready.plain becomes,
    fun move member => (ready.reached move member).becomes ready.plain becomes⟩

/-- What an action leaves if it does what a ledger says. -/
def Follows (host : Host) (root : FilePath) (top : Location) (ledger : Ledger)
    (found : CleanupReport) (after : FileTree) : Prop :=
  Ready host.directory root top found after ∧ Ledger.mk after.holdings found = ledger

/-- What a deed leaves follows the ledger, if what it moves is reached. -/
theorem Ready.follows_deed (ready : Ready host.directory root top report tree) {deed : Deed}
    {after : FileTree} (seen : sees tree.holdings host.directory deed.file)
    (becomes : tree.Becomes after (deed.effect host.directory tree.holdings))
    (reached : ∀ move, deed = .collect move ∨ deed = .deliver move →
      IsReached after host.directory move.destination) :
    Follows host root top (Ledger.carryOut host.directory ⟨tree.holdings, report⟩ deed)
      (deed.entered report) after := by
  have still := ready.becomes becomes
  refine ⟨⟨still.plain, still.rooted, fun move member => ?_⟩, ?_⟩
  · have listed : move ∈ report.movedReports ++ report.movedModules ∨
        deed = .collect move ∨ deed = .deliver move := by
      cases deed with
      | remove file => exact .inl member
      | collect own =>
        simp only [Deed.entered, List.mem_append, List.mem_singleton] at member ⊢
        grind
      | deliver own =>
        simp only [Deed.entered, List.mem_append, List.mem_singleton] at member ⊢
        grind
    exact listed.elim (still.reached move) (reached move)
  · rw [Ledger.carryOut, if_pos seen, becomes.holdings]

/-- What is left where there is no file for a deed follows the ledger. -/
theorem Ready.follows_unseen (ready : Ready host.directory root top report tree) {deed : Deed}
    (unseen : ¬sees tree.holdings host.directory deed.file) :
    Follows host root top (Ledger.carryOut host.directory ⟨tree.holdings, report⟩ deed)
      report tree :=
  ⟨ready, by rw [Ledger.carryOut, if_neg unseen]⟩

/-- A loop follows a fold over its items if each turn follows a step of the fold. -/
theorem follows_foldlM {α : Type} {items : List α}
    {action : CleanupReport → α → Action CleanupReport} {step : Ledger → α → Ledger}
    (turn : ∀ item ∈ items, ∀ report tree, Ready host.directory root top report tree →
      Gives (action report item) host tree
        (Follows host root top (step ⟨tree.holdings, report⟩ item)))
    (ready : Ready host.directory root top report tree) :
    Gives (items.foldlM action report) host tree
      (Follows host root top (items.foldl step ⟨tree.holdings, report⟩)) := by
  refine gives_foldlM (fun rest found after => Ready host.directory root top found after ∧
    rest.foldl step ⟨after.holdings, found⟩ = items.foldl step ⟨tree.holdings, report⟩)
    (fun item rest found after member ⟨still, same⟩ => ?_) ⟨ready, rfl⟩
  refine (turn item member found after still).mono fun _ _ ⟨onward, entered⟩ => ⟨onward, ?_⟩
  rw [entered, ← same, List.foldl_cons]

/-- Removing the C file of a source is a deed. -/
theorem removeCFile_gives {source : FilePath}
    (ready : Ready host.directory root top report tree)
    (isFile_eq : isFile tree host.directory (cFile source) =
      sees tree.holdings host.directory (cFile source)) :
    Gives (removeCFile source report) host tree (Follows host root top
      (Ledger.carryOut host.directory ⟨tree.holdings, report⟩ (.remove (cFile source)))) := by
  refine Gives.bind (gives_inspect ?_)
  rw [isFile_eq]
  split
  · next seen =>
    refine Gives.bind (gives_change fun changed removes => gives_pure ?_)
    exact ready.follows_deed seen (removeFile_becomes ready.plain removes) (by simp)
  · next unseen => exact gives_pure (ready.follows_unseen unseen)

/-- Moving the report on a source is a deed. -/
theorem moveReport_gives {layout : Layout} {source : FilePath}
    (ready : Ready host.directory root top report tree)
    (isFile_eq : isFile tree host.directory (htmlFile source) =
      sees tree.holdings host.directory (htmlFile source)) :
    Gives (moveReport layout source report) host tree (Follows host root top
      (Ledger.carryOut host.directory ⟨tree.holdings, report⟩
        (.collect ⟨htmlFile source, layout.reportDestination source⟩))) := by
  refine Gives.bind (gives_inspect ?_)
  rw [isFile_eq]
  split
  · next seen =>
    refine Gives.bind ((relocate_gives ready.plain _ _).mono fun _ after ⟨becomes, moved⟩ =>
      gives_pure ?_)
    exact ready.follows_deed seen becomes (by simpa using moved)
  · next unseen => exact gives_pure (ready.follows_unseen unseen)

/-- Moving a module to a directory is a deed, or nothing if the module is there already. -/
theorem moveModule_gives {goal file : FilePath}
    (ready : Ready host.directory root top report tree)
    (isFile_eq : isFile tree host.directory file = sees tree.holdings host.directory file) :
    Gives (moveModule goal report file) host tree (Follows host root top
      (Ledger.carryOutAll host.directory ⟨tree.holdings, report⟩ (deliveries goal file))) := by
  rw [moveModule, deliveries]
  cases file.fileName? with
  | none => exact gives_pure ⟨ready, rfl⟩
  | some name =>
    dsimp only
    split
    · exact gives_pure ⟨ready, rfl⟩
    refine Gives.bind (gives_inspect ?_)
    rw [isFile_eq, Ledger.carryOutAll, List.foldl_cons, List.foldl_nil]
    split
    · next seen =>
      refine Gives.bind ((relocate_gives ready.plain _ _).mono fun _ after ⟨becomes, moved⟩ =>
        gives_pure ?_)
      exact ready.follows_deed seen becomes (by simpa using moved)
    · next unseen => exact gives_pure (ready.follows_unseen unseen)

/-- Candidates for delivery: files directly below the root. -/
def AreBelow (root : FilePath) (candidates : List FilePath) : Prop :=
  ∀ file ∈ candidates, ∃ name, IsName name ∧ file = root.join ⟨name⟩

/-- A candidate is a file exactly if it is held: it stands directly below the root, which is a
directory. -/
theorem isFile_of_areBelow {candidates : List FilePath} (below : AreBelow root candidates)
    (ready : Ready host.directory root top report tree) {file : FilePath}
    (member : file ∈ candidates) :
    isFile tree host.directory file = sees tree.holdings host.directory file := by
  obtain ⟨name, proper, rfl⟩ := below file member
  have whole : root.join ⟨name⟩ = pathBelow root ([] ++ [name]) := rfl
  rw [whole]
  exact isFile_pathBelow ready.plain ready.rooted (by simpa using proper)

/-- Moving the modules of a source carries out its deliveries in turn. -/
theorem moveModules_gives {candidates : List FilePath} {source : FilePath}
    (below : AreBelow root candidates) (ready : Ready host.directory root top report tree) :
    Gives (moveModules candidates source report) host tree (Follows host root top
      (Ledger.carryOutAll host.directory ⟨tree.holdings, report⟩
        (deliveriesOf candidates source))) := by
  rw [moveModules, deliveriesOf]
  cases moduleOf? source with
  | none => exact gives_pure ⟨ready, rfl⟩
  | some module =>
    cases source.parent? with
    | none => exact gives_pure ⟨ready, rfl⟩
    | some goal =>
      dsimp only
      rw [Ledger.carryOutAll, List.foldl_flatMap]
      refine follows_foldlM (fun file member found after still => ?_) ready
      exact moveModule_gives still (isFile_of_areBelow below still (List.mem_of_mem_filter member))

/-- Cleaning up after one source is attending to it. -/
theorem cleanSource_gives {layout : Layout} {keepCFiles : Bool} {candidates : List FilePath}
    {source : FilePath} {front : Location} {stem : Text}
    (sourceAt : SourceAt root source front stem)
    (below : AreBelow root candidates) (ready : Ready host.directory root top report tree) :
    Gives (cleanSource layout keepCFiles candidates report source) host tree (Follows host root top
      (Ledger.attend host.directory layout keepCFiles candidates ⟨tree.holdings, report⟩
        source)) := by
  have onward {found : CleanupReport} {after : FileTree}
      (still : Ready host.directory root top found after) :
      Gives (do
          let report ← moveReport layout source found
          moveModules candidates source report) host after (Follows host root top
        (Ledger.carryOutAll host.directory ⟨after.holdings, found⟩
          (.collect ⟨htmlFile source, layout.reportDestination source⟩ ::
            deliveriesOf candidates source))) := by
    have isFile_eq := sourceAt.isFile_htmlFile still.plain still.rooted
    refine Gives.bind ((moveReport_gives still isFile_eq).mono fun found after ⟨ready, same⟩ => ?_)
    rw [Ledger.carryOutAll, List.foldl_cons, ← same]
    exact moveModules_gives below ready
  refine Gives.bind (gives_inspect ?_)
  rw [sourceAt.isFile_eq ready.plain ready.rooted, Ledger.attend]
  split
  · cases keepCFiles with
    | true => exact Gives.bind (gives_pure (onward ready))
    | false =>
      have isFile_eq := sourceAt.isFile_cFile ready.plain ready.rooted
      refine Gives.bind ((removeCFile_gives ready isFile_eq).mono
        fun found after ⟨still, same⟩ => ?_)
      have next := onward still
      rw [same] at next
      exact next
  · refine Gives.bind ((talks_report _).gives (gives_pure ⟨?_, rfl⟩))
    exact ⟨ready.plain, ready.rooted, ready.reached⟩

/-- Removing the directory for intermediate files changes what lies below it and nothing else, and
is all that is reported. -/
theorem removeBuildDir_gives {layout : Layout} (plain : tree.Plain) :
    Gives (removeBuildDir layout {}) host tree fun found after =>
      after.Plain ∧ (∃ removed, found = { removedBuildDir := removed }) ∧
        ∀ location, ¬(place host.directory layout.buildDir <+: location ∧
            location ≠ place host.directory layout.buildDir) →
          after.holdings location = tree.holdings location := by
  refine Gives.bind (gives_inspect ?_)
  split
  · next isDir =>
    refine Gives.bind (gives_change fun changed removes => gives_pure ?_)
    obtain rfl := removeTree_eq_ok plain.linkFree removes
    refine ⟨plain.erase _, ⟨true, rfl⟩, fun location apart => ?_⟩
    rw [FileTree.holdings_erase]
    dsimp only
    split
    · next below =>
      have same : location = place host.directory layout.buildDir :=
        Decidable.byContradiction fun different => apart ⟨below, different⟩
      have held : node? tree host.directory layout.buildDir = some .directory := by
        simpa [isDirectory] using isDir
      rw [node?] at held
      cases resolved : resolve tree host.directory layout.buildDir with
      | error fault => simp [resolved] at held
      | ok reached =>
        rw [resolved, resolve_place plain.linkFree resolved] at held
        simp [same, FileTree.holdings, held, Option.filter]
    · rfl
  · exact gives_pure ⟨plain, ⟨false, rfl⟩, fun _ _ => rfl⟩

/-- The candidates are the files directly below the root. The root is a directory, or there is no
result. -/
theorem rootFiles_gives (plain : tree.Plain) :
    Gives (rootFiles root) host tree fun candidates after =>
      after = tree ∧ Rooted tree host.directory root (place host.directory root) ∧
        ∀ file, file ∈ candidates ↔
          (∃ name, IsName name ∧ file = root.join ⟨name⟩) ∧
            sees tree.holdings host.directory file := by
  refine Gives.bind (gives_inspect ?_)
  rw [listDirectory]
  cases resolved : resolve tree host.directory root with
  | error fault => exact gives_throw _ _
  | ok top =>
    obtain rfl := resolve_place plain.linkFree resolved
    cases inside : tree.holdsDirectory (place host.directory root) with
    | false =>
      simp only [bind, Except.bind, inside, Bool.false_eq_true, if_false]
      exact gives_throw _ _
    | true =>
      have rooted := rooted_of_resolve plain resolved inside
      have file_eq {name : Text} (proper : IsName name) :
          isFile tree host.directory (root.join ⟨name⟩) =
            sees tree.holdings host.directory (root.join ⟨name⟩) :=
        isFile_pathBelow plain rooted (by simpa using proper : ∀ other ∈ [] ++ [name], IsName other)
      simp only [bind, Except.bind, inside, if_true]
      refine Gives.bind (gives_inspect (gives_pure ⟨rfl, rooted, fun file => ?_⟩))
      rw [sortPaths, List.mem_mergeSort, List.mem_filter, List.mem_map]
      constructor
      · rintro ⟨⟨name, listed, rfl⟩, file⟩
        obtain ⟨node, held⟩ := Option.isSome_iff_exists.mp (FileTree.mem_names.mp listed)
        have entry := FileTree.mem_entries_of_get? (by simp) held
        have proper : IsName name := plain.closed.names _ entry name (by simp)
        exact ⟨⟨name, proper, rfl⟩, (file_eq proper).symm.trans file⟩
      · rintro ⟨⟨name, proper, rfl⟩, seen⟩
        refine ⟨⟨name, FileTree.mem_names.mpr ?_, rfl⟩, (file_eq proper).trans seen⟩
        have held := (Bool.and_eq_true_iff.mp seen).2
        rw [place_join _ _ proper, ← FileTree.holdsFile_iff_holdings,
          FileTree.holdsFile_iff] at held
        obtain ⟨node, found, -⟩ := held
        exact Option.isSome_of_eq_some found

/-- What a cleanup starts its deeds from: the directory for intermediate files may be gone, and
the candidates are the files directly below the root. -/
structure Started (directory root : FilePath) (held : Holdings) (start : Ledger)
    (candidates : List FilePath) : Prop where
  report : ∃ removed, start.report = { removedBuildDir := removed }
  held : ∀ location, ¬(place directory root ++ [buildName] <+: location ∧
      location ≠ place directory root ++ [buildName]) → start.held location = held location
  mem_candidates : ∀ file, file ∈ candidates ↔
    (∃ name, IsName name ∧ file = root.join ⟨name⟩) ∧ sees start.held directory file

/-- The candidates stand directly below the root. -/
theorem Started.below {directory : FilePath} {held : Holdings} {start : Ledger}
    {candidates : List FilePath} (started : Started directory root held start candidates) :
    AreBelow root candidates :=
  fun file member => ((started.mem_candidates file).mp member).1

/-- A cleanup that succeeds has carried out the deeds of its sources in turn. -/
theorem cleanUp_gives {layout : Layout} {sources : List FilePath} {keepCFiles : Bool}
    (plain : tree.Plain) (usual : layout.buildDir = layout.root.join ⟨buildName⟩)
    (discovered : ∀ source ∈ sources, Discovered layout.root source) :
    Gives (cleanUp layout sources keepCFiles) host tree fun report after =>
      ∃ start candidates, Started host.directory layout.root tree.holdings start candidates ∧
        Ready host.directory layout.root (place host.directory layout.root) report after ∧
        Ledger.mk after.holdings report = sources.foldl
          (Ledger.attend host.directory layout keepCFiles candidates) start := by
  have proper : IsName buildName := by decide
  refine Gives.bind (gives_createDirectory ?_)
  have grown := makeDirectories_becomes plain host.directory
    layout.annotationsDir.ancestors
  refine Gives.bind ((removeBuildDir_gives grown.plain).mono ?_)
  rintro _ _ ⟨middlePlain, ⟨removed, rfl⟩, held⟩
  refine Gives.bind ((rootFiles_gives middlePlain).mono ?_)
  rintro candidates middle ⟨rfl, rooted, members⟩
  have below : AreBelow layout.root candidates := fun file member => ((members file).mp member).1
  have ready : Ready host.directory layout.root (place host.directory layout.root)
      { removedBuildDir := removed } middle := ⟨middlePlain, rooted, by simp⟩
  have started : Started host.directory layout.root tree.holdings
      ⟨middle.holdings, { removedBuildDir := removed }⟩ candidates := by
    refine ⟨⟨removed, rfl⟩, fun location apart => ?_, members⟩
    rw [← grown.holdings]
    refine held location ?_
    rw [usual, place_join _ _ proper]
    exact apart
  refine (follows_foldlM (fun source member found after still => ?_) ready).mono
    fun found after ⟨still, same⟩ => ⟨_, candidates, started, still, same⟩
  obtain ⟨front, stem, sourceAt⟩ := sourceAt_of_discovered (discovered source member)
  exact cleanSource_gives sourceAt below still

end Runs

end PyxProject.Project
