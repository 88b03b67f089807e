import PyxProject.Proofs.Files.StandingDirectories
import PyxProject.Proofs.Project.CollectedReports

/-!
# Cleanups with nothing to do

In a tidy project (`IsTidy`) a cleanup finds nothing to remove or to move, except for reports
that lie where they are collected: those are moved onto themselves. So the cleanup succeeds,
leaves the tree as it is, and its report is known (`cleanUp_yields`).
-/

namespace PyxProject.Project

open Files

section Actions

variable {α β : Type} {host : Host} {tree : FileTree}

/-- An action that succeeds with a value and leaves the tree as it is. -/
def Yields (action : Action α) (host : Host) (tree : FileTree) (value : α) : Prop :=
  ∀ session, session.tree = tree →
    ∃ later, action.perform host session = (.ok value, later) ∧ later.tree = tree

/-- A value is yielded without a run. -/
theorem yields_pure (value : α) : Yields (pure value) host tree value :=
  fun session same => ⟨session, rfl, same⟩

/-- What yields hands its value on, in the same tree. -/
theorem Yields.bind {action : Action α} {next : α → Action β} {value : α} {result : β}
    (first : Yields action host tree value) (second : Yields (next value) host tree result) :
    Yields (action >>= next) host tree result := by
  intro session same
  obtain ⟨middle, performed, unchanged⟩ := first session same
  obtain ⟨later, continued, still⟩ := second middle unchanged
  refine ⟨later, ?_, still⟩
  rw [perform_bind, performed]
  exact continued

/-- A question about the tree yields its answer. -/
theorem yields_inspect (query : FileTree → FilePath → α) :
    Yields (inspect query) host tree (query tree host.directory) := by
  rintro session rfl
  exact ⟨session, rfl, rfl⟩

/-- Talk yields nothing and leaves the tree. -/
theorem Talks.yields {action : Action Unit} (talks : Talks action) :
    Yields action host tree () := by
  rintro session rfl
  obtain ⟨later, performed, alike⟩ := talks host session
  exact ⟨later, performed, alike.tree⟩

/-- A loop yields a fold if each turn yields a step of it. -/
theorem yields_foldlM {items : List α} {action : β → α → Action β} {step : β → α → β}
    (turn : ∀ item ∈ items, ∀ value, Yields (action value item) host tree (step value item))
    (value : β) :
    Yields (items.foldlM action value) host tree (items.foldl step value) := by
  induction items generalizing value with
  | nil => exact yields_pure value
  | cons item rest inductionHypothesis =>
    rw [List.foldlM_cons, List.foldl_cons]
    exact (turn item List.mem_cons_self value).bind
      (inductionHypothesis (fun other member => turn other (List.mem_cons_of_mem item member)) _)

/-- Creating directories that all stand leaves the tree. -/
theorem yields_createDirectory {path : FilePath} (linkFree : tree.LinkFree)
    (standing : IsStanding tree host.directory path) (attempt : Attempt) :
    Yields (createDirectory attempt path) host tree () := by
  rintro session rfl
  have made := makeDirectoryTree_of_isStanding linkFree standing
  refine ⟨session, ?_, rfl⟩
  simp only [createDirectory, perform_bind, perform_read, perform_get, perform_modify, made]
  rfl

end Actions

section Idle

variable {host : Host} {tree : FileTree} {layout : Layout} {source : FilePath} {front : Location}
  {stem : Text} {report : CleanupReport} {sources candidates : List FilePath} {keepCFiles : Bool}

/-- A project in which a cleanup has nothing to remove and nothing to move elsewhere. -/
structure IsTidy (tree : FileTree) (directory : FilePath) (layout : Layout) (keepCFiles : Bool)
    (sources : List FilePath) : Prop where
  plain : tree.Plain
  checked : checkPath layout.root = .ok ()
  rooted : Rooted tree directory layout.root (place directory layout.root)
  /-- The directory that collects the reports is there. -/
  collecting : isDirectory tree directory layout.annotationsDir
  /-- The directory for intermediate files is not. -/
  noBuild : isDirectory tree directory layout.buildDir = false
  noCFile : ∀ source ∈ sources, isFile tree directory source → keepCFiles = false →
    isFile tree directory (cFile source) = false
  /-- The reports lie where they are collected. -/
  collected : ∀ source ∈ sources, isFile tree directory source →
    isFile tree directory (htmlFile source) →
    (layout.collection source).inPlace directory ∧
      IsReached tree directory (layout.reportDestination source)
  noModule : ∀ source ∈ sources, isFile tree directory source → ∀ front stem,
    SourceAt layout.root source front stem → front ≠ [] →
    ∀ name, IsName name → isBuildOf name stem →
    isFile tree directory (layout.root.join ⟨name⟩) = false

/-- Renaming a file onto itself changes nothing. -/
theorem rename_inPlace (plain : tree.Plain) {directory destination : FilePath}
    (file : isFile tree directory source) (reached : IsReached tree directory destination)
    (same : place directory source = place directory destination) :
    rename tree directory source destination = .ok tree := by
  obtain ⟨resolved, regular⟩ := resolve_of_isFile plain.linkFree file
  obtain ⟨node, held, isRegular⟩ := FileTree.holdsFile_iff.mp regular
  have noDirectory : ¬tree.holdsDirectory (place directory source) := by
    simpa [FileTree.holdsDirectory, held] using (Node.plain_of_isRegular isRegular).1
  obtain ⟨parent, name, named, whole⟩ :=
    namesEntry_of_resolve plain.closed plain.linkFree resolved noDirectory
  obtain ⟨goalParent, goalName, goalNamed, goalWhole⟩ := reached
  rw [← same] at goalWhole
  have origin := replaceable_of_namesEntry named (whole ▸ noDirectory)
  have goal := replaceable_of_namesEntry goalNamed (goalWhole ▸ noDirectory)
  rw [whole] at origin
  rw [goalWhole] at goal
  simp [rename, origin, goal, held, bind, Except.bind, pure, Except.pure]

/-- A report that lies where it is collected is listed, and nothing is changed. -/
theorem moveReport_yields (plain : tree.Plain)
    (rooted : Rooted tree host.directory layout.root (place host.directory layout.root))
    (sourceAt : SourceAt layout.root source front stem)
    (collecting : isDirectory tree host.directory layout.annotationsDir)
    (collected : isFile tree host.directory (htmlFile source) →
      (layout.collection source).inPlace host.directory ∧
        IsReached tree host.directory (layout.reportDestination source)) :
    Yields (moveReport layout source report) host tree
      (if isFile tree host.directory (htmlFile source) then
        { report with movedReports := report.movedReports ++ [layout.collection source] }
      else report) := by
  refine Yields.bind (yields_inspect _) ?_
  cases file : isFile tree host.directory (htmlFile source) with
  | false => exact yields_pure report
  | true =>
    obtain ⟨inPlace, reached⟩ := collected file
    have seen := file
    rw [sourceAt.isFile_htmlFile plain rooted] at seen
    have readable : isReadable host.directory (htmlFile source) := (Bool.and_eq_true_iff.mp seen).1
    have renamed := rename_inPlace plain file reached (inPlace_collection.mp inPlace)
    have moves : Yields (relocate (htmlFile source) (layout.reportDestination source)) host
        tree () := by
      have renames : Yields (renameOrCopy (htmlFile source) (layout.reportDestination source)) host
          tree () := by
        rintro session rfl
        refine ⟨session, ?_, rfl⟩
        simp only [renameOrCopy, perform_bind, perform_inspect, renamed, perform_modify]
      refine (talks_report _).yields.bind ?_
      rw [sourceAt.parent?_reportDestination readable layout]
      have standing : IsStanding tree host.directory layout.annotationsDir := .inr collecting
      exact (yields_createDirectory plain.linkFree (standing.trimmed plain) _).bind renames
    exact moves.bind (yields_pure _)

/-- No module is moved that is there already. -/
theorem moveModules_yields (nothing : deliveriesOf candidates source = []) :
    Yields (moveModules candidates source report) host tree report := by
  rw [moveModules]
  rw [deliveriesOf] at nothing
  split
  · next module goal isModule isGoal =>
    simp only [isModule, isGoal, List.flatMap_eq_nil_iff] at nothing
    have turn : ∀ file ∈ candidates.filter fun file =>
        file.fileName?.any fun name => isBuildOf name module,
        ∀ report, Yields (moveModule goal report file) host tree report := by
      intro file member report
      have stays := nothing file member
      rw [deliveries] at stays
      rw [moveModule]
      cases named : file.fileName? with
      | none => exact yields_pure report
      | some name =>
        simp only [named] at stays ⊢
        split at stays
        · next same =>
          rw [if_pos same]
          exact yields_pure report
        · cases stays
    have folded := yields_foldlM turn report
    rwa [List.foldl_fixed] at folded
  · exact yields_pure report

/-- In a tidy project no module is to be moved. -/
theorem IsTidy.deliveriesOf_eq (tidy : IsTidy tree host.directory layout keepCFiles sources)
    (listed : source ∈ sources) (present : isFile tree host.directory source)
    (sourceAt : SourceAt layout.root source front stem) (below : AreBelow layout.root candidates)
    (areThere : ∀ file ∈ candidates, isFile tree host.directory file) :
    deliveriesOf candidates source = [] := by
  refine List.eq_nil_iff_forall_not_mem.mpr fun deed member => ?_
  obtain ⟨name, proper, candidate, built, elsewhere, -⟩ :=
    (mem_deliveriesOf sourceAt below).mp member
  have gone := tidy.noModule source listed present front stem sourceAt elsewhere name proper built
  rw [areThere _ candidate] at gone
  cases gone

/-- What a cleanup of a tidy project notes on a source. -/
def noteIdle (tree : FileTree) (directory : FilePath) (layout : Layout) (report : CleanupReport)
    (source : FilePath) : CleanupReport :=
  if isFile tree directory source then
    if isFile tree directory (htmlFile source) then
      { report with movedReports := report.movedReports ++ [layout.collection source] }
    else report
  else { report with skipped := report.skipped ++ [source] }

/-- Cleaning up after a source of a tidy project finds nothing but what is in place. -/
theorem cleanSource_yields (tidy : IsTidy tree host.directory layout keepCFiles sources)
    (areSources : AreSources layout.root sources) (listed : source ∈ sources)
    (below : AreBelow layout.root candidates)
    (areThere : ∀ file ∈ candidates, isFile tree host.directory file) :
    Yields (cleanSource layout keepCFiles candidates report source) host tree
      (noteIdle tree host.directory layout report source) := by
  obtain ⟨front, stem, sourceAt⟩ := areSources source listed
  refine Yields.bind (yields_inspect _) ?_
  rw [noteIdle]
  cases present : isFile tree host.directory source with
  | false => exact (talks_report _).yields.bind (yields_pure _)
  | true =>
    have collects : Yields (moveReport layout source report) host tree _ :=
      moveReport_yields tidy.plain tidy.rooted sourceAt tidy.collecting
        (tidy.collected source listed present)
    have delivers (report : CleanupReport) :
        Yields (moveModules candidates source report) host tree report :=
      moveModules_yields (tidy.deliveriesOf_eq listed present sourceAt below areThere)
    cases keeps : keepCFiles with
    | true => exact Yields.bind (yields_pure report) (collects.bind (delivers _))
    | false =>
      have removes : Yields (removeCFile source report) host tree report := by
        refine Yields.bind (yields_inspect _) ?_
        rw [tidy.noCFile source listed present keeps]
        exact yields_pure report
      exact Yields.bind removes (collects.bind (delivers _))

/-- The report on a cleanup of a tidy project. -/
def idleReport (tree : FileTree) (directory : FilePath) (layout : Layout)
    (sources : List FilePath) : CleanupReport where
  movedReports := ((sources.filter (isFile tree directory)).filter fun source =>
    isFile tree directory (htmlFile source)).map layout.collection
  skipped := sources.filter fun source => !isFile tree directory source

/-- What is noted for the sources in turn makes up the report of an idle cleanup. -/
theorem foldl_noteIdle (directory : FilePath) :
    sources.foldl (noteIdle tree directory layout) {} =
      idleReport tree directory layout sources := by
  have noted (report : CleanupReport) :
      sources.foldl (noteIdle tree directory layout) report =
        { report with
          movedReports :=
            report.movedReports ++ (idleReport tree directory layout sources).movedReports
          skipped := report.skipped ++ (idleReport tree directory layout sources).skipped } := by
    induction sources generalizing report with
    | nil => simp [idleReport]
    | cons source rest inductionHypothesis =>
      rw [List.foldl_cons, inductionHypothesis, noteIdle]
      cases present : isFile tree directory source with
      | false => simp [idleReport, present]
      | true =>
        cases left : isFile tree directory (htmlFile source) with
        | false => simp [idleReport, present, left]
        | true => simp [idleReport, present, left]
  rw [noted]
  rfl

/-- The candidates of a cleanup are found, and they are there. -/
theorem rootFiles_yields {root : FilePath} (plain : tree.Plain) (checked : checkPath root = .ok ())
    (rooted : Rooted tree host.directory root (place host.directory root)) :
    ∃ candidates, Yields (rootFiles root) host tree candidates ∧ AreBelow root candidates ∧
      ∀ file ∈ candidates, isFile tree host.directory file := by
  have resolved : resolve tree host.directory root = .ok (place host.directory root) :=
    (resolve_iff plain.linkFree).mpr ⟨checked, (walk_steps_iff rooted.inside).mpr rooted.arrived⟩
  have listed : listDirectory tree host.directory root =
      .ok (tree.names (place host.directory root)) := by
    simp [listDirectory, resolved, rooted.inside, bind, Except.bind, pure, Except.pure]
  refine ⟨sortPaths (((tree.names (place host.directory root)).map fun name =>
    root.join ⟨name⟩).filter (isFile tree host.directory)), ?_, ?_, ?_⟩
  · refine Yields.bind (yields_inspect _) ?_
    rw [listed]
    exact Yields.bind (yields_inspect _) (yields_pure _)
  · intro file member
    rw [sortPaths, List.mem_mergeSort, List.mem_filter, List.mem_map] at member
    obtain ⟨⟨name, inRoot, rfl⟩, -⟩ := member
    obtain ⟨node, held⟩ := Option.isSome_iff_exists.mp (FileTree.mem_names.mp inRoot)
    have entry := FileTree.mem_entries_of_get? (by simp) held
    exact ⟨name, plain.closed.names _ entry name (by simp), rfl⟩
  · intro file member
    rw [sortPaths, List.mem_mergeSort, List.mem_filter] at member
    exact member.2

/-- A cleanup of a tidy project succeeds, leaves the tree as it is and lists nothing but reports
that lie where they are collected, and sources that are not there. -/
theorem cleanUp_yields (tidy : IsTidy tree host.directory layout keepCFiles sources)
    (areSources : AreSources layout.root sources) :
    Yields (cleanUp layout sources keepCFiles) host tree
      (idleReport tree host.directory layout sources) := by
  obtain ⟨candidates, found, below, areThere⟩ :=
    rootFiles_yields tidy.plain tidy.checked tidy.rooted
  have noRemoval : Yields (removeBuildDir layout {}) host tree {} := by
    refine Yields.bind (yields_inspect _) ?_
    rw [tidy.noBuild]
    exact yields_pure _
  refine (yields_createDirectory tidy.plain.linkFree (.inr tidy.collecting) _).bind
    (noRemoval.bind (found.bind ?_))
  rw [← foldl_noteIdle]
  exact yields_foldlM (fun source listed report =>
    cleanSource_yields tidy areSources listed below areThere) {}

end Idle

end PyxProject.Project
