import PyxProject.Proofs.Project.IdleCleanups
import PyxProject.Proofs.Project.KeptDirectories
import PyxProject.Proofs.Project.SettledDeeds
import PyxProject.Proofs.Project.TidiedProjects

/-!
# Cleaning up again

A cleanup that succeeds leaves a tidy project (`isTidy_of_cleanUp`), if the way to where reports
are collected does not lead through the directory for intermediate files. So the same cleanup
succeeds again, and leaves the tree as it is. It has nothing to list but reports that lie where
they are collected, and it lists those (`cleanUp_again`). Neither the condition nor the exception
can be left out (`cleanUp_lists_again`).
-/

namespace PyxProject.Project

open Files

/-- Whether the way to where reports are collected leads through the directory for intermediate
files. -/
def Layout.collectsInBuild (layout : Layout) (directory : FilePath) : Bool :=
  passes (place directory layout.buildDir) []
    (FilePath.namesOf (directory.join layout.annotationsDir).text)

/-- A path that is joined to one that is not empty is not empty. -/
theorem join_filled {base : FilePath} (filled : base.text ≠ []) (path : FilePath) :
    (base.join path).text ≠ [] := by
  rw [FilePath.join]
  split
  · next absolute =>
    intro empty
    simp [FilePath.isAbsolute, empty] at absolute
  · split <;> simp [filled]

/-- A cleanup that succeeds leaves a tidy project. -/
theorem isTidy_of_cleanUp {host : Host} {session after : Session} {layout : Layout}
    {keepCFiles : Bool} {report : CleanupReport} {sources : List FilePath}
    (plain : session.tree.Plain) (usual : layout.buildDir = layout.root.join ⟨buildName⟩)
    (named : layout.root.text ≠ [] → layout.annotationsDir.text ≠ [])
    (apart : layout.collectsInBuild host.directory = false)
    (discovered : ∀ source ∈ sources, Discovered layout.root source)
    (succeeds : (cleanUp layout sources keepCFiles).perform host session = (.ok report, after)) :
    IsTidy after.tree host.directory layout keepCFiles sources := by
  have checked : checkPath layout.root = .ok () := cleanUp_checked session report after rfl succeeds
  obtain ⟨collecting, noBuild⟩ := cleanUp_keeps plain usual (named (checkPath_eq_ok.mp checked).1)
    apart discovered session report after rfl succeeds
  obtain ⟨start, candidates, started, ready, same⟩ :=
    cleanUp_gives plain usual discovered session report after rfl succeeds
  have areSources := areSources_of_discovered discovered
  have below := started.below
  rw [attendAll_eq below areSources] at same
  have areFound : AreSources layout.root (sources.filter (sees start.held host.directory)) :=
    fun source member => areSources source (List.mem_of_mem_filter member)
  have held : after.tree.holdings = (start.carryOutAll host.directory (deedsOfAll layout keepCFiles
      candidates (sources.filter (sees start.held host.directory)))).held :=
    congrArg Ledger.held same
  have entered : report.deeds .collect = (start.carryOutAll host.directory (deedsOfAll layout
      keepCFiles candidates (sources.filter
        (sees start.held host.directory)))).report.deeds .collect :=
    congrArg (fun ledger => ledger.report.deeds .collect) same
  have found : ∀ source ∈ sources, isFile after.tree host.directory source →
      source ∈ sources.filter (sees start.held host.directory) := by
    intro source listed present
    obtain ⟨front, stem, sourceAt⟩ := areSources source listed
    rw [sourceAt.isFile_eq ready.plain ready.rooted, held, sees_source below areFound sourceAt]
      at present
    exact List.mem_filter.mpr ⟨listed, present⟩
  refine
    { plain := ready.plain
      checked := checked
      rooted := ready.rooted
      collecting := collecting
      noBuild := noBuild
      noCFile := fun source listed present removes => ?_
      collected := fun source listed present isThere => ?_
      noModule := fun source listed present front stem sourceAt elsewhere name proper built => ?_ }
  · obtain ⟨front, stem, sourceAt⟩ := areSources source listed
    rw [sourceAt.isFile_cFile ready.plain ready.rooted, held, removes]
    exact no_cFile_left below areFound (found source listed present)
  · obtain ⟨front, stem, sourceAt⟩ := areSources source listed
    rw [sourceAt.isFile_htmlFile ready.plain ready.rooted, held] at isThere
    obtain ⟨inPlace, move, member, destination⟩ :=
      report_left below areFound (found source listed present) isThere
    rw [← entered] at member
    obtain ⟨listedMove, inReport, rfl⟩ : ∃ listed ∈ report.movedReports, listed = move := by
      simpa [CleanupReport.deeds] using member
    refine ⟨inPlace, ?_⟩
    rw [← destination]
    exact ready.reached _ (List.mem_append_left _ inReport)
  · have candidate : sees start.held host.directory (layout.root.join ⟨name⟩) →
        layout.root.join ⟨name⟩ ∈ candidates :=
      fun seen => (started.mem_candidates _).mpr ⟨⟨name, proper, rfl⟩, seen⟩
    rw [isFile_join ready.plain ready.rooted proper, held]
    exact no_module_left below areFound (found source listed present) sourceAt elsewhere proper
      built candidate

/-- The report on a cleanup of a tidy project is empty, unless a report lies where it is
collected. -/
theorem IsTidy.isEmpty_idleReport {tree : FileTree} {directory : FilePath} {layout : Layout}
    {keepCFiles : Bool} {sources : List FilePath}
    (tidy : IsTidy tree directory layout keepCFiles sources) :
    (idleReport tree directory layout sources).isEmpty ↔
      ∀ source ∈ sources, isFile tree directory source →
        (layout.collection source).inPlace directory →
        isFile tree directory (htmlFile source) = false := by
  have unlisted : (idleReport tree directory layout sources).isEmpty ↔
      ∀ source ∈ sources, isFile tree directory source →
        isFile tree directory (htmlFile source) = false := by
    simp only [CleanupReport.isEmpty, idleReport, Bool.not_false, List.isEmpty_nil, Bool.true_and,
      Bool.and_true, List.isEmpty_iff, List.map_eq_nil_iff, List.filter_eq_nil_iff, List.mem_filter,
      Bool.not_eq_true, and_imp]
  rw [unlisted]
  refine ⟨fun nothing source listed present _ => nothing source listed present,
    fun nothing source listed present => Bool.eq_false_iff.mpr fun isThere => ?_⟩
  have inPlace := (tidy.collected source listed present isThere).1
  rw [nothing source listed present inPlace] at isThere
  cases isThere

/-- A cleanup that has succeeded succeeds again, and leaves the tree as it is. Of the sources that
are there it lists the reports that lie where they are collected, and nothing else: the second
report is empty if there are none. -/
theorem cleanUp_again {host : Host} {session after : Session} {root : FilePath} {config : Config}
    {keepCFiles : Bool} {report : CleanupReport} {sources : List FilePath}
    (plain : session.tree.Plain)
    (apart : (Layout.of root config).collectsInBuild host.directory = false)
    (discovered : ∀ source ∈ sources, Discovered root source)
    (succeeds : (cleanUp (.of root config) sources keepCFiles).perform host session =
      (.ok report, after)) :
    ∃ again later,
      (cleanUp (.of root config) sources keepCFiles).perform host after = (.ok again, later) ∧
      later.tree = after.tree ∧
      again = idleReport after.tree host.directory (.of root config) sources ∧
      (again.isEmpty ↔ ∀ source ∈ sources, isFile after.tree host.directory source →
        ((Layout.of root config).collection source).inPlace host.directory →
        isFile after.tree host.directory (htmlFile source) = false) := by
  have tidy : IsTidy after.tree host.directory (.of root config) keepCFiles sources :=
    isTidy_of_cleanUp plain rfl (fun filled => join_filled (join_filled filled _) _) apart
      discovered succeeds
  have areSources : AreSources (Layout.of root config).root sources :=
    areSources_of_discovered discovered
  obtain ⟨later, performed, unchanged⟩ := cleanUp_yields tidy areSources after rfl
  exact ⟨_, later, performed, unchanged, rfl, tidy.isEmpty_idleReport⟩

/-- A second cleanup of a built project leaves the tree, and has nothing to report. -/
theorem cleanUp_again_builtProject : ∃ report after again later,
    (cleanUp (.of "/w" {}) ["/w/ext/fast.pyx"] false).perform { directory := "/" } builtProject =
        (.ok report, after) ∧
      (cleanUp (.of "/w" {}) ["/w/ext/fast.pyx"] false).perform { directory := "/" } after =
        (.ok again, later) ∧
      later.tree = after.tree ∧ again.isEmpty := by
  obtain ⟨plain, -, discovered⟩ := builtProject_discovers
  have apart : (Layout.of "/w" {}).collectsInBuild "/" = false := by decide +kernel
  have elsewhere : ((Layout.of "/w" {}).collection "/w/ext/fast.pyx").inPlace "/" = false := by
    decide +kernel
  obtain ⟨report, after, performed⟩ := builtProject_isCleaned
  obtain ⟨again, later, performedAgain, unchanged, -, empty⟩ :=
    @cleanUp_again { directory := "/" } builtProject after "/w" {} false report
      ["/w/ext/fast.pyx"] plain apart (List.forall_mem_singleton.mpr discovered) performed
  refine ⟨report, after, again, later, performed, performedAgain, unchanged, empty.mpr ?_⟩
  refine List.forall_mem_singleton.mpr fun _ inPlace => ?_
  rw [elsewhere] at inPlace
  cases inPlace

/-- A report that lies where it is collected is listed again. If the way to where reports are
collected leads through the directory for intermediate files, a second cleanup removes what the
first has collected. -/
theorem cleanUp_lists_again :
    (unmovedReport.tree.Plain ∧ Discovered "/w" "/w/ext/annotations/x.pyx" ∧
      ∃ report after again later,
        (cleanUp (.of "/w" {}) ["/w/ext/annotations/x.pyx"] false).perform { directory := "/" }
          unmovedReport = (.ok report, after) ∧
        (cleanUp (.of "/w" {}) ["/w/ext/annotations/x.pyx"] false).perform { directory := "/" }
          after = (.ok again, later) ∧
        again.isEmpty = false) ∧
    (builtProject.tree.Plain ∧ Discovered "/w" "/w/ext/fast.pyx" ∧
      ∃ report after again later,
        (cleanUp (.of "/w" { extensionsDir := "build" }) ["/w/ext/fast.pyx"] false).perform
          { directory := "/" } builtProject = (.ok report, after) ∧
        (cleanUp (.of "/w" { extensionsDir := "build" }) ["/w/ext/fast.pyx"] false).perform
          { directory := "/" } after = (.ok again, later) ∧
        again.isEmpty = false ∧
        isFile after.tree "/" "/w/build/annotations/fast.html" ∧
        isFile later.tree "/" "/w/build/annotations/fast.html" = false) := by
  refine ⟨⟨unmovedReport_discovers.1, unmovedReport_discovers.2, ?_⟩, builtProject_discovers.1,
    builtProject_discovers.2.2, ?_⟩
  · have listed : ((cleanUp (.of "/w" {}) ["/w/ext/annotations/x.pyx"] false).perform
        { directory := "/" } unmovedReport).1.isOk := by decide +kernel
    have listedAgain : ((cleanUp (.of "/w" {}) ["/w/ext/annotations/x.pyx"] false).perform
        { directory := "/" } ((cleanUp (.of "/w" {}) ["/w/ext/annotations/x.pyx"] false).perform
          { directory := "/" } unmovedReport).2).1 = .ok { movedReports :=
            [⟨"/w/ext/annotations/x.html", "/w/ext/annotations/x.html"⟩] } := by decide +kernel
    rcases performed : (cleanUp (.of "/w" {}) ["/w/ext/annotations/x.pyx"] false).perform
        { directory := "/" } unmovedReport with ⟨failure | report, after⟩
    · rw [performed] at listed
      cases listed
    · rw [performed] at listedAgain
      exact ⟨report, after, _, _, rfl, Prod.ext listedAgain rfl, rfl⟩
  · have cleared : ((cleanUp (.of "/w" { extensionsDir := "build" }) ["/w/ext/fast.pyx"]
        false).perform { directory := "/" } builtProject).1.isOk := by decide +kernel
    have collected : isFile ((cleanUp (.of "/w" { extensionsDir := "build" }) ["/w/ext/fast.pyx"]
        false).perform { directory := "/" } builtProject).2.tree "/"
          "/w/build/annotations/fast.html" := by decide +kernel
    have clearedAgain : ((cleanUp (.of "/w" { extensionsDir := "build" }) ["/w/ext/fast.pyx"]
        false).perform { directory := "/" } ((cleanUp (.of "/w" { extensionsDir := "build" })
          ["/w/ext/fast.pyx"] false).perform { directory := "/" } builtProject).2).1 =
        .ok { removedBuildDir := true } := by decide +kernel
    have removed : isFile ((cleanUp (.of "/w" { extensionsDir := "build" }) ["/w/ext/fast.pyx"]
        false).perform { directory := "/" } ((cleanUp (.of "/w" { extensionsDir := "build" })
          ["/w/ext/fast.pyx"] false).perform { directory := "/" } builtProject).2).2.tree "/"
            "/w/build/annotations/fast.html" = false := by decide +kernel
    rcases performed : (cleanUp (.of "/w" { extensionsDir := "build" }) ["/w/ext/fast.pyx"]
        false).perform { directory := "/" } builtProject with ⟨failure | report, after⟩
    · rw [performed] at cleared
      cases cleared
    · rw [performed] at collected clearedAgain removed
      exact ⟨report, after, _, _, rfl, Prod.ext clearedAgain rfl, rfl, collected, removed⟩

end PyxProject.Project
