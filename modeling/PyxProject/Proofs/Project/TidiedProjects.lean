import PyxProject.Proofs.Project.CollectedReports
import PyxProject.Proofs.Project.DeliveredModules

/-!
# What a cleanup does to a project

A cleanup moves each compiled module that a source in another directory takes, once and to the
first such source, removes the C files of the sources that are there, moves their reports away,
and leaves everything else as it was (`tidied_of_cleanUp`). Its report lists what was done, with
one exception: a report that lies where it is collected is listed as moved although it stays
(`unmoved_report_is_listed`).
-/

namespace PyxProject.Project

open Files

/-- The locations that a cleanup may change. -/
inductive MayChange (tree : FileTree) (directory : FilePath) (layout : Layout) (keepCFiles : Bool)
    (sources : List FilePath) (report : CleanupReport) : Location → Prop where
  | intermediate {location : Location}
      (below : place directory layout.root ++ [buildName] <+: location)
      (inside : location ≠ place directory layout.root ++ [buildName]) :
      MayChange tree directory layout keepCFiles sources report location
  | cFile {source : FilePath} (listed : source ∈ sources) (present : isFile tree directory source)
      (removes : keepCFiles = false) :
      MayChange tree directory layout keepCFiles sources report (place directory (cFile source))
  | report {source : FilePath} (listed : source ∈ sources)
      (present : isFile tree directory source) :
      MayChange tree directory layout keepCFiles sources report (place directory (htmlFile source))
  | module {name : Text} (proper : IsName name)
      (isThere : isFile tree directory (layout.root.join ⟨name⟩))
      (taken : sources.any (takes tree directory layout.root name)) :
      MayChange tree directory layout keepCFiles sources report
        (place directory (layout.root.join ⟨name⟩))
  | destination {move : Move} (listed : move ∈ report.movedReports ++ report.movedModules) :
      MayChange tree directory layout keepCFiles sources report (place directory move.destination)

/-- A project after a cleanup, and the report on it. -/
structure Tidied (tree after : FileTree) (directory : FilePath) (layout : Layout)
    (keepCFiles : Bool) (sources : List FilePath) (report : CleanupReport) : Prop where
  /-- A file directly below the root that sources in other directories take is moved to the first
  of them, and listed once. -/
  modules : ∀ name source, IsName name → isFile tree directory (layout.root.join ⟨name⟩) →
    sources.find? (takes tree directory layout.root name) = some source →
    ∃ parent content, source.parent? = some parent ∧
      readBytes tree directory (layout.root.join ⟨name⟩) = .ok content ∧
      readBytes after directory (parent.join ⟨name⟩) = .ok content ∧
      isFile after directory (layout.root.join ⟨name⟩) = false ∧
      report.movedModules.filter (·.source = layout.root.join ⟨name⟩) =
        [⟨layout.root.join ⟨name⟩, parent.join ⟨name⟩⟩]
  /-- No other module is listed. -/
  onlyModules : ∀ move ∈ report.movedModules, ∃ name, IsName name ∧
    move.source = layout.root.join ⟨name⟩ ∧ isFile tree directory move.source ∧
    sources.any (takes tree directory layout.root name)
  frame : ∀ location, ¬MayChange tree directory layout keepCFiles sources report location →
    after.holdings location = tree.holdings location
  sourcesKept : ∀ source ∈ sources,
    after.holdings (place directory source) = tree.holdings (place directory source)
  removed : report.removedCFiles = if keepCFiles then [] else
    ((sources.filter (isFile tree directory)).filter fun source =>
      isFile tree directory (cFile source)).map cFile
  removedGone : ∀ file ∈ report.removedCFiles, isFile after directory file = false
  /-- The reports that were moved are listed. One that lay where it is collected was not moved. -/
  reports : report.movedReports.filter (!·.inPlace directory) =
    ((sources.filter (isFile tree directory)).filter fun source =>
      isFile tree directory (htmlFile source) &&
        !(layout.collection source).inPlace directory).map layout.collection
  /-- No other report is listed. -/
  onlyReports : ∀ move ∈ report.movedReports,
    ∃ source ∈ sources.filter (isFile tree directory), move = layout.collection source
  reportsGone : ∀ move ∈ report.movedReports, ¬move.inPlace directory →
    isFile after directory move.source = false
  /-- Where reports are collected the last one that was moved there is found. -/
  reportsCollected : ∀ source ∈ sources.filter (isFile tree directory),
    isFile tree directory (htmlFile source) → ∃ content,
      readBytes tree directory (htmlFile (layout.prevailing (isFile tree directory) directory
        (sources.filter (isFile tree directory)) source)) = .ok content ∧
      readBytes after directory (layout.reportDestination source) = .ok content
  skipped : report.skipped = sources.filter fun source => !isFile tree directory source

section Cleanups

variable {directory root source : FilePath} {layout : Layout} {front : Location} {stem name : Text}
  {start : Ledger} {sources candidates : List FilePath} {tree after : FileTree} {top : Location}
  {keepCFiles : Bool} {report : CleanupReport} {location : Location}

namespace CleanedUp

/-- The C files that a cleanup lists are those of the sources that were there, and are gone. -/
theorem removed_eq
    (cleanedUp : CleanedUp directory layout false sources tree after report start candidates)
    (plain : tree.Plain) (rooted : Rooted tree directory layout.root top)
    (distinct : sources.Nodup) :
    report.removedCFiles = ((sources.filter (isFile tree directory)).filter fun source =>
        isFile tree directory (cFile source)).map cFile ∧
      ∀ source ∈ sources.filter (isFile tree directory), isFile tree directory (cFile source) →
        after.holdings (place directory (cFile source)) = none := by
  obtain ⟨listed, gone⟩ := cleanedUp.left_of_kind .remove
    (fun source => .remove (cFile source)) distinct (fun _ => rfl) (filter_deedsOfAll .remove)
    (fun source member => by
      obtain ⟨front, stem, sourceAt⟩ := cleanedUp.arePresent source member
      exact cleanedUp.started.sees_beside plain rooted sourceAt (by decide) (by decide))
    fun first firstMember other otherMember different _ readable touches => by
      obtain ⟨firstFront, firstStem, firstAt⟩ := cleanedUp.arePresent first firstMember
      obtain ⟨otherFront, otherStem, otherAt⟩ := cleanedUp.arePresent other otherMember
      rcases touches.2 with same | goal
      · exact different (eq_of_place_beside firstAt otherAt (by decide) (by decide) touches.1
          readable same.symm)
      · cases goal
  refine ⟨?_, fun source member isThere => gone source member rfl isThere⟩
  have whole : (report.deeds .remove).filter (·.leaves directory) = report.deeds .remove := by
    refine List.filter_eq_self.mpr fun deed member => ?_
    obtain ⟨file, -, rfl⟩ := List.mem_map.mp member
    rfl
  refine List.map_injective_iff.mpr (fun _ _ same => Deed.remove.inj same) ?_
  rw [List.map_map]
  exact whole.symm.trans listed

/-- No C files are removed if they are to be kept. -/
theorem nothing_removed
    (cleanedUp : CleanedUp directory layout true sources tree after report start candidates) :
    report.removedCFiles = [] := by
  have deeds := (cleanedUp.of_kind .remove).2
  simp only [filter_deedsOfAll, if_true] at deeds
  exact List.map_eq_nil_iff.mp (deeds.trans (cleanedUp.started.deeds_eq .remove))

variable (cleanedUp : CleanedUp directory layout keepCFiles sources tree after report start candidates)
include cleanedUp

/-- A cleanup changes nothing else. What a deed in the report has touched is its file or the
destination of a reported move. -/
theorem frame (plain : tree.Plain) (rooted : Rooted tree directory layout.root top)
    (kept : ¬MayChange tree directory layout keepCFiles sources report location) :
    after.holdings location = tree.holdings location := by
  have sameStart : start.held location = tree.holdings location :=
    cleanedUp.started.held location fun ⟨below, inside⟩ => kept (.intermediate below inside)
  rw [cleanedUp.held, ← sameStart]
  refine (held_or_entered location).resolve_right ?_
  rintro ⟨deed, member, touches, entered⟩
  rw [← cleanedUp.deeds] at entered
  refine kept ?_
  obtain ⟨source, present, removes⟩ := mem_deedsOfAll.mp member
  obtain ⟨listed, isThere⟩ := List.mem_filter.mp present
  rcases removes with ⟨removes, rfl⟩ | rfl | delivery
  · rcases touches.2 with rfl | goal
    · exact .cFile listed isThere removes
    · cases goal
  · rcases touches.2 with rfl | goal
    · exact .report listed isThere
    · obtain ⟨move, inReport, same⟩ := List.mem_map.mp entered
      rw [← Option.some.inj goal, ← Deed.collect.inj same]
      exact .destination (List.mem_append_left _ inReport)
  · obtain ⟨front, stem, sourceAt⟩ := cleanedUp.areSources source listed
    obtain ⟨name, built, candidate, delivers⟩ := delivers_of_mem sourceAt cleanedUp.below delivery
    rcases touches.2 with rfl | goal
    · rw [delivers.file_eq]
      refine .module delivers.proper
        ((cleanedUp.mem_candidates plain rooted delivers.proper).mp candidate) ?_
      exact List.any_eq_true.mpr ⟨source, listed, (sourceAt.takes_iff directory name tree).mpr
        ⟨isThere, built, delivers.elsewhere⟩⟩
    · rw [delivers.deed_eq] at entered goal
      obtain ⟨move, inReport, same⟩ := List.mem_map.mp entered
      rw [← Option.some.inj goal, ← Deed.deliver.inj same]
      exact .destination (List.mem_append_right _ inReport)

/-- A cleanup keeps the sources. -/
theorem source_kept (listed : source ∈ sources) :
    after.holdings (place directory source) = tree.holdings (place directory source) := by
  obtain ⟨front, stem, sourceAt⟩ := cleanedUp.areSources source listed
  rw [cleanedUp.held, held_source cleanedUp.below cleanedUp.arePresent sourceAt, sourceAt.place_eq,
    cleanedUp.started.held_eq sourceAt.outside]

/-- What is gone from its place beside a source is no file any more. -/
theorem gone_beside (listed : source ∈ sources) {extension : Text} (noSlash : '/' ∉ extension)
    (long : extension ≠ [])
    (gone : after.holdings (place directory (source.withExtension extension)) = none) :
    isFile after directory (source.withExtension extension) = false := by
  obtain ⟨front, stem, sourceAt⟩ := cleanedUp.areSources source listed
  rw [sourceAt.isFile_withExtension cleanedUp.ready.plain cleanedUp.ready.rooted noSlash long]
  exact not_sees_of_none gone

end CleanedUp

end Cleanups

/-- A cleanup that succeeds tidies the project, whatever the layout and the sources are. -/
theorem tidied_of_cleanUp {host : Host} {session after : Session} {layout : Layout}
    {keepCFiles : Bool} {report : CleanupReport} {sources : List FilePath} {top : Location}
    (plain : session.tree.Plain) (usual : layout.buildDir = layout.root.join ⟨buildName⟩)
    (located : directory? session.tree host.directory layout.root = some top)
    (discovered : ∀ source ∈ sources, Discovered layout.root source) (distinct : sources.Nodup)
    (succeeds : (cleanUp layout sources keepCFiles).perform host session = (.ok report, after)) :
    Tidied session.tree after.tree host.directory layout keepCFiles sources report := by
  have rooted := rooted_of_directory? plain located
  obtain ⟨start, candidates, cleanedUp⟩ :=
    cleanUp_carriesOut plain usual rooted discovered session report after rfl succeeds
  obtain ⟨reports, reportGone⟩ := cleanedUp.reports_left plain rooted distinct
  refine
    { modules := fun name source proper isThere chosen => ?_
      onlyModules := fun move member => cleanedUp.of_mem_movedModules plain rooted member
      frame := fun location kept => cleanedUp.frame plain rooted kept
      sourcesKept := fun source listed => cleanedUp.source_kept listed
      removed := ?_
      removedGone := ?_
      reports := reports
      onlyReports := fun move member => cleanedUp.of_mem_movedReports member
      reportsGone := fun move member moves => ?_
      reportsCollected := fun source member hasReport =>
        cleanedUp.report_read plain rooted distinct member hasReport
      skipped := cleanedUp.skipped }
  · obtain ⟨parent, ofSource, gone, moved, once⟩ :=
      cleanedUp.module_moved plain rooted proper isThere chosen
    have inReport : ⟨layout.root.join ⟨name⟩, parent.join ⟨name⟩⟩ ∈ report.movedModules :=
      List.mem_of_mem_filter (once ▸ List.mem_singleton_self _)
    have reached := cleanedUp.ready.reached _ (List.mem_append_right _ inReport)
    obtain ⟨content, before, later⟩ := readBytes_of_moved plain.linkFree isThere reached moved
    refine ⟨parent, content, ofSource, before, later, ?_, once⟩
    rw [isFile_join cleanedUp.ready.plain cleanedUp.ready.rooted proper]
    exact not_sees_of_none gone
  · cases keepCFiles with
    | true => exact cleanedUp.nothing_removed
    | false => exact (cleanedUp.removed_eq plain rooted distinct).1
  · cases keepCFiles with
    | true => simp [cleanedUp.nothing_removed]
    | false =>
      obtain ⟨whole, gone⟩ := cleanedUp.removed_eq plain rooted distinct
      intro file member
      rw [whole] at member
      obtain ⟨source, removed, rfl⟩ := List.mem_map.mp member
      obtain ⟨present, isThere⟩ := List.mem_filter.mp removed
      exact cleanedUp.gone_beside (List.mem_of_mem_filter present) (by decide) (by decide)
        (gone source present isThere)
  · have left : move ∈ report.movedReports.filter (!·.inPlace host.directory) :=
      List.mem_filter.mpr ⟨member, by simpa using moves⟩
    rw [reports] at left
    obtain ⟨source, collected, rfl⟩ := List.mem_map.mp left
    obtain ⟨present, reportThere⟩ := List.mem_filter.mp collected
    exact cleanedUp.gone_beside (List.mem_of_mem_filter present) (by decide) (by decide)
      (reportGone source present (Bool.and_eq_true_iff.mp reportThere).1 moves)

/-- A project after a build: a source with its C file and its report, and a compiled module. -/
def builtProject : Session where
  tree :=
    (((((FileTree.empty.put ["w".toList] .directory).put
      ["w".toList, "ext".toList] .directory).put
      ["w".toList, "ext".toList, "fast.c".toList] (.file (encodeText "int x;\n"))).put
      ["w".toList, "ext".toList, "fast.html".toList] (.file (encodeText "H"))).put
      ["w".toList, "ext".toList, "fast.pyx".toList] (.file (encodeText "x = 1\n"))).put
      ["w".toList, "fast.abi3.so".toList] (.file (encodeText "ELF"))

/-- The project has no links, its root is a directory, and its source is one that is discovered. -/
theorem builtProject_discovers :
    builtProject.tree.Plain ∧ directory? builtProject.tree "/" "/w" = some ["w".toList] ∧
      Discovered "/w" "/w/ext/fast.pyx" := by
  have plain : builtProject.tree.Plain := ⟨by decide +kernel, by decide +kernel⟩
  have located : directory? builtProject.tree "/" "/w" = some ["w".toList] := by decide +kernel
  have met : .source ["ext".toList, "fast.pyx".toList] ∈
      encounters builtProject.tree ["w".toList] [] := by decide +kernel
  exact ⟨plain, located, discovered_of_met plain.closed located met⟩

/-- A cleanup of the project succeeds. -/
theorem builtProject_isCleaned : ∃ report after,
    (cleanUp (.of "/w" {}) ["/w/ext/fast.pyx"] false).perform { directory := "/" } builtProject =
      (.ok report, after) := by
  have succeeds : ((cleanUp (.of "/w" {}) ["/w/ext/fast.pyx"] false).perform { directory := "/" }
      builtProject).1.isOk := by decide +kernel
  rcases performed : (cleanUp (.of "/w" {}) ["/w/ext/fast.pyx"] false).perform { directory := "/" }
      builtProject with ⟨failure | report, after⟩
  · rw [performed] at succeeds
    cases succeeds
  · exact ⟨report, after, rfl⟩

/-- A cleanup of the project with default settings tidies it. -/
theorem builtProject_tidied : ∃ report after,
    (cleanUp (.of "/w" {}) ["/w/ext/fast.pyx"] false).perform { directory := "/" } builtProject =
        (.ok report, after) ∧
      Tidied builtProject.tree after.tree "/" (.of "/w" {}) false ["/w/ext/fast.pyx"] report := by
  obtain ⟨plain, located, discovered⟩ := builtProject_discovers
  obtain ⟨report, after, performed⟩ := builtProject_isCleaned
  exact ⟨report, after, performed, @tidied_of_cleanUp { directory := "/" } builtProject after
    (.of "/w" {}) false report ["/w/ext/fast.pyx"] ["w".toList] plain rfl located
    (List.forall_mem_singleton.mpr discovered) (by decide) performed⟩

/-- A project with a source where reports are collected, and its report beside it. -/
def unmovedReport : Session where
  tree :=
    ((((FileTree.empty.put ["w".toList] .directory).put
      ["w".toList, "ext".toList] .directory).put
      ["w".toList, "ext".toList, "annotations".toList] .directory).put
      ["w".toList, "ext".toList, "annotations".toList, "x.html".toList]
        (.file (encodeText "H"))).put
      ["w".toList, "ext".toList, "annotations".toList, "x.pyx".toList]
        (.file (encodeText "x = 1\n"))

/-- The project has no links, and its source is one that is discovered. -/
theorem unmovedReport_discovers :
    unmovedReport.tree.Plain ∧ Discovered "/w" "/w/ext/annotations/x.pyx" := by
  have plain : unmovedReport.tree.Plain := ⟨by decide +kernel, by decide +kernel⟩
  have located : directory? unmovedReport.tree "/" "/w" = some ["w".toList] := by decide +kernel
  have met : .source ["ext".toList, "annotations".toList, "x.pyx".toList] ∈
      encounters unmovedReport.tree ["w".toList] [] := by decide +kernel
  exact ⟨plain, discovered_of_met plain.closed located met⟩

/-- A report that lies where it is collected is listed as moved, although nothing has changed. -/
theorem unmoved_report_is_listed :
    unmovedReport.tree.Plain ∧ Discovered "/w" "/w/ext/annotations/x.pyx" ∧ ∃ report after,
      (cleanUp (.of "/w" {}) ["/w/ext/annotations/x.pyx"] false).perform { directory := "/" }
        unmovedReport = (.ok report, after) ∧
      after.tree = unmovedReport.tree ∧
      report.movedReports = [⟨"/w/ext/annotations/x.html", "/w/ext/annotations/x.html"⟩] ∧
      report.isEmpty = false := by
  refine ⟨unmovedReport_discovers.1, unmovedReport_discovers.2, ?_⟩
  have unchanged : ((cleanUp (.of "/w" {}) ["/w/ext/annotations/x.pyx"] false).perform
      { directory := "/" } unmovedReport).2.tree = unmovedReport.tree := by decide +kernel
  have reported : ((cleanUp (.of "/w" {}) ["/w/ext/annotations/x.pyx"] false).perform
      { directory := "/" } unmovedReport).1 = .ok { movedReports :=
        [⟨"/w/ext/annotations/x.html", "/w/ext/annotations/x.html"⟩] } := by decide +kernel
  rcases performed : (cleanUp (.of "/w" {}) ["/w/ext/annotations/x.pyx"] false).perform
      { directory := "/" } unmovedReport with ⟨outcome, after⟩
  rw [performed] at unchanged reported
  cases reported
  exact ⟨_, after, rfl, unchanged, rfl, rfl⟩

end PyxProject.Project
