import PyxProject.Proofs.Project.Cleanups

/-!
# Reports that are collected

All reports are collected in one directory under their own names, and each takes the place of
what is there. A report that waits for its turn is safe: only one that lies where reports are
collected can be replaced (`held_of_waiting`). So of the reports that are collected in one place
the last one stays, in the order of the sources (`held_of_destination`), and is read there after
the cleanup (`report_of_cleanUp`). A report that lies in its place already is moved onto itself
and gives way to every other one.
-/

namespace PyxProject.Project

open Files

/-- Whether a move leaves a file where it is. -/
def Move.inPlace (directory : FilePath) (move : Move) : Bool :=
  place directory move.source == place directory move.destination

/-- A report is in place if its destination is where it is. -/
theorem inPlace_collection {directory source : FilePath} {layout : Layout} :
    (layout.collection source).inPlace directory ↔
      place directory (htmlFile source) = place directory (layout.reportDestination source) :=
  beq_iff_eq

section Collecting

variable {directory root source other : FilePath} {layout : Layout} {front otherFront : Location}
  {stem otherStem : Text} {ledger start : Ledger} {sources : List FilePath}

/-- Reports that are collected in the same place are collected under the same path. -/
theorem reportDestination_eq_of_place (sourceAt : SourceAt root source front stem)
    (otherAt : SourceAt root other otherFront otherStem)
    (readable : isReadable directory (htmlFile source))
    (otherReadable : isReadable directory (htmlFile other))
    (same : place directory (layout.reportDestination source) =
      place directory (layout.reportDestination other)) :
    layout.reportDestination source = layout.reportDestination other := by
  obtain ⟨destination, placed⟩ := sourceAt.reportDestination_eq readable layout
  obtain ⟨otherDestination, otherPlaced⟩ := otherAt.reportDestination_eq otherReadable layout
  rw [placed, otherPlaced] at same
  obtain ⟨-, names⟩ := List.append_inj' same rfl
  rw [destination, otherDestination, List.singleton_inj.mp names]

/-- A report that lies where another one is collected lies where it is collected itself. -/
theorem inPlace_of_place (sourceAt : SourceAt root source front stem)
    (otherAt : SourceAt root other otherFront otherStem)
    (readable : isReadable directory (htmlFile source))
    (otherReadable : isReadable directory (htmlFile other))
    (same : place directory (htmlFile source) = place directory (layout.reportDestination other)) :
    (layout.collection source).inPlace directory := by
  have placed := (sourceAt.beside (by decide) (by decide) readable).2.2
  obtain ⟨-, goal⟩ := sourceAt.reportDestination_eq readable layout
  obtain ⟨-, otherGoal⟩ := otherAt.reportDestination_eq otherReadable layout
  rw [← htmlFile] at placed
  have names := same
  rw [placed, otherGoal, ← List.append_assoc] at names
  have stems := (List.append_inj' names rfl).2
  rw [inPlace_collection, same, goal, otherGoal, stems]

/-- Collecting the report on a source takes it to its destination. -/
theorem carryOut_collection (seen : sees ledger.held directory (htmlFile source)) :
    (ledger.carryOut directory (.collect (layout.collection source))).held
        (place directory (layout.reportDestination source)) =
      ledger.held (place directory (htmlFile source)) := by
  rw [Ledger.carryOut, if_pos (by exact seen)]
  exact Holdings.move_goal _ _ _

/-- Collecting a report that lies in its place leaves everything as it is. -/
theorem carryOut_inPlace (still : (layout.collection source).inPlace directory) :
    (ledger.carryOut directory (.collect (layout.collection source))).held = ledger.held := by
  have same : place directory (layout.reportDestination source) =
      place directory (htmlFile source) := (inPlace_collection.mp still).symm
  rw [Ledger.carryOut]
  split
  · have moved := Holdings.move_self ledger.held (place directory (htmlFile source))
    nth_rewrite 2 [← same] at moved
    exact moved
  · rfl

/-- Collecting one report leaves every other one alone that is not in its place. -/
theorem collection_apart (sourceAt : SourceAt root source front stem)
    (otherAt : SourceAt root other otherFront otherStem) (different : other ≠ source)
    (moves : ¬(layout.collection source).inPlace directory)
    (readable : isReadable directory (htmlFile source)) :
    ¬(Deed.collect (layout.collection other)).Touches directory
      (place directory (htmlFile source)) := by
  rintro ⟨otherReadable, same | goal⟩
  · exact different (eq_of_place_beside sourceAt otherAt (by decide) (by decide) readable
      otherReadable same).symm
  · exact moves
      (inPlace_of_place sourceAt otherAt readable otherReadable (Option.some.inj goal).symm)

/-- A report that is not collected yet is held where it was, unless it is in its place. -/
theorem held_of_waiting (areSources : AreSources root sources)
    (sourceAt : SourceAt root source front stem) (readable : isReadable directory (htmlFile source))
    (waits : source ∉ sources) (moves : ¬(layout.collection source).inPlace directory) :
    (ledger.carryOutAll directory
        (sources.map fun source => .collect (layout.collection source))).held
        (place directory (htmlFile source)) =
      ledger.held (place directory (htmlFile source)) := by
  refine carryOutAll_held fun deed member => ?_
  obtain ⟨other, listed, rfl⟩ := List.mem_map.mp member
  obtain ⟨otherFront, otherStem, otherAt⟩ := areSources other listed
  refine collection_apart sourceAt otherAt ?_ moves readable
  rintro rfl
  exact waits listed

/-- A report that is not yet moved is still found where it was, since the deeds of other sources
touch the places of their own reports only. -/
theorem sees_of_waiting (areSources : AreSources root sources)
    (sourceAt : SourceAt root source front stem) (waits : source ∉ sources)
    (moves : ¬(layout.collection source).inPlace directory) :
    sees (ledger.carryOutAll directory
        (sources.map fun source => .collect (layout.collection source))).held
        directory (htmlFile source) =
      sees ledger.held directory (htmlFile source) := by
  rw [sees, sees]
  cases readable : isReadable directory (htmlFile source) with
  | false => rfl
  | true => rw [held_of_waiting areSources sourceAt readable waits moves]

/-- A source has a report that takes the place where the report on a source is collected. -/
def Layout.supersedes (layout : Layout) (hasReport : FilePath → Bool) (directory source : FilePath)
    (rival : FilePath) : Bool :=
  hasReport (htmlFile rival) &&
    layout.reportDestination rival == layout.reportDestination source &&
      !(layout.collection rival).inPlace directory

/-- The source whose report is left where the report on a source is collected. -/
def Layout.prevailing (layout : Layout) (hasReport : FilePath → Bool) (directory : FilePath)
    (sources : List FilePath) (source : FilePath) : FilePath :=
  ((sources.filter (layout.supersedes hasReport directory source)).getLast?).getD source

/-- The source whose report stays is one of the listed ones. -/
theorem prevailing_mem {hasReport : FilePath → Bool} (listed : source ∈ sources) :
    layout.prevailing hasReport directory sources source ∈ sources := by
  rw [Layout.prevailing]
  cases last : (sources.filter (layout.supersedes hasReport directory source)).getLast? with
  | none => exact listed
  | some rival => exact List.mem_of_mem_filter (List.mem_of_getLast? last)

/-- Whose report stays depends on which of the listed sources have one, and on nothing else. -/
theorem prevailing_congr {hasReport hadReport : FilePath → Bool}
    (same : ∀ source ∈ sources, hasReport (htmlFile source) = hadReport (htmlFile source)) :
    layout.prevailing hasReport directory sources source =
      layout.prevailing hadReport directory sources source := by
  rw [Layout.prevailing, Layout.prevailing, List.filter_congr fun rival member => ?_]
  rw [Layout.supersedes, Layout.supersedes, same rival member]

variable (ledger layout) in
/-- Where reports are collected the last one that was moved there is held. The induction adds the
last source: either its report has waited and takes the place, or it leaves the place alone, since
it is moved elsewhere or onto itself, or is not there. -/
theorem held_of_destination (areSources : AreSources root sources) (distinct : sources.Nodup)
    (sourceAt : SourceAt root source front stem)
    (readable : isReadable directory (htmlFile source)) :
    (ledger.carryOutAll directory
        (sources.map fun source => .collect (layout.collection source))).held
        (place directory (layout.reportDestination source)) =
      match (sources.filter
        (layout.supersedes (sees ledger.held directory) directory source)).getLast? with
      | some rival => ledger.held (place directory (htmlFile rival))
      | none => ledger.held (place directory (layout.reportDestination source)) := by
  induction sources using List.reverseRecOn with
  | nil => rfl
  | append_singleton before last inductionHypothesis =>
    obtain ⟨distinctBefore, -, apart⟩ := List.nodup_append.mp distinct
    have fresh : last ∉ before := fun member => apart last member last (by simp) rfl
    have areBefore : AreSources root before := fun other member =>
      areSources other (List.mem_append_left _ member)
    obtain ⟨lastFront, lastStem, lastAt⟩ := areSources last (by simp)
    have same := inductionHypothesis areBefore distinctBefore
    rw [List.map_append, carryOutAll_append, List.map_singleton, carryOutAll_one,
      List.filter_append]
    by_cases supersedes : layout.supersedes (sees ledger.held directory) directory source last
    · rw [List.filter_cons_of_pos supersedes, List.filter_nil, List.getLast?_concat]
      simp only [Layout.supersedes, Bool.and_eq_true, beq_iff_eq, Bool.not_eq_true'] at supersedes
      obtain ⟨⟨seen, destination⟩, moves⟩ := supersedes
      have moves := Bool.eq_false_iff.mp moves
      have lastReadable := (Bool.and_eq_true_iff.mp seen).1
      rw [← sees_of_waiting areBefore lastAt fresh moves] at seen
      rw [← destination, carryOut_collection seen,
        held_of_waiting areBefore lastAt lastReadable fresh moves]
    · rw [List.filter_cons_of_neg supersedes, List.filter_nil, List.append_nil, ← same]
      by_cases still : (layout.collection last).inPlace directory
      · rw [carryOut_inPlace still]
      by_cases seen : sees ledger.held directory (htmlFile last)
      · have lastReadable := (Bool.and_eq_true_iff.mp seen).1
        refine carryOut_held fun touches => ?_
        rcases touches.2 with origin | goal
        · exact still (inPlace_of_place lastAt sourceAt lastReadable readable origin.symm)
        · have destination := reportDestination_eq_of_place lastAt sourceAt lastReadable readable
            (Option.some.inj goal)
          simp [Layout.supersedes, seen, destination, still] at supersedes
      · rw [← sees_of_waiting areBefore lastAt fresh still] at seen
        rw [Ledger.carryOut, if_neg (by exact seen)]

variable (layout) in
/-- Where the report on a source is collected, the report that prevails is held. -/
theorem held_of_prevailing (areSources : AreSources root sources) (distinct : sources.Nodup)
    (sourceAt : SourceAt root source front stem)
    (seen : sees ledger.held directory (htmlFile source))
    (listed : source ∈ sources ∨ (layout.collection source).inPlace directory) :
    let kept := layout.prevailing (sees ledger.held directory) directory sources source
    sees ledger.held directory (htmlFile kept) ∧
      (ledger.carryOutAll directory
          (sources.map fun source => .collect (layout.collection source))).held
          (place directory (layout.reportDestination source)) =
        ledger.held (place directory (htmlFile kept)) := by
  intro kept
  have readable := (Bool.and_eq_true_iff.mp seen).1
  have held := held_of_destination layout ledger areSources distinct sourceAt readable
  cases last : (sources.filter
      (layout.supersedes (sees ledger.held directory) directory source)).getLast? with
  | some rival =>
    have isKept : kept = rival := by
      show Option.getD _ _ = _
      rw [last, Option.getD_some]
    have supersedes := (List.mem_filter.mp (List.mem_of_getLast? last)).2
    rw [Layout.supersedes, Bool.and_eq_true, Bool.and_eq_true] at supersedes
    rw [last] at held
    exact isKept ▸ ⟨supersedes.1.1, held⟩
  | none =>
    have isKept : kept = source := by
      show Option.getD _ _ = _
      rw [last, Option.getD_none]
    rw [last] at held
    have still : (layout.collection source).inPlace directory := by
      rcases listed with member | still
      · have outside := List.filter_eq_nil_iff.mp (List.getLast?_eq_none_iff.mp last) source member
        simpa [Layout.supersedes, seen] using outside
      · exact still
    rw [isKept]
    refine ⟨seen, held.trans ?_⟩
    have same : place directory (htmlFile source) =
        place directory (layout.reportDestination source) := beq_iff_eq.mp still
    rw [same]

variable (layout) in
/-- A report that was there at first is entered when it is collected. Another report may have
taken the place by its turn, but then there is still one. -/
theorem collection_mem_deeds (areSources : AreSources root sources) (distinct : sources.Nodup)
    (member : source ∈ sources) (seen : sees ledger.held directory (htmlFile source)) :
    .collect (layout.collection source) ∈ (ledger.carryOutAll directory
      (sources.map fun source => .collect (layout.collection source))).report.deeds .collect := by
  obtain ⟨before, later, rfl⟩ := List.append_of_mem member
  obtain ⟨front, stem, sourceAt⟩ := areSources source member
  have areBefore : AreSources root before := fun other inside =>
    areSources other (List.mem_append_left _ inside)
  obtain ⟨distinctBefore, -, apart⟩ := List.nodup_append.mp distinct
  have fresh : source ∉ before := fun inside =>
    apart source inside source List.mem_cons_self rfl
  have stillSeen : sees (ledger.carryOutAll directory
      (before.map fun source => .collect (layout.collection source))).held directory
        (htmlFile source) := by
    by_cases still : (layout.collection source).inPlace directory
    · obtain ⟨keptSeen, held⟩ := held_of_prevailing layout areBefore
        distinctBefore sourceAt seen (.inr still)
      have same : place directory (htmlFile source) =
        place directory (layout.reportDestination source) := beq_iff_eq.mp still
      rw [sees, Bool.and_eq_true] at seen keptSeen ⊢
      rw [same, held]
      exact ⟨seen.1, keptSeen.2⟩
    · rw [sees_of_waiting areBefore sourceAt fresh still]
      exact seen
  rw [List.map_append, List.map_cons, carryOutAll_append]
  exact @mem_deeds_of_sees _ _ (.collect (layout.collection source)) stillSeen _

variable {tree after : FileTree} {top : Location} {keepCFiles : Bool} {report : CleanupReport}
  {candidates : List FilePath}

namespace CleanedUp

variable (cleanedUp : CleanedUp directory layout keepCFiles sources tree after report start candidates)
include cleanedUp

/-- Every report that a cleanup lists is that on a source that was there. -/
theorem of_mem_movedReports {move : Move} (member : move ∈ report.movedReports) :
    ∃ source ∈ sources.filter (isFile tree directory), move = layout.collection source := by
  have entered : .collect move ∈ report.deeds .collect := List.mem_map_of_mem member
  have listed := cleanedUp.mem_of_mem_deeds entered
  rw [filter_deedsOfAll] at listed
  obtain ⟨source, present, same⟩ := List.mem_map.mp listed
  exact ⟨source, present, (Deed.collect.inj same).symm⟩

variable (plain : tree.Plain) (rooted : Rooted tree directory layout.root top)
include plain rooted

/-- When the sources are cleaned up, after what stands in the root has been removed, a report is
seen beside a source exactly if it was there before. -/
theorem sees_report (member : source ∈ sources.filter (isFile tree directory)) :
    sees start.held directory (htmlFile source) = isFile tree directory (htmlFile source) := by
  obtain ⟨front, stem, sourceAt⟩ := cleanedUp.arePresent source member
  exact cleanedUp.started.sees_beside plain rooted sourceAt (by decide) (by decide)

variable (distinct : sources.Nodup)
include distinct

/-- The reports that a cleanup lists, but for those that stay, are those on the sources that were
there, and they are gone from beside their sources. -/
theorem reports_left :
    report.movedReports.filter (!·.inPlace directory) =
        ((sources.filter (isFile tree directory)).filter fun source =>
          isFile tree directory (htmlFile source) &&
            !(layout.collection source).inPlace directory).map layout.collection ∧
      ∀ source ∈ sources.filter (isFile tree directory),
        isFile tree directory (htmlFile source) → ¬(layout.collection source).inPlace directory →
        after.holdings (place directory (htmlFile source)) = none := by
  have leaves_eq (move : Move) :
      (Deed.collect move).leaves directory = !move.inPlace directory := by
    rw [Deed.leaves, bne, Move.inPlace, Deed.goal?, Deed.file, Option.some_beq_some, BEq.comm]
  obtain ⟨listed, gone⟩ := cleanedUp.left_of_kind .collect
    (fun source => .collect (layout.collection source)) distinct (fun _ => rfl)
    (filter_deedsOfAll .collect) (fun source member => cleanedUp.sees_report plain rooted member)
    fun first firstMember other otherMember different leaves readable => by
      obtain ⟨firstFront, firstStem, firstAt⟩ := cleanedUp.arePresent first firstMember
      obtain ⟨otherFront, otherStem, otherAt⟩ := cleanedUp.arePresent other otherMember
      rw [leaves_eq] at leaves
      exact collection_apart otherAt firstAt different (by simpa using leaves) readable
  refine ⟨?_, fun source member hasReport moves => gone source member ?_ hasReport⟩
  · rw [CleanupReport.deeds, List.filter_map] at listed
    refine List.map_injective_iff.mpr (fun _ _ same => Deed.collect.inj same) ?_
    rw [List.map_map]
    refine Eq.trans (congrArg _ (List.filter_congr fun move _ => (leaves_eq move).symm)) ?_
    refine listed.trans (congrArg _ (List.filter_congr fun source member => ?_))
    rw [leaves_eq, Deed.file, Bool.and_comm]
    rfl
  · rw [leaves_eq]
    simpa using moves

section OfSource

variable (member : source ∈ sources.filter (isFile tree directory))
  (hasReport : isFile tree directory (htmlFile source))
include member hasReport

/-- A cleanup moves the report on a source. -/
theorem collection_mem : layout.collection source ∈ report.movedReports := by
  have seen := (cleanedUp.sees_report plain rooted member).trans hasReport
  have entered := collection_mem_deeds layout cleanedUp.arePresent (distinct.filter _) member seen
  have deeds := (cleanedUp.of_kind .collect).2
  simp only [filter_deedsOfAll] at deeds
  rw [← deeds] at entered
  obtain ⟨move, inReport, same⟩ := List.mem_map.mp entered
  exact Deed.collect.inj same ▸ inReport

/-- After a cleanup the report that prevails is held where the report on a source is collected. No
other kind of deed concerns the place, and the report lay outside what is removed first. -/
theorem held_of_report :
    let kept := layout.prevailing (isFile tree directory) directory
      (sources.filter (isFile tree directory)) source
    isFile tree directory (htmlFile kept) ∧
      after.holdings (place directory (layout.reportDestination source)) =
        tree.holdings (place directory (htmlFile kept)) := by
  intro kept
  have areSources := cleanedUp.arePresent
  obtain ⟨front, stem, sourceAt⟩ := areSources source member
  have sees_eq (other : FilePath) (inside : other ∈ sources.filter (isFile tree directory)) :=
    cleanedUp.sees_report plain rooted inside
  have seen := (sees_eq source member).trans hasReport
  have isKept : layout.prevailing (sees start.held directory) directory
      (sources.filter (isFile tree directory)) source = kept := prevailing_congr sees_eq
  obtain ⟨keptSeen, moved⟩ := held_of_prevailing layout areSources (distinct.filter _) sourceAt seen
    (.inl member)
  rw [isKept] at keptSeen moved
  have keptMember : kept ∈ sources.filter (isFile tree directory) := prevailing_mem member
  refine ⟨(sees_eq kept keptMember).symm.trans keptSeen, ?_⟩
  obtain ⟨keptFront, keptStem, keptAt⟩ := areSources kept keptMember
  have keptPlace := (keptAt.beside (by decide) (by decide)
    (Bool.and_eq_true_iff.mp keptSeen).1).2.2
  rw [← htmlFile] at keptPlace
  have held := (cleanedUp.of_kind .collect).1
  simp only [filter_deedsOfAll] at held
  refine (held _ (mem_deedsOfAll.mpr ⟨source, member, .inr (.inl rfl)⟩) rfl _
    ⟨(Bool.and_eq_true_iff.mp seen).1, .inr rfl⟩).trans (moved.trans ?_)
  rw [keptPlace, cleanedUp.started.held_eq keptAt.outside]

/-- After a cleanup the report that prevails is read where the report on a source is collected. -/
theorem report_read :
    ∃ content,
      readBytes tree directory (htmlFile (layout.prevailing (isFile tree directory) directory
        (sources.filter (isFile tree directory)) source)) = .ok content ∧
      readBytes after directory (layout.reportDestination source) = .ok content := by
  obtain ⟨keptThere, moved⟩ := cleanedUp.held_of_report plain rooted distinct member hasReport
  have reached := cleanedUp.ready.reached _ (List.mem_append_left _
    (cleanedUp.collection_mem plain rooted distinct member hasReport))
  exact readBytes_of_moved plain.linkFree keptThere reached moved

end OfSource

end CleanedUp

end Collecting

/-- After a cleanup, the report that is found where the report on a source is collected is that
on the last source whose report was moved there, or its own if there is none. -/
theorem report_of_cleanUp {host : Host} {session after : Session} {layout : Layout}
    {keepCFiles : Bool} {report : CleanupReport} {sources : List FilePath} {source : FilePath}
    (plain : session.tree.Plain) (usual : layout.buildDir = layout.root.join ⟨buildName⟩)
    (discovered : ∀ source ∈ sources, Discovered layout.root source) (distinct : sources.Nodup)
    (succeeds : (cleanUp layout sources keepCFiles).perform host session = (.ok report, after))
    (listed : source ∈ sources) (present : isFile session.tree host.directory source)
    (hasReport : isFile session.tree host.directory (htmlFile source)) :
    let isThere := isFile session.tree host.directory
    let kept := layout.prevailing isThere host.directory (sources.filter isThere) source
    ∃ content, readBytes session.tree host.directory (htmlFile kept) = .ok content ∧
      readBytes after.tree host.directory (layout.reportDestination source) = .ok content := by
  intro isThere kept
  obtain ⟨front, stem, sourceAt⟩ := sourceAt_of_discovered (discovered source listed)
  obtain ⟨top, rooted⟩ := sourceAt.rooted plain present
  obtain ⟨start, candidates, cleanedUp⟩ :=
    cleanUp_carriesOut plain usual rooted discovered session report after rfl succeeds
  have member : source ∈ sources.filter isThere := List.mem_filter.mpr ⟨listed, present⟩
  exact cleanedUp.report_read plain rooted distinct member hasReport

/-- Two packages with a module of one name, and a report on each. -/
def twinReports : Session where
  tree :=
    ((((((FileTree.empty.put ["w".toList] .directory).put
      ["w".toList, "x".toList] .directory).put
      ["w".toList, "y".toList] .directory).put
      ["w".toList, "x".toList, "util.html".toList] (.file (encodeText "X"))).put
      ["w".toList, "x".toList, "util.pyx".toList] (.file (encodeText "x = 1\n"))).put
      ["w".toList, "y".toList, "util.html".toList] (.file (encodeText "Y"))).put
      ["w".toList, "y".toList, "util.pyx".toList] (.file (encodeText "x = 1\n"))

/-- The sources of that project. -/
def twinSources : List FilePath := ["/w/x/util.pyx", "/w/y/util.pyx"]

/-- The project is a plain tree. -/
theorem plain_twinReports : twinReports.tree.Plain := ⟨by decide +kernel, by decide +kernel⟩

/-- Its sources were discovered. -/
theorem discovered_twinSources : ∀ source ∈ twinSources, Discovered "/w" source := by
  have closed : twinReports.tree.Closed := by decide +kernel
  have located : directory? twinReports.tree "/" "/w" = some ["w".toList] := by decide +kernel
  have first : .source ["x".toList, "util.pyx".toList] ∈
      encounters twinReports.tree ["w".toList] [] := by decide +kernel
  have second : .source ["y".toList, "util.pyx".toList] ∈
      encounters twinReports.tree ["w".toList] [] := by decide +kernel
  exact List.forall_mem_cons.mpr ⟨discovered_of_met closed located first,
    List.forall_mem_singleton.mpr (discovered_of_met closed located second)⟩

/-- The cleanup of the project succeeds, and at the destination of the first report is the second.
-/
theorem cleanUp_twinReports : ∃ report after,
    (cleanUp (.of "/w" {}) twinSources false).perform { directory := "/" } twinReports =
        (.ok report, after) ∧
      readBytes after.tree "/" ((Layout.of "/w" {}).reportDestination "/w/x/util.pyx") =
        .ok (encodeText "Y") := by
  have succeeds : ((cleanUp (.of "/w" {}) twinSources false).perform { directory := "/" }
      twinReports).1.isOk := by decide +kernel
  have reads : readBytes ((cleanUp (.of "/w" {}) twinSources false).perform { directory := "/" }
      twinReports).2.tree "/" ((Layout.of "/w" {}).reportDestination "/w/x/util.pyx") =
        .ok (encodeText "Y") := by decide +kernel
  rcases performed : (cleanUp (.of "/w" {}) twinSources false).perform { directory := "/" }
      twinReports with ⟨failure | report, after⟩
  · rw [performed] at succeeds
    cases succeeds
  · rw [performed] at reads
    exact ⟨report, after, rfl, reads⟩

/-- Of two reports with one destination the one that is there after the cleanup is the second, as
it was before. -/
theorem report_of_cleanUp_twinReports : ∃ report after,
    (cleanUp (.of "/w" {}) twinSources false).perform { directory := "/" } twinReports =
        (.ok report, after) ∧
      ∃ content, readBytes twinReports.tree "/" (htmlFile "/w/y/util.pyx") = .ok content ∧
        readBytes after.tree "/" ((Layout.of "/w" {}).reportDestination "/w/x/util.pyx") =
          .ok content := by
  obtain ⟨report, after, succeeds, -⟩ := cleanUp_twinReports
  have isLast : (Layout.of "/w" {}).prevailing (isFile twinReports.tree "/") "/"
      (twinSources.filter (isFile twinReports.tree "/")) "/w/x/util.pyx" = "/w/y/util.pyx" := by
    decide +kernel
  have kept := @report_of_cleanUp { directory := "/" } twinReports after (.of "/w" {}) false report
    twinSources "/w/x/util.pyx" plain_twinReports rfl discovered_twinSources (by decide) succeeds
    (by decide) (by decide +kernel) (by decide +kernel)
  dsimp only at kept
  rw [isLast] at kept
  exact ⟨report, after, succeeds, kept⟩

/-- The report on the first of the two modules is lost. -/
theorem first_of_twinReports_is_lost :
    twinReports.tree.Plain ∧ (∀ source ∈ twinSources, Discovered "/w" source) ∧ twinSources.Nodup ∧
      isFile twinReports.tree "/" "/w/x/util.pyx" ∧
      readBytes twinReports.tree "/" (htmlFile "/w/x/util.pyx") = .ok (encodeText "X") ∧
      ∃ report after,
        (cleanUp (.of "/w" {}) twinSources false).perform { directory := "/" } twinReports =
          (.ok report, after) ∧
        readBytes after.tree "/" ((Layout.of "/w" {}).reportDestination "/w/x/util.pyx") ≠
          .ok (encodeText "X") := by
  obtain ⟨report, after, succeeds, reads⟩ := cleanUp_twinReports
  have different :
      (Except.ok (encodeText "Y") : Except Fault ByteArray) ≠ .ok (encodeText "X") := by
    decide +kernel
  exact ⟨plain_twinReports, discovered_twinSources, by decide, by decide +kernel,
    by decide +kernel, report, after, succeeds, reads ▸ different⟩

end PyxProject.Project
