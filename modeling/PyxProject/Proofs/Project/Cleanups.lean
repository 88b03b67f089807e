import PyxProject.Proofs.Project.DeedKinds

/-!
# What a cleanup comes to

A cleanup that succeeds has carried out the deeds of the sources that were there when it started,
and has noted the others (`CleanedUp`). Before that it removes the directory for intermediate
files, in which neither the sources nor what stands beside them can be, so its deeds find beside
a source what was there at first (`Started.sees_beside`). What it leaves where names are of one
kind follows from the deeds of this kind (`CleanedUp.of_kind`).
-/

namespace PyxProject.Project

open Files

section Cleanups

variable {directory root source : FilePath} {layout : Layout} {front : Location} {stem : Text}
  {ledger : Ledger} {deeds : List Deed} {sources : List FilePath} {keepCFiles : Bool}
  {candidates : List FilePath}

/-- The deeds see beside a source what was there before the cleanup. -/
theorem Started.sees_beside {tree : FileTree} {top : Location} {start : Ledger}
    (started : Started directory root tree.holdings start candidates) (plain : tree.Plain)
    (rooted : Rooted tree directory root top) (sourceAt : SourceAt root source front stem)
    {extension : Text} (noSlash : '/' ∉ extension) (long : extension ≠ []) :
    sees start.held directory (source.withExtension extension) =
      isFile tree directory (source.withExtension extension) := by
  rw [sourceAt.isFile_withExtension plain rooted noSlash long]
  exact started.sees_eq sourceAt.outside fun readable =>
    (sourceAt.beside noSlash long readable).2.2

/-- No deed is in the report at first. -/
theorem Started.deeds_eq {held : Holdings} {start : Ledger}
    (started : Started directory root held start candidates) (kind : Deed.Kind) :
    start.report.deeds kind = [] := by
  obtain ⟨removed, fresh⟩ := started.report
  rw [fresh]
  cases kind <;> rfl

/-- Deeds skip no source. -/
theorem skipped_carryOutAll :
    (ledger.carryOutAll directory deeds).report.skipped = ledger.report.skipped := by
  induction deeds generalizing ledger with
  | nil => rfl
  | cons deed rest inductionHypothesis =>
    have first : (ledger.carryOut directory deed).report.skipped = ledger.report.skipped := by
      rw [Ledger.carryOut]
      split
      · cases deed <;> rfl
      · rfl
    exact inductionHypothesis.trans first

/-- What a cleanup leaves: the deeds of the sources that were there at first are carried out, and
the others are noted. -/
structure CleanedUp (directory : FilePath) (layout : Layout) (keepCFiles : Bool)
    (sources : List FilePath) (tree after : FileTree) (report : CleanupReport) (start : Ledger)
    (candidates : List FilePath) : Prop where
  started : Started directory layout.root tree.holdings start candidates
  ready : Ready directory layout.root (place directory layout.root) report after
  areSources : AreSources layout.root sources
  held : after.holdings = (start.carryOutAll directory (deedsOfAll layout keepCFiles candidates
    (sources.filter (isFile tree directory)))).held
  deeds : ∀ kind, report.deeds kind = (start.carryOutAll directory (deedsOfAll layout keepCFiles
    candidates (sources.filter (isFile tree directory)))).report.deeds kind
  skipped : report.skipped = sources.filter fun source => !isFile tree directory source

/-- A cleanup that succeeds has carried out the deeds of the sources that were there at first. -/
theorem cleanUp_carriesOut {host : Host} {tree : FileTree} {top : Location} (plain : tree.Plain)
    (usual : layout.buildDir = layout.root.join ⟨buildName⟩)
    (rooted : Rooted tree host.directory layout.root top)
    (discovered : ∀ source ∈ sources, Discovered layout.root source) :
    Gives (cleanUp layout sources keepCFiles) host tree fun report after =>
      ∃ start candidates,
        CleanedUp host.directory layout keepCFiles sources tree after report start candidates := by
  refine (cleanUp_gives plain usual discovered).mono ?_
  rintro report after ⟨start, candidates, started, ready, same⟩
  have areSources := areSources_of_discovered discovered
  have present : ∀ source ∈ sources,
      sees start.held host.directory source = isFile tree host.directory source := by
    intro source member
    obtain ⟨front, stem, sourceAt⟩ := areSources source member
    rw [sourceAt.isFile_eq plain rooted]
    exact started.sees_eq sourceAt.outside fun _ => sourceAt.place_eq host.directory
  rw [attendAll_eq started.below areSources, List.filter_congr present,
    List.filter_congr fun source member => congrArg Bool.not (present source member)] at same
  refine ⟨start, candidates, started, ready, areSources, congrArg Ledger.held same,
    fun kind => ?_, ?_⟩
  · have reported := congrArg (fun ledger => ledger.report.deeds kind) same
    exact reported
  · obtain ⟨removed, fresh⟩ := started.report
    have noted := congrArg (fun ledger => ledger.report.skipped) same
    simpa [Ledger.noting, skipped_carryOutAll, fresh] using noted

namespace CleanedUp

variable {tree after : FileTree} {report : CleanupReport} {start : Ledger}
  (cleanedUp : CleanedUp directory layout keepCFiles sources tree after report start candidates)
include cleanedUp

/-- The modules that are found to be moved lie in the root. -/
theorem below : AreBelow layout.root candidates := cleanedUp.started.below

/-- The sources that are present were discovered below the root. -/
theorem arePresent : AreSources layout.root (sources.filter (isFile tree directory)) :=
  fun source member => cleanedUp.areSources source (List.mem_of_mem_filter member)

/-- What a cleanup leaves where a deed of a kind may touch something, and what it enters of this
kind, depends on the deeds of this kind alone. -/
theorem of_kind (kind : Deed.Kind) :
    (∀ deed ∈ deedsOfAll layout keepCFiles candidates (sources.filter (isFile tree directory)),
      deed.kind = kind → ∀ location, deed.Touches directory location →
      after.holdings location =
        (start.carryOutAll directory ((deedsOfAll layout keepCFiles candidates
          (sources.filter (isFile tree directory))).filter (·.kind = kind))).held location) ∧
      report.deeds kind = (start.carryOutAll directory ((deedsOfAll layout keepCFiles candidates
        (sources.filter (isFile tree directory))).filter (·.kind = kind))).report.deeds kind := by
  obtain ⟨sameHeld, sameDeeds⟩ := carryOutAll_kind directory start kind
    fun deed member location => suffix_of_touches cleanedUp.below cleanedUp.arePresent member
  rw [cleanedUp.held, cleanedUp.deeds]
  refine ⟨?_, sameDeeds⟩
  rintro deed member rfl location touches
  exact sameHeld location (suffix_of_touches cleanedUp.below cleanedUp.arePresent member touches)

/-- What a cleanup enters of a kind is one of the deeds of this kind. -/
theorem mem_of_mem_deeds {deed : Deed} {kind : Deed.Kind} (entered : deed ∈ report.deeds kind) :
    deed ∈ (deedsOfAll layout keepCFiles candidates
      (sources.filter (isFile tree directory))).filter (·.kind = kind) := by
  rw [(cleanedUp.of_kind kind).2] at entered
  rcases mem_deeds_carryOutAll entered with before | listed
  · rw [cleanedUp.started.deeds_eq] at before
    cases before
  · exact listed

/-- Of the deeds of a kind, of which each source has one, those that take a file from its place
are entered for the sources that had the file, and it is gone. -/
theorem left_of_kind (kind : Deed.Kind) (deedOf : FilePath → Deed) (distinct : sources.Nodup)
    (kinds : ∀ source, (deedOf source).kind = kind)
    (each : (deedsOfAll layout keepCFiles candidates
      (sources.filter (isFile tree directory))).filter (·.kind = kind) =
        (sources.filter (isFile tree directory)).map deedOf)
    (sees_eq : ∀ source ∈ sources.filter (isFile tree directory),
      sees start.held directory (deedOf source).file = isFile tree directory (deedOf source).file)
    (apart : ∀ first ∈ sources.filter (isFile tree directory),
      ∀ other ∈ sources.filter (isFile tree directory), first ≠ other →
      (deedOf other).leaves directory → isReadable directory (deedOf other).file →
      ¬(deedOf first).Touches directory (place directory (deedOf other).file)) :
    (report.deeds kind).filter (·.leaves directory) =
        ((sources.filter (isFile tree directory)).filter fun source =>
          (deedOf source).leaves directory &&
            isFile tree directory (deedOf source).file).map deedOf ∧
      ∀ source ∈ sources.filter (isFile tree directory), (deedOf source).leaves directory →
        isFile tree directory (deedOf source).file →
        after.holdings (place directory (deedOf source).file) = none := by
  obtain ⟨listed, gone⟩ := @leaving_deeds_of_distinct directory start _ kind deedOf
    (distinct.filter (isFile tree directory)) (fun source _ => kinds source) apart
  obtain ⟨held, deeds⟩ := cleanedUp.of_kind kind
  rw [each] at deeds
  refine ⟨?_, fun source member leaves isThere => ?_⟩
  · rw [deeds, listed, cleanedUp.started.deeds_eq, List.filter_nil, List.nil_append,
      List.filter_congr fun source member => congrArg (_ && ·) (sees_eq source member)]
  · have seen := (sees_eq source member).trans isThere
    have inDeeds : deedOf source ∈ deedsOfAll layout keepCFiles candidates
        (sources.filter (isFile tree directory)) :=
      List.mem_of_mem_filter (each ▸ List.mem_map_of_mem member)
    rw [held _ inDeeds (kinds source) _ ⟨(Bool.and_eq_true_iff.mp seen).1, .inl rfl⟩, each]
    exact gone source member leaves seen

end CleanedUp

end Cleanups

end PyxProject.Project
