import PyxProject.Proofs.Project.Deeds

/-!
# What deeds touch

A deed touches the place of its file and the place that the file takes, and changes nothing
else (`carryOutAll_held`). Which places these are is known for each source (`deedAt_of_mem`), and
the extensions of their names keep the kinds of deeds apart: C files, reports and compiled
modules (`suffix_of_touches`). No deed touches a source, so which sources are present is settled
from the start and the deeds of all of them are carried out as one list (`attendAll_eq`).
-/

namespace PyxProject.Project

open Files

/-- The extension of the last name of a location. -/
def suffix (location : Location) : Option Text :=
  (FilePath.splitName (location.getLast?.getD [])).2

/-- The suffix of a location is the extension of its last name. -/
theorem suffix_concat (front : Location) (name : Text) :
    suffix (front ++ [name]) = (FilePath.splitName name).2 := by
  simp [suffix]

/-- Behind the last dot of a name stands its extension. -/
theorem suffix_with_extension (front : Location) {stem extension : Text} (filled : stem ≠ [])
    (noDot : '.' ∉ extension) : suffix (front ++ [stem ++ '.' :: extension]) = some extension := by
  rw [suffix_concat, FilePath.splitName_append stem noDot, if_neg filled]

/-- A compiled form of a module has one of the extensions of compiled modules. -/
theorem extension_of_isBuildOf {name stem : Text} (filled : stem ≠ [])
    (built : isBuildOf name stem) :
    ∃ extension ∈ compiledExtensions, (FilePath.splitName name).2 = some extension := by
  obtain ⟨rest, rfl, listed⟩ : ∃ rest, name = stem ++ '.' :: rest ∧
      ((rest.splitOn '.').getLast?).getD [] ∈ compiledExtensions := by
    rw [isBuildOf] at built
    split at built
    · next rest same =>
      split at same
      · next starts =>
        obtain ⟨more, rfl⟩ := List.isPrefixOf_iff_prefix.mp starts
        rw [List.drop_left] at same
        exact ⟨rest, by rw [same], List.contains_iff_mem.mp built⟩
      · cases same
    · cases built
  refine ⟨_, listed, ?_⟩
  rcases FilePath.last_dot rest with noDot | ⟨before, after, rfl, noDot⟩
  · rw [List.splitOn_eq_singleton noDot, FilePath.splitName_append stem noDot, if_neg filled]
    rfl
  · have cut : (before ++ '.' :: after).splitOn '.' = before.splitOn '.' ++ [after] := by
      rw [List.splitOn_append_cons_self, List.splitOn_eq_singleton noDot]
    have whole : stem ++ '.' :: (before ++ '.' :: after) =
        (stem ++ '.' :: before) ++ '.' :: after := by simp
    rw [cut, List.getLast?_concat, Option.getD_some, whole, FilePath.splitName_append _ noDot,
      if_neg (by simp)]

/-- A path that leads to a file has a file name. -/
theorem fileName?_of_isReadable {directory path : FilePath} (readable : isReadable directory path) :
    path.fileName?.isSome := by
  rw [isReadable, Bool.and_eq_true] at readable
  exact readable.2

/-- What stands beside a source under another extension, if its path ends in a name. -/
theorem SourceAt.beside {root source : FilePath} {front : Location} {stem extension : Text}
    (sourceAt : SourceAt root source front stem) (noSlash : '/' ∉ extension) (long : extension ≠ [])
    {directory : FilePath} (readable : isReadable directory (source.withExtension extension)) :
    IsName (stem ++ '.' :: extension) ∧
      source.withExtension extension = (pathBelow root front).join ⟨stem ++ '.' :: extension⟩ ∧
      place directory (source.withExtension extension) =
        place directory root ++ (front ++ [stem ++ '.' :: extension]) := by
  have proper := isName_with_extension sourceAt.filled sourceAt.whole noSlash long
  have whole : source.withExtension extension =
      (pathBelow root front).join ⟨stem ++ '.' :: extension⟩ := by
    have named := fileName?_of_isReadable readable
    rw [sourceAt.withExtension_eq noSlash, FilePath.renamed] at named ⊢
    split at named
    · rw [FilePath.fileName?, FilePath.lastName?_join_parent] at named
      cases named
    · next notDot => rw [if_neg notDot]
  refine ⟨proper, whole, ?_⟩
  rw [whole, place_join _ _ proper, place_pathBelow directory root sourceAt.names,
    List.append_assoc]

/-- What stands beside sources under one extension lies in the same place only for one source. -/
theorem eq_of_place_beside {root source other : FilePath} {front otherFront : Location}
    {stem otherStem extension : Text} (sourceAt : SourceAt root source front stem)
    (otherAt : SourceAt root other otherFront otherStem) (noSlash : '/' ∉ extension)
    (long : extension ≠ []) {directory : FilePath}
    (readable : isReadable directory (source.withExtension extension))
    (otherReadable : isReadable directory (other.withExtension extension))
    (same : place directory (source.withExtension extension) =
      place directory (other.withExtension extension)) : source = other := by
  rw [(sourceAt.beside noSlash long readable).2.2,
    (otherAt.beside noSlash long otherReadable).2.2] at same
  obtain ⟨rfl, names⟩ := List.append_inj' (List.append_cancel_left same) rfl
  obtain rfl := List.append_cancel_right (List.singleton_inj.mp names)
  rw [sourceAt.path, otherAt.path]

/-- Where the report on a source is collected, if it has a name. -/
theorem SourceAt.reportDestination_eq {root source : FilePath} {front : Location} {stem : Text}
    (sourceAt : SourceAt root source front stem) {directory : FilePath}
    (readable : isReadable directory (htmlFile source)) (layout : Layout) :
    layout.reportDestination source = layout.annotationsDir.join ⟨stem ++ '.' :: "html"⟩ ∧
      place directory (layout.reportDestination source) =
        place directory layout.annotationsDir ++ [stem ++ '.' :: "html"] := by
  obtain ⟨proper, whole, -⟩ := sourceAt.beside (by decide) (by decide) readable
  have named : (htmlFile source).fileName? = some (stem ++ '.' :: "html") := by
    rw [htmlFile, whole, FilePath.fileName?_join _ proper]
  have destination : layout.reportDestination source =
      layout.annotationsDir.join ⟨stem ++ '.' :: "html"⟩ := by
    unfold Layout.reportDestination
    rw [named]
  exact ⟨destination, by rw [destination, place_join _ _ proper]⟩

/-- The report on a source is collected in the directory for reports. -/
theorem SourceAt.parent?_reportDestination {root source : FilePath} {front : Location} {stem : Text}
    (sourceAt : SourceAt root source front stem) {directory : FilePath}
    (readable : isReadable directory (htmlFile source)) (layout : Layout) :
    (layout.reportDestination source).parent? = some layout.annotationsDir.trimmed := by
  have proper := (sourceAt.beside (by decide) (by decide) readable).1
  rw [(sourceAt.reportDestination_eq readable layout).1, FilePath.parent?_join _ proper]

/-- A name in a directory is the same path below the root only if the directory is the root. -/
theorem same_join_trimmed (root : FilePath) {front : Location} {name : Text}
    (names : ∀ other ∈ front, IsName other) (proper : IsName name) :
    (root.join ⟨name⟩).same ((pathBelow root front).trimmed.join ⟨name⟩) = true ↔ front = [] := by
  rw [FilePath.same, beq_iff_eq, FilePath.components_join _ proper,
    FilePath.components_join _ proper,
    (FilePath.sameWay_trimmed _).components, components_pathBelow root names]
  simp

/-- The deeds of a source that can be carried out, with the places that they touch. -/
inductive DeedAt (directory root : FilePath) (layout : Layout) (source : FilePath)
    (front : Location) (stem : Text) : Deed → Prop where
  | remove
      (at_ : place directory (cFile source) =
        place directory root ++ (front ++ [stem ++ '.' :: "c"])) :
      DeedAt directory root layout source front stem (.remove (cFile source))
  | collect
      (at_ : place directory (htmlFile source) =
        place directory root ++ (front ++ [stem ++ '.' :: "html"]))
      (goal : place directory (layout.reportDestination source) =
        place directory layout.annotationsDir ++ [stem ++ '.' :: "html"]) :
      DeedAt directory root layout source front stem
        (.collect ⟨htmlFile source, layout.reportDestination source⟩)
  | deliver {name : Text} (proper : IsName name) (built : isBuildOf name stem)
      (elsewhere : front ≠ []) :
      DeedAt directory root layout source front stem
        (.deliver ⟨root.join ⟨name⟩, (pathBelow root front).trimmed.join ⟨name⟩⟩)

/-- The deliveries of a source are those of the compiled forms of its module that stand in the
root, each to the directory of the source. There are none if that is the root. -/
theorem mem_deliveriesOf {root source : FilePath} {front : Location} {stem : Text}
    (sourceAt : SourceAt root source front stem) {candidates : List FilePath}
    (below : AreBelow root candidates) {deed : Deed} :
    deed ∈ deliveriesOf candidates source ↔ ∃ name, IsName name ∧ root.join ⟨name⟩ ∈ candidates ∧
      isBuildOf name stem ∧ front ≠ [] ∧
      deed = .deliver ⟨root.join ⟨name⟩, (pathBelow root front).trimmed.join ⟨name⟩⟩ := by
  have delivered {name : Text} (proper : IsName name) :
      deliveries (pathBelow root front).trimmed (root.join ⟨name⟩) =
        if front = [] then []
        else [.deliver ⟨root.join ⟨name⟩, (pathBelow root front).trimmed.join ⟨name⟩⟩] := by
    rw [deliveries, FilePath.fileName?_join _ proper]
    simp only [same_join_trimmed root sourceAt.names proper]
  rw [deliveriesOf, sourceAt.moduleOf?_eq, sourceAt.parent?_eq]
  simp only [List.mem_flatMap, List.mem_filter]
  constructor
  · rintro ⟨file, ⟨member, built⟩, listed⟩
    obtain ⟨name, proper, rfl⟩ := below file member
    rw [FilePath.fileName?_join _ proper, Option.any_some] at built
    rw [delivered proper] at listed
    split at listed
    · cases listed
    · next elsewhere =>
      exact ⟨name, proper, member, built, elsewhere, List.mem_singleton.mp listed⟩
  · rintro ⟨name, proper, member, built, elsewhere, rfl⟩
    refine ⟨root.join ⟨name⟩, ⟨member, ?_⟩, ?_⟩
    · rw [FilePath.fileName?_join _ proper, Option.any_some]
      exact built
    · rw [delivered proper, if_neg elsewhere]
      exact List.mem_singleton_self _

/-- Each deed of a source is at places that the source settles, if there is a file to carry it out
on. -/
theorem deedAt_of_mem {directory root source : FilePath} {front : Location} {stem : Text}
    (sourceAt : SourceAt root source front stem) {layout : Layout} {keepCFiles : Bool}
    {candidates : List FilePath} (below : AreBelow root candidates) {deed : Deed}
    (member : deed ∈ deedsOf layout keepCFiles candidates source)
    (readable : isReadable directory deed.file) :
    DeedAt directory root layout source front stem deed := by
  rw [deedsOf, List.mem_append, List.mem_cons] at member
  rcases member with first | rfl | delivered
  · split at first
    · cases first
    · obtain rfl := List.mem_singleton.mp first
      exact .remove (sourceAt.beside (by decide) (by decide) readable).2.2
  · exact .collect (sourceAt.beside (by decide) (by decide) readable).2.2
      (sourceAt.reportDestination_eq readable layout).2
  · obtain ⟨name, proper, -, built, elsewhere, rfl⟩ :=
      (mem_deliveriesOf sourceAt below).mp delivered
    exact .deliver proper built elsewhere

namespace Deed

/-- A location whose name is of a kind that deeds are about. -/
def Kind.IsOf (kind : Deed.Kind) (location : Location) : Prop :=
  ∃ extension ∈ kind.suffixes, suffix location = some extension

/-- A location is touched by a deed that can be carried out. -/
def Touches (directory : FilePath) (deed : Deed) (location : Location) : Prop :=
  isReadable directory deed.file ∧
    (location = place directory deed.file ∨ deed.goal? directory = some location)

end Deed

section Places

variable {directory root source : FilePath} {layout : Layout} {front : Location} {stem : Text}
  {ledger : Ledger} {deed : Deed} {deeds : List Deed} {location : Location}

/-- A deed of a source touches only locations with extensions of its kind. -/
theorem DeedAt.suffix_of_touches (sourceAt : SourceAt root source front stem)
    (deedAt : DeedAt directory root layout source front stem deed)
    (touches : deed.Touches directory location) :
    deed.kind.IsOf location := by
  have ofStem (before : Location) {extension : Text} (noDot : '.' ∉ extension) :
      suffix (before ++ [stem ++ '.' :: extension]) = some extension :=
    suffix_with_extension before sourceAt.filled noDot
  have noDot : '.' ∉ ("c" : Text) ∧ '.' ∉ ("html" : Text) := by decide
  cases deedAt with
  | remove at_ =>
    rcases touches.2 with rfl | goal
    · refine ⟨"c", List.mem_singleton_self _, ?_⟩
      rw [Deed.file, at_, ← List.append_assoc]
      exact ofStem _ noDot.1
    · cases goal
  | collect at_ goalAt =>
    refine ⟨"html", List.mem_singleton_self _, ?_⟩
    rcases touches.2 with rfl | goal
    · rw [Deed.file, at_, ← List.append_assoc]
      exact ofStem _ noDot.2
    · obtain rfl := Option.some.inj goal
      rw [goalAt]
      exact ofStem _ noDot.2
  | deliver proper built elsewhere =>
    obtain ⟨extension, listed, named⟩ := extension_of_isBuildOf sourceAt.filled built
    refine ⟨extension, listed, ?_⟩
    rcases touches.2 with rfl | goal
    · rw [Deed.file, place_join _ _ proper, suffix_concat, named]
    · obtain rfl := Option.some.inj goal
      rw [place_join _ _ proper, suffix_concat, named]

/-- A deed changes nothing that it does not touch. -/
theorem carryOut_held (apart : ¬deed.Touches directory location) :
    (ledger.carryOut directory deed).held location = ledger.held location := by
  rw [Ledger.carryOut]
  split
  · next seen =>
    have readable : isReadable directory deed.file := (Bool.and_eq_true_iff.mp seen).1
    have untouched : location ≠ place directory deed.file ∧
        deed.goal? directory ≠ some location :=
      not_or.mp fun touched => apart ⟨readable, touched⟩
    dsimp only
    rw [Deed.effect]
    cases found : deed.goal? directory with
    | none => exact if_neg untouched.1
    | some goal =>
      have different : location ≠ goal := by
        rintro rfl
        exact untouched.2 found
      dsimp only
      rw [Holdings.move, if_neg different, if_neg untouched.1, ite_self]
  · rfl

/-- A location that no deed touches holds what it held. -/
theorem carryOutAll_held (apart : ∀ deed ∈ deeds, ¬deed.Touches directory location) :
    (ledger.carryOutAll directory deeds).held location = ledger.held location := by
  induction deeds generalizing ledger with
  | nil => rfl
  | cons deed rest inductionHypothesis =>
    obtain ⟨first, others⟩ := List.forall_mem_cons.mp apart
    rw [Ledger.carryOutAll, List.foldl_cons, ← Ledger.carryOutAll, inductionHypothesis others,
      carryOut_held first]

/-- Deeds may be carried out in two parts. -/
theorem carryOutAll_append (more : List Deed) :
    ledger.carryOutAll directory (deeds ++ more) =
      (ledger.carryOutAll directory deeds).carryOutAll directory more :=
  List.foldl_append

/-- Note sources that are not there. -/
def Ledger.noting (ledger : Ledger) (absent : List FilePath) : Ledger :=
  { ledger with report := { ledger.report with skipped := ledger.report.skipped ++ absent } }

/-- Sources that are not there may be noted before the deeds or after them. -/
theorem carryOutAll_noting (absent : List FilePath) :
    (ledger.noting absent).carryOutAll directory deeds =
      (ledger.carryOutAll directory deeds).noting absent := by
  induction deeds generalizing ledger with
  | nil => rfl
  | cons deed rest inductionHypothesis =>
    have first : (ledger.noting absent).carryOut directory deed =
        (ledger.carryOut directory deed).noting absent := by
      rw [Ledger.carryOut, Ledger.carryOut]
      have sameHeld : (ledger.noting absent).held = ledger.held := rfl
      rw [sameHeld]
      split
      · cases deed <;> rfl
      · rfl
    rw [Ledger.carryOutAll, List.foldl_cons, first]
    exact inductionHypothesis

/-- Every source is one below the root. -/
def AreSources (root : FilePath) (sources : List FilePath) : Prop :=
  ∀ source ∈ sources, ∃ front stem, SourceAt root source front stem

/-- Discovered sources are sources below the root. -/
theorem areSources_of_discovered {root : FilePath} {sources : List FilePath}
    (discovered : ∀ source ∈ sources, Discovered root source) : AreSources root sources :=
  fun source member => sourceAt_of_discovered (discovered source member)

/-- The deeds of several sources, in turn. -/
def deedsOfAll (layout : Layout) (keepCFiles : Bool) (candidates : List FilePath)
    (sources : List FilePath) : List Deed :=
  sources.flatMap (deedsOf layout keepCFiles candidates)

variable {keepCFiles : Bool} {candidates sources : List FilePath}

/-- Deeds that touch a location have names of its extension. -/
theorem suffix_of_touches (below : AreBelow root candidates) (areSources : AreSources root sources)
    (member : deed ∈ deedsOfAll layout keepCFiles candidates sources)
    (touches : deed.Touches directory location) :
    deed.kind.IsOf location := by
  obtain ⟨source, listed, of⟩ := List.mem_flatMap.mp member
  obtain ⟨front, stem, sourceAt⟩ := areSources source listed
  exact (deedAt_of_mem sourceAt below of touches.1).suffix_of_touches sourceAt touches

/-- No deed touches a source. -/
theorem held_source (below : AreBelow root candidates) (areSources : AreSources root sources)
    (sourceAt : SourceAt root source front stem) :
    (ledger.carryOutAll directory (deedsOfAll layout keepCFiles candidates sources)).held
        (place directory source) =
      ledger.held (place directory source) := by
  have noDot : '.' ∉ sourceExtension := by decide
  have named : suffix (place directory source) = some sourceExtension := by
    rw [sourceAt.place_eq, ← List.append_assoc]
    exact suffix_with_extension _ sourceAt.filled noDot
  refine carryOutAll_held fun deed member touches => ?_
  obtain ⟨extension, kind, same⟩ := suffix_of_touches below areSources member touches
  have other : sourceExtension ∉ deed.kind.suffixes := by
    cases deed.kind <;> decide
  rw [named] at same
  exact other (Option.some.inj same ▸ kind)

/-- A source is seen after all deeds exactly if it was seen before. -/
theorem sees_source (below : AreBelow root candidates) (areSources : AreSources root sources)
    (sourceAt : SourceAt root source front stem) :
    sees (ledger.carryOutAll directory (deedsOfAll layout keepCFiles candidates sources)).held
        directory source =
      sees ledger.held directory source := by
  rw [sees, sees, held_source below areSources sourceAt]

/-- Attending to sources carries out the deeds of those that are present at first. -/
theorem attendAll_eq (below : AreBelow root candidates) (areSources : AreSources root sources) :
    sources.foldl (Ledger.attend directory layout keepCFiles candidates) ledger =
      (ledger.carryOutAll directory (deedsOfAll layout keepCFiles candidates
        (sources.filter (sees ledger.held directory)))).noting
        (sources.filter fun source => !sees ledger.held directory source) := by
  induction sources generalizing ledger with
  | nil => simp [deedsOfAll, Ledger.carryOutAll, Ledger.noting]
  | cons source rest inductionHypothesis =>
    obtain ⟨⟨front, stem, sourceAt⟩, others⟩ := List.forall_mem_cons.mp areSources
    have alone : AreSources root [source] := by simpa [AreSources] using ⟨front, stem, sourceAt⟩
    rw [List.foldl_cons, Ledger.attend]
    split
    · next present =>
      have kept : ∀ other ∈ rest, sees (ledger.carryOutAll directory
          (deedsOf layout keepCFiles candidates source)).held directory other =
            sees ledger.held directory other := by
        intro other member
        obtain ⟨otherFront, otherStem, otherAt⟩ := others other member
        have alike : sees (ledger.carryOutAll directory
            (deedsOfAll layout keepCFiles candidates [source])).held directory other =
              sees ledger.held directory other := sees_source below alone otherAt
        simpa [deedsOfAll] using alike
      rw [inductionHypothesis others, List.filter_congr kept,
        List.filter_congr fun other member => congrArg Bool.not (kept other member),
        List.filter_cons_of_pos present, List.filter_cons_of_neg (by simp [present]),
        ← carryOutAll_append]
      rfl
    · next absent =>
      have noted : { ledger with report :=
          { ledger.report with skipped := ledger.report.skipped ++ [source] } } =
            ledger.noting [source] := rfl
      have sameHeld : (ledger.noting [source]).held = ledger.held := rfl
      rw [noted, inductionHypothesis others, sameHeld, carryOutAll_noting,
        List.filter_cons_of_neg absent, List.filter_cons_of_pos (by simp [absent])]
      simp [Ledger.noting]

/-- What lies below the root, and not in the directory for intermediate files, is held at first
as it was. -/
theorem Started.held_eq {held : Holdings} {start : Ledger}
    (started : Started directory root held start candidates)
    (outside : front.head? ≠ some buildName) (name : Text) :
    start.held (place directory root ++ (front ++ [name])) =
      held (place directory root ++ (front ++ [name])) := by
  refine started.held _ ?_
  rintro ⟨below, different⟩
  have starts := (List.prefix_append_right_inj _).mp below
  cases front with
  | nil =>
    obtain rfl : buildName = name := by simpa using starts
    exact different rfl
  | cons first rest =>
    have same : buildName = first := (List.cons_prefix_cons.mp starts).1
    exact outside (by rw [same]; rfl)

/-- What lies below the root, and not in the directory for intermediate files, is seen at first
exactly if it was seen before the cleanup. -/
theorem Started.sees_eq {held : Holdings} {start : Ledger}
    (started : Started directory root held start candidates) {path : FilePath} {name : Text}
    (outside : front.head? ≠ some buildName)
    (at_ : isReadable directory path →
      place directory path = place directory root ++ (front ++ [name])) :
    sees start.held directory path = sees held directory path := by
  rw [sees, sees]
  cases readable : isReadable directory path with
  | false => rfl
  | true => rw [at_ readable, started.held_eq outside name]

end Places

end PyxProject.Project
