import Mathlib.Data.List.Infix
import PyxProject.Proofs.Files.JoinedPaths
import PyxProject.Proofs.Files.PathOrder
import PyxProject.Proofs.Project.Discovery

/-!
# The sources of a project

In a closed tree a search finds exactly the sources to which the way is open, in strict order
of their paths. Names choose among them by the module that a name stands for, and a name that
stands for none of their modules is missing. The file name of a source stands for its module,
and so does its path (`isModule_of_named`), because the stem of a source is what is left of its
name without the extension (`wantedModule_eq`).
-/

namespace PyxProject.Project

open Files

/-- One more name below a path is joined to it. -/
theorem pathBelow_concat (root : FilePath) (front : Location) (name : Text) :
    pathBelow root (front ++ [name]) = (pathBelow root front).join ⟨name⟩ := by
  rw [pathBelow, List.foldl_concat, ← pathBelow]

/-- The components of a path below a root are those of the root and the names to it. -/
theorem components_pathBelow (root : FilePath) {location : Location}
    (names : ∀ name ∈ location, IsName name) :
    (pathBelow root location).components = root.components ++ location.map Component.name := by
  induction location using List.reverseRecOn with
  | nil => simp [pathBelow]
  | append_singleton front name inductionHypothesis =>
    rw [pathBelow_concat, FilePath.components_join _ (names name (by simp)),
      inductionHypothesis fun other member => names other (by simp [member])]
    simp

/-- What is open to a search is reached by proper names. -/
theorem IsOpen.names {tree : FileTree} (closed : tree.Closed) {top location : Location}
    {exclude : List Text} (isOpen : IsOpen tree top exclude location) :
    ∀ name ∈ location, IsName name := by
  obtain ⟨node, held, -⟩ := FileTree.holdsFile_iff.mp isOpen.held
  have entry := FileTree.mem_entries_of_get? (by simp [isOpen.inside]) held
  exact fun name member => closed.names _ entry name (by simp [member])

/-- The paths of the sources that were met, sorted. -/
theorem sourcePaths_eq (root : FilePath) (met : List Encounter) :
    sourcePaths root met = sortPaths ((met.filterMap Encounter.source?).map (pathBelow root)) := by
  rw [sourcePaths, List.map_filterMap]
  congr 2
  funext encounter
  cases encounter <;> rfl

/-- The sources that a search of a closed tree meets. -/
theorem mem_sources_iff {tree : FileTree} (closed : tree.Closed) {top location : Location}
    {exclude : List Text} :
    location ∈ (encounters tree top exclude).filterMap Encounter.source? ↔
      isSourceName (location.getLast?.getD []) ∧ IsOpen tree top exclude location := by
  rw [← source_mem_encounters_iff closed, List.mem_filterMap]
  constructor
  · rintro ⟨met, visited, shown⟩
    cases met with
    | environment other => cases shown
    | source other =>
      cases shown
      exact visited
  · exact fun visited => ⟨_, visited, rfl⟩

/-- The file name of a path below a root, and with it its extension, is that of its location. -/
theorem IsOpen.fileName? {tree : FileTree} (closed : tree.Closed) {top location : Location}
    {exclude : List Text} (isOpen : IsOpen tree top exclude location) (root : FilePath) :
    (pathBelow root location).fileName? = some (location.getLast?.getD []) := by
  have names := isOpen.names closed
  rcases List.eq_nil_or_concat' location with rfl | ⟨front, name, rfl⟩
  · exact absurd rfl isOpen.inside
  · rw [pathBelow_concat, FilePath.fileName?_join _ (names name (by simp))]
    simp

/-- A name that is met is that of a source exactly if its path has the extension of sources. -/
theorem IsOpen.isSourceName_iff {tree : FileTree} (closed : tree.Closed) {top location : Location}
    {exclude : List Text} (isOpen : IsOpen tree top exclude location) (root : FilePath) :
    isSourceName (location.getLast?.getD []) ↔
      (pathBelow root location).extension? = some sourceExtension := by
  rw [isSourceName, beq_iff_eq, FilePath.extension?, isOpen.fileName? closed root, Option.bind_some]

/-- The paths of the sources that a search meets. -/
theorem mem_sourcePaths_iff {tree : FileTree} (closed : tree.Closed) {top : Location}
    {exclude : List Text} {root path : FilePath} :
    path ∈ sourcePaths root (encounters tree top exclude) ↔
      path.extension? = some sourceExtension ∧
        ∃ location, path = pathBelow root location ∧ IsOpen tree top exclude location := by
  rw [sourcePaths_eq, sortPaths, List.mem_mergeSort, List.mem_map]
  simp only [mem_sources_iff closed]
  constructor
  · rintro ⟨location, ⟨named, isOpen⟩, rfl⟩
    exact ⟨(isOpen.isSourceName_iff closed root).mp named, location, rfl, isOpen⟩
  · rintro ⟨named, location, rfl, isOpen⟩
    exact ⟨location, ⟨(isOpen.isSourceName_iff closed root).mpr named, isOpen⟩, rfl⟩

/-- The paths of the sources that a search meets stand in strict order. -/
theorem sourcePaths_increasing {tree : FileTree} (closed : tree.Closed) (top : Location)
    (exclude : List Text) (root : FilePath) :
    (sourcePaths root (encounters tree top exclude)).Pairwise
      fun path other => path.compare other = .lt := by
  have distinct : ((encounters tree top exclude).filterMap Encounter.source?).Nodup := by
    refine (sources_sublist _ _ _).nodup ?_
    rw [List.nodup_iff_pairwise_ne, List.pairwise_map]
    refine (tree.ordered_below top).imp fun {first second} before same => ?_
    rw [same] at before
    exact List.lt_irrefl _ before
  rw [sourcePaths_eq]
  refine sortPaths_increasing ?_
  rw [List.map_map]
  refine distinct.map_on fun first isFirst second isSecond same => ?_
  have components : (pathBelow root first).components = (pathBelow root second).components := same
  rw [components_pathBelow root (((mem_sources_iff closed).mp isFirst).2.names closed),
    components_pathBelow root (((mem_sources_iff closed).mp isSecond).2.names closed)] at components
  exact List.map_injective_iff.mpr (fun _ _ => Component.name.inj)
    (List.append_cancel_left components)

/-- A source name is a stem that is followed by the extension of sources. -/
theorem exists_stem_of_isSourceName {name : Text} (named : isSourceName name) :
    ∃ stem, name = stem ++ '.' :: sourceExtension ∧ stem ≠ [] := by
  rw [isSourceName, beq_iff_eq] at named
  obtain ⟨whole, filled, -⟩ := FilePath.eq_of_splitName (Prod.ext rfl named)
  exact ⟨_, whole, filled⟩

/-- The module of a source is its file name without the extension. -/
theorem moduleOf?_of_fileName? {source : FilePath} {stem : Text} (filled : stem ≠ [])
    (named : source.fileName? = some (stem ++ '.' :: sourceExtension)) :
    moduleOf? source = some stem := by
  have noDot : '.' ∉ sourceExtension := by decide
  rw [moduleOf?, FilePath.stem?, named, Option.map_some, FilePath.splitName_append stem noDot,
    if_neg filled]

/-- A path whose file name has the extension of sources stands for the stem of the name. -/
theorem wantedModule_eq {text stem : Text}
    (named : FilePath.fileName? ⟨text⟩ = some (stem ++ '.' :: sourceExtension)) :
    wantedModule text = stem := by
  have ends : (".pyx" : Text).isSuffixOf (stem ++ '.' :: sourceExtension) :=
    List.isSuffixOf_iff_suffix.mpr (List.suffix_append stem _)
  have kept : (stem ++ '.' :: sourceExtension).take
      ((stem ++ '.' :: sourceExtension).length - (".pyx" : Text).length) = stem := by
    have length : (stem ++ '.' :: sourceExtension).length - (".pyx" : Text).length =
        stem.length := by
      rw [List.length_append]
      exact Nat.add_sub_cancel _ 4
    rw [length, List.take_left]
  rw [wantedModule, named, Option.getD_some, Text.before?, if_pos ends, kept, Option.getD_some]

/-- A name with the file name of a source stands for the module of the source. -/
theorem isModule_of_named {source : FilePath} {text : Text}
    (isSource : source.extension? = some sourceExtension)
    (named : FilePath.fileName? ⟨text⟩ = source.fileName?) :
    isModule source (wantedModule text) := by
  rw [FilePath.extension?, Option.bind_eq_some_iff] at isSource
  obtain ⟨fileName, ofSource, extension⟩ := isSource
  obtain ⟨stem, rfl, filled⟩ := exists_stem_of_isSourceName (beq_iff_eq.mpr extension)
  rw [ofSource] at named
  rw [isModule, moduleOf?_of_fileName? filled ofSource, wantedModule_eq named, beq_self_eq_true]

/-- A name alone is its own file name. -/
theorem fileName?_of_isName {name : Text} (proper : IsName name) :
    FilePath.fileName? ⟨name⟩ = some name := by
  have joined : (FilePath.mk []).join ⟨name⟩ = ⟨name⟩ := by
    rw [FilePath.join]
    split
    · rfl
    · simp
  rw [← joined, FilePath.fileName?_join _ proper]

/-- Which of all sources a search with these names gives. -/
structure Chooses (all : List FilePath) (names : List Text) (selection : Selection) : Prop where
  /-- The sources stand in strict order, so none of them twice. -/
  increasing : selection.sources.Pairwise fun source other => source.compare other = .lt
  sources : selection.sources =
    if names = [] then all
    else all.filter fun source => names.any fun name => moduleOf? source == some (wantedModule name)
  missing : selection.missing =
    if names = [] then []
    else names.filter fun name =>
      all.all fun source => moduleOf? source != some (wantedModule name)

/-- The choice among sources that are in order is right: names that are asked for stand for
modules, and those that are not found are listed. -/
theorem chooses_choose {all : List FilePath} (names : List Text)
    (increasing : all.Pairwise fun source other => source.compare other = .lt) :
    Chooses all names (choose names all) := by
  rw [choose]
  split
  · next empty => exact ⟨increasing, by rw [if_pos empty], by rw [if_pos empty]⟩
  · next filled =>
    refine ⟨increasing.filter _, by rw [if_neg filled]; rfl, ?_⟩
    rw [if_neg filled]
    refine List.filter_congr fun name _ => ?_
    rw [List.not_any_eq_all_not]
    rfl

/-- A search of a closed tree from a root that leads to a directory. There is one list of all
sources: the regular files with the extension of sources to which the way is open. Any names
choose from that list, and the file name and the path of a source choose it. -/
theorem discover_exact {root : FilePath} {exclude : List Text} {host : Host} {session : Session}
    {top : Location} (closed : session.tree.Closed)
    (located : directory? session.tree host.directory root = some top) :
    ∃ all : List FilePath,
      (∀ path, path ∈ all ↔ path.extension? = some sourceExtension ∧
        ∃ location, path = pathBelow root location ∧ IsOpen session.tree top exclude location) ∧
      (∀ names, ∃ selection after,
        (discover root names exclude).perform host session = (.ok selection, after) ∧
        Chooses all names selection) ∧
      ∀ source ∈ all, ∀ name, source.fileName? = some name ∨ source.text = name →
        ∃ selection after, (discover root [name] exclude).perform host session =
          (.ok selection, after) ∧ source ∈ selection.sources := by
  let all := sourcePaths root (encounters session.tree top exclude)
  have gives (names : List Text) : ∃ after,
      (discover root names exclude).perform host session = (.ok (choose names all), after) := by
    obtain ⟨after, performed, -⟩ := observes_discover root names exclude host session
    exact ⟨after, by rw [performed, found, located]⟩
  have increasing := sourcePaths_increasing closed top exclude root
  refine ⟨all, fun path => mem_sourcePaths_iff closed, fun names => ?_,
    fun source member name names => ?_⟩
  · obtain ⟨after, performed⟩ := gives names
    exact ⟨_, after, performed, chooses_choose names increasing⟩
  · obtain ⟨after, performed⟩ := gives [name]
    refine ⟨_, after, performed, ?_⟩
    obtain ⟨extension, location, rfl, isOpen⟩ := (mem_sourcePaths_iff closed).mp member
    have named : FilePath.fileName? ⟨name⟩ = (pathBelow root location).fileName? := by
      rcases names with byName | byPath
      · rw [isOpen.fileName? closed root] at byName ⊢
        obtain rfl := Option.some.inj byName
        obtain ⟨last, final⟩ := List.getLast?_isSome.mpr isOpen.inside |> Option.isSome_iff_exists.mp
        rw [final]
        exact fileName?_of_isName (isOpen.names closed last (List.mem_of_getLast? final))
      · rw [← byPath]
    have chosen := isModule_of_named extension named
    rw [choose, if_neg (by simp)]
    exact List.mem_filter.mpr ⟨member, by simpa using chosen⟩

/-- A project with a source in a directory that is called as the one for intermediate files, but
lies deeper. -/
def packagedProject : Session where
  tree :=
    (((FileTree.empty.put ["w".toList] .directory).put
      ["w".toList, "pkg".toList] .directory).put
      ["w".toList, "pkg".toList, "build".toList] .directory).put
      ["w".toList, "pkg".toList, "build".toList, "a.b.pyx".toList] (.file (encodeText "x = 1\n"))

/-- A source is found in a directory that is called as the one for intermediate files, since only
the one below the root is left out, and it is chosen by a name with a dot in its stem. -/
theorem source_of_packagedProject_is_chosen :
    packagedProject.tree.Closed ∧
      directory? packagedProject.tree "/w" "." = some ["w".toList] ∧
      ∃ selection after, (discover "." ["a.b.pyx".toList] []).perform { directory := "/w" }
        packagedProject = (.ok selection, after) ∧
        ("./pkg/build/a.b.pyx" : FilePath) ∈ selection.sources := by
  have closed : packagedProject.tree.Closed := by decide +kernel
  have located : directory? packagedProject.tree "/w" "." = some ["w".toList] := by decide +kernel
  have entered : ∀ front ∈ ["pkg".toList, "build".toList, "a.b.pyx".toList].inits, front ≠ [] →
      front ≠ ["pkg".toList, "build".toList, "a.b.pyx".toList] →
      verdict packagedProject.tree ["w".toList] [] front = .enter := by decide +kernel
  refine ⟨closed, located, ?_⟩
  obtain ⟨all, members, -, chosen⟩ :=
    @discover_exact "." [] { directory := "/w" } packagedProject ["w".toList] closed located
  refine chosen "./pkg/build/a.b.pyx" ?_ "a.b.pyx".toList (.inl (by decide +kernel))
  refine (members _).mpr ⟨by decide +kernel, ["pkg".toList, "build".toList, "a.b.pyx".toList],
    by decide +kernel, by simp, by decide +kernel, fun front onWay filled before => ?_⟩
  exact verdict_eq_enter_iff.mp (entered front (List.mem_inits _ _ |>.mpr onWay) filled before)

end PyxProject.Project
