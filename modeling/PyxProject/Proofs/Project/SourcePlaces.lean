import PyxProject.Project.Artifacts
import PyxProject.Proofs.Files.Changes
import PyxProject.Proofs.Project.FoundSources

/-!
# Where the files of a project lie

In a plain tree a path below a root that leads to a directory leads to a file exactly if one is
held at its place and the path is not too long (`isFile_pathBelow`). A source is such a path, its
C file and its report stand beside it under other names, and compiled modules stand directly
below the root (`SourceAt`).
-/

namespace PyxProject.Project

open Files

/-- Whether a path ends in a name, and neither it nor any of its names is too long. -/
def isReadable (directory path : FilePath) : Bool :=
  (checkPath path).isOk &&
    (FilePath.namesOf (directory.join path).text).all (fun name => byteLength name ≤ maxName) &&
    path.fileName?.isSome

/-- Whether a path leads to a file if a tree has these holdings. -/
def sees (held : Holdings) (directory path : FilePath) : Bool :=
  isReadable directory path && (held (place directory path)).any Node.isRegular

/-- The names of a root lead to a directory. -/
structure Rooted (tree : FileTree) (directory root : FilePath) (top : Location) : Prop where
  arrived : walk tree [] (FilePath.namesOf (directory.join root).text) = .arrived top
  inside : tree.holdsDirectory top

/-- In a plain tree, a path that leads to a directory does so by its names alone. -/
theorem rooted_of_resolve {tree : FileTree} (plain : tree.Plain) {directory root : FilePath}
    {top : Location} (resolved : resolve tree directory root = .ok top)
    (inside : tree.holdsDirectory top) : Rooted tree directory root top := by
  obtain ⟨-, arrived⟩ := (resolve_iff plain.linkFree).mp resolved
  exact ⟨(walk_steps_iff inside).mp arrived, inside⟩

/-- A root that is found to be a directory is one that its names lead to. -/
theorem rooted_of_directory? {tree : FileTree} (plain : tree.Plain) {directory root : FilePath}
    {top : Location} (located : directory? tree directory root = some top) :
    Rooted tree directory root top := by
  rw [directory?] at located
  cases resolved : resolve tree directory root with
  | error fault => simp [resolved] at located
  | ok location =>
    simp only [resolved] at located
    split at located
    · next inside =>
      cases located
      exact rooted_of_resolve plain resolved inside
    · cases located

/-- A root stays a root if no directory is lost. -/
theorem Rooted.kept {tree changed : FileTree} {directory root : FilePath} {top : Location}
    (rooted : Rooted tree directory root top) (plain : tree.Plain)
    (directories : ∀ location, tree.holdsDirectory location → changed.holdsDirectory location) :
    Rooted changed directory root top := by
  refine ⟨?_, directories top rooted.inside⟩
  have passes : (walk tree [] (FilePath.namesOf (directory.join root).text)).passes tree := by
    rw [rooted.arrived]
    exact rooted.inside
  rw [walk_kept (plain.keepsPassages directories) passes, rooted.arrived]

/-- A root stays a root where a tree changes its files only. -/
theorem Rooted.becomes {tree changed : FileTree} (plain : tree.Plain) {held : Holdings}
    {directory root : FilePath} {top : Location} (rooted : Rooted tree directory root top)
    (becomes : tree.Becomes changed held) : Rooted changed directory root top :=
  rooted.kept plain becomes.directories

/-- The place of a root is the directory it leads to. -/
theorem Rooted.place_eq {tree : FileTree} {directory root : FilePath} {top : Location}
    (rooted : Rooted tree directory root top) : place directory root = top :=
  (eq_of_arrived rooted.arrived).symm

/-- The names of a path below a root. -/
theorem namesOf_pathBelow (directory root : FilePath) {location : Location}
    (names : ∀ name ∈ location, IsName name) :
    FilePath.namesOf (directory.join (pathBelow root location)).text =
      FilePath.namesOf (directory.join root).text ++ location := by
  induction location using List.reverseRecOn with
  | nil => simp [pathBelow]
  | append_singleton front name inductionHypothesis =>
    rw [pathBelow_concat, FilePath.namesOf_join_name _ _ (names name (by simp)).toIsSegment,
      inductionHypothesis fun other member => names other (by simp [member]), List.append_assoc]

/-- The place of a path below a root is that location below the place of the root. -/
theorem place_pathBelow (directory root : FilePath) {location : Location}
    (names : ∀ name ∈ location, IsName name) :
    place directory (pathBelow root location) = place directory root ++ location := by
  rw [place, namesOf_pathBelow directory root names, List.foldl_append,
    foldl_advance_of_isName names, place]

/-- Names lead down to what a closed tree holds there, unless one of them is too long. -/
theorem walk_down {tree : FileTree} (closed : tree.Closed) {here rest : Location} {node : Node}
    (held : tree.get? (here ++ rest) = some node)
    (noLink : node.isLink = false) (names : ∀ name ∈ rest, IsName name)
    (fits : ∀ name ∈ rest, byteLength name ≤ maxName) :
    walk tree here rest = .arrived (here ++ rest) := by
  induction rest using List.reverseRecOn generalizing node with
  | nil => rw [List.append_nil, walk]
  | append_singleton front name inductionHypothesis =>
    rw [← List.append_assoc] at held ⊢
    have parentInside : tree.holdsDirectory (here ++ front) :=
      holdsDirectory_of_onWay closed (Option.isSome_of_eq_some held) (List.prefix_append _ _)
        (by simp)
    have parentHeld : tree.get? (here ++ front) = some .directory := by
      simpa [FileTree.holdsDirectory] using parentInside
    have before := inductionHypothesis parentHeld rfl
      (fun other member => names other (by simp [member]))
      (fun other member => fits other (by simp [member]))
    have short : ¬maxName < byteLength name := Nat.not_lt.mpr (fits name (by simp))
    rw [walk_append, before]
    refine walk_entry parentInside (names name (by simp)).ordinary short held ?_
    rintro target rfl
    cases noLink

/-- The file name of a path below a root is its last name. -/
theorem fileName?_pathBelow (root : FilePath) (front : Location) {name : Text}
    (proper : IsName name) : (pathBelow root (front ++ [name])).fileName? = some name := by
  rw [pathBelow_concat, FilePath.fileName?_join _ proper]

/-- The steps of a path below a root. -/
theorem steps_pathBelow (directory root : FilePath) {front : Location} {name : Text}
    (names : ∀ other ∈ front ++ [name], IsName other) :
    steps (directory.join (pathBelow root (front ++ [name]))).text =
      FilePath.namesOf (directory.join root).text ++ (front ++ [name]) := by
  rw [pathBelow_concat, FilePath.steps_join_name _ _ (names name (by simp)).toIsSegment,
    namesOf_pathBelow directory root fun other member => names other (by simp [member]),
    List.append_assoc]

/-- A path below a root leads to a file exactly if its place holds one and it is not too long. -/
theorem isFile_pathBelow {tree : FileTree} (plain : tree.Plain) {directory root : FilePath}
    {top front : Location} {name : Text} (rooted : Rooted tree directory root top)
    (names : ∀ other ∈ front ++ [name], IsName other) :
    isFile tree directory (pathBelow root (front ++ [name])) =
      sees tree.holdings directory (pathBelow root (front ++ [name])) := by
  have proper : IsName name := names name (by simp)
  have named := fileName?_pathBelow root front proper
  have placed : place directory (pathBelow root (front ++ [name])) = top ++ (front ++ [name]) := by
    rw [place_pathBelow directory root names, rooted.place_eq]
  have stepsEq := steps_pathBelow directory root names
  have namesEq := namesOf_pathBelow directory root names
  rw [Bool.eq_iff_iff]
  constructor
  · intro file
    obtain ⟨resolved, regular⟩ := resolve_of_isFile plain.linkFree file
    obtain ⟨checked, arrived⟩ := (resolve_iff plain.linkFree).mp resolved
    rw [stepsEq, ← namesEq] at arrived
    have fits := fits_of_arrived arrived
    have held := FileTree.holdsFile_iff_holdings.mp regular
    simp [sees, isReadable, checked, named, held, Except.isOk, Except.toBool]
    simpa using fits
  · intro seen
    simp only [sees, isReadable, Bool.and_eq_true, List.all_eq_true, decide_eq_true_eq] at seen
    obtain ⟨⟨⟨checked, fits⟩, -⟩, held⟩ := seen
    have file := FileTree.holdsFile_iff_holdings.mpr held
    obtain ⟨node, found, regular⟩ := FileTree.holdsFile_iff.mp file
    rw [placed] at found
    have noLink := (Node.plain_of_isRegular regular).2
    have down := walk_down plain.closed found noLink names fun other member =>
      fits other (by rw [namesEq]; exact List.mem_append_right _ member)
    have arrived : walk tree [] (steps (directory.join (pathBelow root (front ++ [name]))).text) =
        .arrived (top ++ (front ++ [name])) := by
      rw [stepsEq, walk_append, rooted.arrived]
      exact down
    have ok : checkPath (pathBelow root (front ++ [name])) = .ok () := by
      cases outcome : checkPath (pathBelow root (front ++ [name])) with
      | ok _ => rfl
      | error fault => simp [outcome, Except.isOk, Except.toBool] at checked
    rw [isFile_eq, node?, (resolve_iff plain.linkFree).mpr ⟨ok, arrived⟩]
    simp [found, regular]

/-- Where a path below a root leads to a file, the root leads to a directory. -/
theorem rooted_of_isFile {tree : FileTree} (plain : tree.Plain) {directory root : FilePath}
    {front : Location} {name : Text} (names : ∀ other ∈ front ++ [name], IsName other)
    (file : isFile tree directory (pathBelow root (front ++ [name]))) :
    ∃ top, Rooted tree directory root top := by
  obtain ⟨resolved, -⟩ := resolve_of_isFile plain.linkFree file
  obtain ⟨-, arrived⟩ := (resolve_iff plain.linkFree).mp resolved
  rw [steps_pathBelow directory root names, walk_append] at arrived
  cases walked : walk tree [] (FilePath.namesOf (directory.join root).text) with
  | arrived top =>
    refine ⟨top, walked, ?_⟩
    rw [walked] at arrived
    obtain ⟨first, rest, whole⟩ := List.exists_cons_of_ne_nil
      (List.append_ne_nil_of_right_ne_nil front (List.cons_ne_nil name []))
    rw [whole] at arrived
    dsimp only at arrived
    rw [walk] at arrived
    split at arrived
    · cases arrived
    · next inside => simpa using inside
  | link => simp [walked] at arrived
  | missing => simp [walked] at arrived
  | failed => simp [walked] at arrived

/-- A path that leads to a file in a plain tree ends in an ordinary name. -/
theorem ordinary_of_isFile {tree : FileTree} (plain : tree.Plain) {directory path : FilePath}
    (file : isFile tree directory path) {front : List Text} {last : Text}
    (ends : steps (directory.join path).text = front ++ [last]) : ¬(last = "." ∨ last = "..") := by
  obtain ⟨resolved, regular⟩ := resolve_of_isFile plain.linkFree file
  have noDirectory : ¬tree.holdsDirectory (place directory path) := by
    intro inside
    have held : tree.get? (place directory path) = some .directory := by
      simpa [FileTree.holdsDirectory] using inside
    simp [FileTree.holdsFile, held, Node.isRegular] at regular
  obtain ⟨parent, name, named, -⟩ :=
    namesEntry_of_resolve plain.closed plain.linkFree resolved noDirectory
  obtain ⟨names, endsToo, -⟩ := named.reached
  obtain ⟨-, same⟩ := List.append_inj' (ends.symm.trans endsToo) rfl
  exact List.singleton_inj.mp same ▸ named.ordinary

/-- A path that ends in the parent directory leads to no file. -/
theorem isFile_join_parent {tree : FileTree} (plain : tree.Plain) (directory base : FilePath) :
    isFile tree directory (base.join "..") = false := by
  refine Bool.eq_false_iff.mpr fun file => ?_
  have segment : IsSegment ".." := by decide
  exact ordinary_of_isFile plain file (FilePath.steps_join_name directory base segment) (.inr rfl)

/-- Where nothing is held, no file is seen. -/
theorem not_sees_of_none {held : Holdings} {directory path : FilePath}
    (nothing : held (place directory path) = none) : sees held directory path = false := by
  rw [sees, nothing, Option.any_none, Bool.and_false]

/-- A path to a parent directory is not seen as a file, since it does not end in a name. -/
theorem sees_join_parent (held : Holdings) (directory base : FilePath) :
    sees held directory (base.join "..") = false := by
  have nameless : (base.join "..").fileName? = none := by
    rw [FilePath.fileName?, FilePath.lastName?_join_parent, Option.map_none]
  rw [sees, isReadable, nameless, Option.isSome_none, Bool.and_false, Bool.false_and]

/-- A source below a root: the directories to it, and its name without the extension. -/
structure SourceAt (root source : FilePath) (front : Location) (stem : Text) : Prop where
  path : source = pathBelow root (front ++ [stem ++ '.' :: sourceExtension])
  names : ∀ name ∈ front, IsName name
  filled : stem ≠ []
  whole : '/' ∉ stem
  /-- It does not lie in the directory for intermediate files. -/
  outside : front.head? ≠ some buildName

/-- A source that a search from a root gave in some closed tree. -/
def Discovered (root source : FilePath) : Prop :=
  ∃ (host : Host) (session after : Session) (names exclude : List Text) (selection : Selection),
    session.tree.Closed ∧
      (discover root names exclude).perform host session = (.ok selection, after) ∧
      source ∈ selection.sources

/-- What a search without names meets is found. -/
theorem discovered_of_met {directory root : FilePath} {tree : FileTree} {top location : Location}
    {exclude : List Text} (closed : tree.Closed)
    (located : directory? tree directory root = some top)
    (met : .source location ∈ encounters tree top exclude) :
    Discovered root (pathBelow root location) := by
  obtain ⟨after, performed, -⟩ := observes_discover root [] exclude { directory } { tree }
  rw [found, located] at performed
  refine ⟨{ directory }, { tree }, after, [], exclude, _, closed, performed, ?_⟩
  rw [choose, if_pos rfl, sourcePaths, sortPaths, List.mem_mergeSort, List.mem_filterMap]
  exact ⟨_, met, rfl⟩

/-- A discovered source is among those that a search of some closed tree meets below its root. -/
theorem mem_sourcePaths_of_discovered {root source : FilePath}
    (discovered : Discovered root source) :
    ∃ (tree : FileTree) (top : Location) (exclude : List Text), tree.Closed ∧
      source ∈ sourcePaths root (encounters tree top exclude) := by
  obtain ⟨host, session, after, names, exclude, selection, closed, performed, member⟩ := discovered
  obtain ⟨middle, observed, -⟩ := observes_discover root names exclude host session
  rw [observed, found] at performed
  split at performed
  · cases performed
  · next top located =>
    cases performed
    exact ⟨session.tree, top, exclude, closed, mem_of_mem_choose member⟩

/-- A discovered source has a proper name with a stem, and lies outside the directory for
intermediate files. -/
theorem sourceAt_of_discovered {root source : FilePath} (discovered : Discovered root source) :
    ∃ front stem, SourceAt root source front stem := by
  obtain ⟨tree, top, exclude, closed, member⟩ := mem_sourcePaths_of_discovered discovered
  obtain ⟨named, location, rfl, isOpen⟩ := (mem_sourcePaths_iff closed).mp member
  have isSource := (isOpen.isSourceName_iff closed root).mpr named
  have names := isOpen.names closed
  rcases List.eq_nil_or_concat' location with rfl | ⟨front, name, rfl⟩
  · exact absurd rfl isOpen.inside
  · rw [List.getLast?_concat, Option.getD_some] at isSource
    obtain ⟨stem, rfl, filled⟩ := exists_stem_of_isSourceName isSource
    have proper : IsName (stem ++ '.' :: sourceExtension) := names _ (by simp)
    refine ⟨front, stem, rfl, fun other member => names other (by simp [member]), filled,
      fun broken => proper.whole (List.mem_append_left _ broken), fun starts => ?_⟩
    obtain ⟨rest, rfl⟩ := List.head?_eq_some_iff.mp starts
    exact isOpen.free [buildName] ⟨rest ++ [stem ++ '.' :: sourceExtension], by simp⟩ (by simp)
      (by simp) .intermediate

/-- A stem with a dot and an extension is a name: it is too long to be that of the directory
itself or of its parent. -/
theorem isName_with_extension {stem extension : Text} (filled : stem ≠ []) (whole : '/' ∉ stem)
    (noSlash : '/' ∉ extension) (long : extension ≠ []) : IsName (stem ++ '.' :: extension) := by
  refine ⟨⟨by simp, by simp [whole, noSlash]⟩, ?_, ?_⟩
  · simp [List.append_eq_cons_iff, filled]
  · intro dots
    have lengths := congrArg List.length dots
    have first := List.length_pos_of_ne_nil filled
    have last := List.length_pos_of_ne_nil long
    simp at lengths
    omega

namespace SourceAt

variable {root source : FilePath} {front : Location} {stem : Text}
  (sourceAt : SourceAt root source front stem)
include sourceAt

/-- The name of a source is one. -/
theorem isName : IsName (stem ++ '.' :: sourceExtension) :=
  isName_with_extension sourceAt.filled sourceAt.whole (by decide) (by decide)

/-- A source lies at names below its root. -/
theorem allNames : ∀ name ∈ front ++ [stem ++ '.' :: sourceExtension], IsName name := by
  intro name member
  rcases List.mem_append.mp member with inside | last
  · exact sourceAt.names name inside
  · exact List.mem_singleton.mp last ▸ sourceAt.isName

/-- The module of a source is its stem. -/
theorem moduleOf?_eq : moduleOf? source = some stem := by
  refine moduleOf?_of_fileName? sourceAt.filled ?_
  rw [sourceAt.path, fileName?_pathBelow root front sourceAt.isName]

/-- The directory of a source is what leads to it below the root. -/
theorem parent?_eq : source.parent? = some (pathBelow root front).trimmed := by
  rw [sourceAt.path, pathBelow_concat, FilePath.parent?_join _ sourceAt.isName]

/-- The place of a source is its location below the place of the root. -/
theorem place_eq (directory : FilePath) :
    place directory source =
      place directory root ++ (front ++ [stem ++ '.' :: sourceExtension]) := by
  rw [sourceAt.path, place_pathBelow directory root sourceAt.allNames]

/-- A source with another extension is its stem with that extension, in the same directory. -/
theorem withExtension_eq {extension : Text} (noSlash : '/' ∉ extension) :
    source.withExtension extension =
      (pathBelow root front).join ⟨FilePath.renamed stem extension⟩ := by
  have noDot : '.' ∉ sourceExtension := by decide
  rw [sourceAt.path, pathBelow_concat, FilePath.withExtension_join _ sourceAt.filled noDot
    sourceAt.isName noSlash]

/-- What stands beside a source under another extension is a file exactly if its place holds one. -/
theorem isFile_withExtension {tree : FileTree} (plain : tree.Plain) {directory : FilePath}
    {top : Location} (rooted : Rooted tree directory root top) {extension : Text}
    (noSlash : '/' ∉ extension) (long : extension ≠ []) :
    isFile tree directory (source.withExtension extension) =
      sees tree.holdings directory (source.withExtension extension) := by
  rw [sourceAt.withExtension_eq noSlash, FilePath.renamed]
  split
  · have file := isFile_join_parent plain directory (pathBelow root front)
    exact file.trans (sees_join_parent _ _ _).symm
  · have proper := isName_with_extension sourceAt.filled sourceAt.whole noSlash long
    rw [← pathBelow_concat]
    refine isFile_pathBelow plain rooted fun other member => ?_
    rcases List.mem_append.mp member with inside | last
    · exact sourceAt.names other inside
    · exact List.mem_singleton.mp last ▸ proper

/-- The C file of a source is a file exactly if its place holds one. -/
theorem isFile_cFile {tree : FileTree} (plain : tree.Plain) {directory : FilePath}
    {top : Location} (rooted : Rooted tree directory root top) :
    isFile tree directory (cFile source) = sees tree.holdings directory (cFile source) :=
  sourceAt.isFile_withExtension plain rooted (by decide) (by decide)

/-- The report on a source is a file exactly if its place holds one. -/
theorem isFile_htmlFile {tree : FileTree} (plain : tree.Plain) {directory : FilePath}
    {top : Location} (rooted : Rooted tree directory root top) :
    isFile tree directory (htmlFile source) = sees tree.holdings directory (htmlFile source) :=
  sourceAt.isFile_withExtension plain rooted (by decide) (by decide)

/-- A source that is a file stands below a root that leads to a directory. -/
theorem rooted {tree : FileTree} (plain : tree.Plain) {directory : FilePath}
    (present : isFile tree directory source) : ∃ top, Rooted tree directory root top := by
  rw [sourceAt.path] at present
  exact rooted_of_isFile plain sourceAt.allNames present

/-- A source is a file exactly if its place holds one. -/
theorem isFile_eq {tree : FileTree} (plain : tree.Plain) {directory : FilePath} {top : Location}
    (rooted : Rooted tree directory root top) :
    isFile tree directory source = sees tree.holdings directory source := by
  rw [sourceAt.path]
  exact isFile_pathBelow plain rooted sourceAt.allNames

end SourceAt

end PyxProject.Project
