import PyxProject.Proofs.Files.Changes

/-!
# Directories that are there

To create a directory that is there is no fault and changes nothing
(`makeDirectoryTree_of_isDirectory`), and a directory that was created is there
(`isDirectory_of_makeDirectoryTree`). In a plain tree the directories alone decide which paths
lead to directories (`SameDirectories.isDirectory_eq`). Removing and renaming files leaves the
directories as they are, and when a directory is removed, a path that does not pass it leads
where it led before (`isDirectory_erase`).
-/

namespace PyxProject.Files

open FilePath

variable {tree changed : FileTree} {directory path : FilePath}

/-- Which paths lead to directories. -/
theorem isDirectory_iff (linkFree : tree.LinkFree) :
    isDirectory tree directory path ↔ checkPath path = .ok () ∧
      walk tree [] (namesOf (directory.join path).text) = .arrived (place directory path) ∧
      tree.holdsDirectory (place directory path) := by
  rw [isDirectory, beq_iff_eq, node?]
  constructor
  · intro held
    cases resolved : resolve tree directory path with
    | error fault => simp [resolved] at held
    | ok location =>
      obtain rfl := resolve_place linkFree resolved
      have inside : tree.holdsDirectory (place directory path) := by
        simpa [FileTree.holdsDirectory, resolved] using held
      obtain ⟨checked, arrived⟩ := (resolve_iff linkFree).mp resolved
      exact ⟨checked, (walk_steps_iff inside).mp arrived, inside⟩
  · rintro ⟨checked, arrived, inside⟩
    rw [(resolve_iff linkFree).mpr ⟨checked, (walk_steps_iff inside).mpr arrived⟩]
    simpa [FileTree.holdsDirectory] using inside

/-- A path to a directory names it, unless it ends in `.` or `..` or is the root. -/
theorem target_of_isDirectory (linkFree : tree.LinkFree) (isDir : isDirectory tree directory path) :
    target tree directory path = .ok .special ∨
      ∃ parent name slash, target tree directory path = .ok (.entry parent name slash) ∧
        tree.get? (parent ++ [name]) = some .directory := by
  obtain ⟨checked, arrived, inside⟩ := (isDirectory_iff linkFree).mp isDir
  generalize cut : Text.dropEndWhile (· == '/') (directory.join path).text = bare
  have bareSteps : steps bare = namesOf (directory.join path).text := by
    rw [← cut, steps_bare]
  rcases List.eq_nil_or_concat' (steps bare) with empty | ⟨names, last, ends⟩
  · left
    simp [target, checked, cut, empty, bind, Except.bind, pure, Except.pure]
  · rw [← bareSteps, ends, walk_append] at arrived
    cases reached : walk tree [] names with
    | link there target rest => simp [reached] at arrived
    | missing there name rest => simp [reached] at arrived
    | failed fault => simp [reached] at arrived
    | arrived parent =>
      simp only [reached] at arrived
      have parentInside : tree.holdsDirectory parent := by
        refine Decidable.byContradiction fun outside => ?_
        simp [walk, outside] at arrived
      have found : target tree directory path =
          entryIn tree parent last (bare.length < (directory.join path).text.length) := by
        rw [target_eq cut ends, checked, (follow_iff linkFree).mpr reached]
        rfl
      by_cases ordinary : last = "." ∨ last = ".."
      · left
        rw [found, entryIn, parentInside, if_neg (by simp), if_pos ordinary]
      · right
        have fits : ¬maxName < byteLength last := by
          intro long
          simp [walk_name parentInside ordinary, long] at arrived
        have named : target tree directory path =
            .ok (.entry parent last (bare.length < (directory.join path).text.length)) := by
          rw [found, entryIn, parentInside, if_neg (by simp), if_neg ordinary, if_neg fits]
        refine ⟨parent, last, _, named, ?_⟩
        rw [(target_place linkFree named).1]
        simpa [FileTree.holdsDirectory] using inside

/-- A directory that is there cannot be made. -/
theorem makeDirectory_of_isDirectory (linkFree : tree.LinkFree)
    (isDir : isDirectory tree directory path) :
    makeDirectory tree directory path = .error .alreadyExists := by
  rcases target_of_isDirectory linkFree isDir with special | ⟨parent, name, slash, named, held⟩
  · simp only [makeDirectory, special, bind, Except.bind]
    rfl
  · simp only [makeDirectory, named, held, bind, Except.bind]
    rfl

/-- The ancestors of a path start with the path. -/
theorem ancestors_eq_cons (path : FilePath) : ∃ rest, path.ancestors = path :: rest := by
  rw [ancestors]
  split
  · exact ⟨[], rfl⟩
  · exact ⟨_, rfl⟩

/-- To create a directory that is there changes nothing. -/
theorem makeDirectoryTree_of_isDirectory (linkFree : tree.LinkFree)
    (isDir : isDirectory tree directory path) :
    makeDirectoryTree directory path tree = (.ok (), tree) := by
  obtain ⟨rest, starts⟩ := ancestors_eq_cons path
  have filled : path.text ≠ [] := by
    intro empty
    have checked := ((isDirectory_iff linkFree).mp isDir).1
    simp [checkPath, empty] at checked
  have makes := makeDirectory_of_isDirectory linkFree isDir
  simp only [makeDirectoryTree, starts, makeDirectories, filled, if_false, makes,
    makeDirectories.settle, isDir, if_true]

/-- A directory that was made is there. -/
theorem isDirectory_of_makeDirectory (plain : tree.Plain)
    (makes : makeDirectory tree directory path = .ok changed) :
    isDirectory changed directory path := by
  have becomes := makeDirectory_becomes plain makes
  simp only [makeDirectory, bind, Except.bind] at makes
  cases named : target tree directory path with
  | error fault => simp [named] at makes
  | ok entry =>
    cases entry with
    | special => simp [named] at makes
    | entry parent name slash =>
      obtain ⟨checked, names, ends, arrived, inside, ordinary, fits⟩ :=
        names_of_target plain.linkFree named
      have whole := (target_place plain.linkFree named).1
      simp only [named] at makes
      split at makes
      · cases makes
      · obtain rfl := Except.ok.inj makes
        have held : (tree.put (parent ++ [name]) .directory).get? (parent ++ [name]) =
            some .directory := FileTree.get?_put_self _ (by simp) _
        have passes : (walk tree [] names).passes tree := by
          rw [arrived]
          exact inside
        have stillArrived := walk_kept (plain.keepsPassages becomes.directories) passes
        refine (isDirectory_iff becomes.plain.linkFree).mpr ⟨checked, ?_, ?_⟩
        · rw [ends, walk_append, stillArrived, arrived, ← whole]
          exact walk_entry (becomes.directories parent inside) ordinary fits held (by simp)
        · rw [← whole]
          simp [FileTree.holdsDirectory, held]

/-- A directory that was made or accepted is one afterwards. -/
theorem isDirectory_of_settle (plain : tree.Plain)
    (settles : makeDirectories.settle directory path tree = (.ok (), changed)) :
    isDirectory changed directory path := by
  rw [makeDirectories.settle] at settles
  cases makes : makeDirectory tree directory path with
  | ok made =>
    rw [makes] at settles
    cases settles
    exact isDirectory_of_makeDirectory plain makes
  | error fault =>
    simp only [makes] at settles
    split at settles
    · next isDir =>
      cases settles
      exact isDir
    · cases settles

/-- A directory that was created with its ancestors is there. -/
theorem isDirectory_of_makeDirectoryTree (plain : tree.Plain) (filled : path.text ≠ [])
    (made : makeDirectoryTree directory path tree = (.ok (), changed)) :
    isDirectory changed directory path := by
  obtain ⟨rest, starts⟩ := ancestors_eq_cons path
  simp only [makeDirectoryTree, starts, makeDirectories, filled, if_false] at made
  split at made
  · next made' makes =>
    cases made
    exact isDirectory_of_makeDirectory plain makes
  · split at made
    · cases made
    · next middle before =>
      have grown := makeDirectories_becomes plain directory rest
      rw [before] at grown
      exact isDirectory_of_settle grown.plain made
  · exact isDirectory_of_settle plain made

/-- Two trees with the same directories. -/
def SameDirectories (tree changed : FileTree) : Prop :=
  ∀ location, changed.holdsDirectory location = tree.holdsDirectory location

/-- A tree has the directories that it has. -/
@[refl]
theorem SameDirectories.refl (tree : FileTree) : SameDirectories tree tree := fun _ => rfl

/-- Trees that have the same directories as a third one have the same directories. -/
theorem SameDirectories.trans {middle : FileTree} (first : SameDirectories tree middle)
    (second : SameDirectories middle changed) : SameDirectories tree changed :=
  fun location => (second location).trans (first location)

/-- Having the same directories goes both ways. -/
theorem SameDirectories.symm (same : SameDirectories tree changed) : SameDirectories changed tree :=
  fun location => (same location).symm

/-- The directories decide which paths lead to directories. -/
theorem SameDirectories.isDirectory_eq (same : SameDirectories tree changed) (plain : tree.Plain)
    (changedPlain : changed.Plain) (directory path : FilePath) :
    isDirectory changed directory path = isDirectory tree directory path := by
  have kept {first second : FileTree} (plain : first.Plain) (plainToo : second.Plain)
      (same : SameDirectories first second) (isDir : isDirectory first directory path) :
      isDirectory second directory path := by
    obtain ⟨checked, arrived, inside⟩ := (isDirectory_iff plain.linkFree).mp isDir
    have passes : (walk first [] (namesOf (directory.join path).text)).passes first := by
      rw [arrived]
      exact inside
    have keeps := plain.keepsPassages fun location inside => (same location).trans inside
    refine (isDirectory_iff plainToo.linkFree).mpr ⟨checked, ?_, (same _).trans inside⟩
    rw [walk_kept keeps passes, arrived]
  exact Bool.eq_iff_iff.mpr ⟨kept changedPlain plain same.symm, kept plain changedPlain same⟩

/-- Erasing a file leaves the directories as they are. -/
theorem sameDirectories_erase (plain : tree.Plain) {location : Location}
    (noDirectory : ¬tree.holdsDirectory location) : SameDirectories tree (tree.erase location) := by
  intro other
  rw [FileTree.holdsDirectory, FileTree.get?_erase_file plain.closed noDirectory]
  split
  · next same =>
    rw [same, Bool.eq_false_iff.mpr noDirectory]
    rfl
  · rfl

/-- Putting a file where no directory is leaves the directories as they are. -/
theorem sameDirectories_put {location : Location} {node : Node} (inside : location ≠ [])
    (noDirectory : ¬tree.holdsDirectory location) (notDirectory : node ≠ .directory) :
    SameDirectories tree (tree.put location node) := by
  intro other
  by_cases same : other = location
  · subst same
    rw [FileTree.holdsDirectory, FileTree.get?_put_self _ inside, Bool.eq_false_iff.mpr noDirectory]
    simpa using notDirectory
  · rw [FileTree.holdsDirectory, FileTree.get?_put_of_ne _ same, FileTree.holdsDirectory]

/-- Removing a file leaves all directories, since the place of the path held none. -/
theorem sameDirectories_removeFile (plain : tree.Plain)
    (removes : removeFile tree directory path = .ok changed) : SameDirectories tree changed := by
  obtain ⟨rfl, noDirectory⟩ := removeFile_eq_ok plain.linkFree removes
  exact sameDirectories_erase plain noDirectory

/-- Renaming leaves all directories: what is moved is none, and neither is what it replaces. -/
theorem sameDirectories_rename (plain : tree.Plain) {source destination : FilePath}
    (renamed : rename tree directory source destination = .ok changed) :
    SameDirectories tree changed := by
  obtain ⟨node, parent, name, held, notDirectory, named, proper, whole, free, rfl⟩ :=
    rename_eq_ok plain.linkFree renamed
  split
  · exact .refl tree
  · have noDirectory : ¬tree.holdsDirectory (place directory source) := by
      simpa [FileTree.holdsDirectory, held] using notDirectory
    have erased := sameDirectories_erase plain noDirectory
    have stillFree : ¬(tree.erase (place directory source)).holdsDirectory
        (place directory destination) := by
      rw [erased]
      exact free
    exact erased.trans (sameDirectories_put (by simp [← whole]) stillFree notDirectory)

/-- A step from outside a location leads into it only through the location. -/
theorem advance_outside {top here : Location} {name : Text} (outside : ¬top <+: here)
    (apart : advance here name ≠ top) : ¬top <+: advance here name := by
  intro below
  rw [advance] at below apart
  split at below
  · exact outside below
  · split at below
    · exact outside (below.trans (List.dropLast_prefix here))
    · next current upward =>
      rw [if_neg current, if_neg upward] at apart
      rcases List.prefix_concat_iff.mp below with whole | inside
      · exact apart whole.symm
      · exact outside inside

/-- Whether names lead through a location, or start or end there. -/
def passes (top here : Location) : List Text → Bool
  | [] => here == top
  | name :: rest => here == top || passes top (advance here name) rest

/-- A walk that stays apart from a location does not start there. -/
theorem ne_of_not_passes {top here : Location} {names : List Text}
    (apart : passes top here names = false) : here ≠ top := by
  cases names with
  | nil => simpa [passes] using apart
  | cons name rest =>
    rw [passes, Bool.or_eq_false_iff] at apart
    simpa using apart.1

/-- Names that do not pass a location lead to no place below it. -/
theorem foldl_advance_outside {top here : Location} {names : List Text} (outside : ¬top <+: here)
    (apart : passes top here names = false) : ¬top <+: names.foldl advance here := by
  induction names generalizing here with
  | nil => exact outside
  | cons name rest inductionHypothesis =>
    have later := (Bool.or_eq_false_iff.mp apart).2
    exact inductionHypothesis (advance_outside outside (ne_of_not_passes later)) later

/-- What does not stand at the location or below it is left. -/
theorem get?_erase_of_outside {erased location : Location} (outside : ¬erased <+: location) :
    (tree.erase erased).get? location = tree.get? location := by
  by_cases top : location = []
  · rw [top]
    rfl
  · rw [FileTree.get?_erase _ _ _ top, if_neg (by simpa [List.isPrefixOf_iff_prefix] using outside)]

/-- Names that do not pass an erased location lead where they led. -/
theorem walk_erase {erased here : Location} {names : List Text} (outside : ¬erased <+: here)
    (apart : passes erased here names = false) :
    walk (tree.erase erased) here names = walk tree here names := by
  induction names generalizing here with
  | nil => rfl
  | cons name rest inductionHypothesis =>
    have later := (Bool.or_eq_false_iff.mp apart).2
    have onward (next : Location) (leads : advance here name = next) :
        ¬erased <+: next ∧ walk (tree.erase erased) next rest = walk tree next rest := by
      subst leads
      have stillOutside := advance_outside outside (ne_of_not_passes later)
      exact ⟨stillOutside, inductionHypothesis stillOutside later⟩
    rw [walk, walk, FileTree.holdsDirectory, get?_erase_of_outside outside,
      ← FileTree.holdsDirectory]
    by_cases current : name = "."
    · have stays := onward here (by rw [advance, if_pos current])
      rw [if_pos current, if_pos current, stays.2]
    · by_cases upward : name = ".."
      · have rises := onward here.dropLast (by rw [advance, if_neg current, if_pos upward])
        rw [if_neg current, if_pos upward, if_neg current, if_pos upward, rises.2]
      · obtain ⟨below, same⟩ := onward (here ++ [name])
          (by rw [advance, if_neg current, if_neg upward])
        rw [if_neg current, if_neg upward, if_neg current, if_neg upward,
          get?_erase_of_outside below, same]

/-- A directory is still there when something is removed that its path does not pass. -/
theorem isDirectory_erase (plain : tree.Plain) {erased : Location} (inside : erased ≠ [])
    (apart : passes erased [] (namesOf (directory.join path).text) = false)
    (isDir : isDirectory tree directory path) : isDirectory (tree.erase erased) directory path := by
  obtain ⟨checked, arrived, held⟩ := (isDirectory_iff plain.linkFree).mp isDir
  have outside : ¬erased <+: [] := by
    intro starts
    exact inside (List.prefix_nil.mp starts)
  refine (isDirectory_iff (plain.erase erased).linkFree).mpr ⟨checked, ?_, ?_⟩
  · rw [walk_erase outside apart, arrived]
  · have placed : ¬erased <+: place directory path := foldl_advance_outside outside apart
    rw [FileTree.holdsDirectory, get?_erase_of_outside placed]
    exact held

/-- What was removed is no directory. -/
theorem not_isDirectory_erase (plain : tree.Plain) (inside : place directory path ≠ []) :
    isDirectory (tree.erase (place directory path)) directory path = false := by
  refine Bool.eq_false_iff.mpr fun isDir => ?_
  obtain ⟨-, -, held⟩ := (isDirectory_iff (plain.erase _).linkFree).mp isDir
  rw [FileTree.holdsDirectory, FileTree.get?_erase _ _ _ inside,
    if_pos (List.isPrefixOf_iff_prefix.mpr List.prefix_rfl)] at held
  cases held

/-- A text is no longer than one that starts with it. -/
theorem byteLength_append_le (first second : Text) :
    byteLength first ≤ byteLength (first ++ second) := by
  have grows (text : Text) (length : Nat) :
      length ≤ text.foldl (fun length char => length + char.utf8Size) length := by
    induction text generalizing length with
    | nil => exact Nat.le_refl length
    | cons char text inductionHypothesis =>
      exact (Nat.le_add_right length char.utf8Size).trans (inductionHypothesis _)
  rw [byteLength, byteLength, List.foldl_append]
  exact grows second _

/-- A path is accepted if it is not empty, has no zero character and is not too long. -/
theorem checkPath_eq_ok :
    checkPath path = .ok () ↔
      path.text ≠ [] ∧ Char.ofNat 0 ∉ path.text ∧ byteLength path.text ≤ maxPath := by
  rw [checkPath]
  split
  · simp [*]
  · split
    · simp_all
    · split
      · simp_all
      · simp_all

/-- The beginning of a path can be looked up if the path can. -/
theorem checkPath_of_starts {base : FilePath} (filled : base.text ≠ [])
    (starts : base.text <+: path.text) (checked : checkPath path = .ok ()) :
    checkPath base = .ok () := by
  obtain ⟨-, noNul, short⟩ := checkPath_eq_ok.mp checked
  obtain ⟨rest, whole⟩ := starts
  refine checkPath_eq_ok.mpr ⟨filled, fun nul => noNul ?_, Nat.le_trans ?_ short⟩
  · rw [← whole]
    exact List.mem_append_left rest nul
  · rw [← whole]
    exact byteLength_append_le base.text rest

/-- A path at which creating a directory changes nothing: one to a directory, or none at all. -/
def IsStanding (tree : FileTree) (directory path : FilePath) : Prop :=
  path.text = [] ∨ isDirectory tree directory path

/-- There is nothing to do for a tower of directories that stands. -/
theorem makeDirectoryTree_of_isStanding (linkFree : tree.LinkFree)
    (standing : IsStanding tree directory path) :
    makeDirectoryTree directory path tree = (.ok (), tree) := by
  rcases standing with empty | isDir
  · obtain ⟨rest, starts⟩ := ancestors_eq_cons path
    simp only [makeDirectoryTree, starts, makeDirectories, empty, if_true]
  · exact makeDirectoryTree_of_isDirectory linkFree isDir

/-- A tower stands in any plain tree with the same directories. -/
theorem SameDirectories.isStanding (same : SameDirectories tree changed) (plain : tree.Plain)
    (changedPlain : changed.Plain) (standing : IsStanding tree directory path) :
    IsStanding changed directory path := by
  rw [IsStanding, same.isDirectory_eq plain changedPlain]
  exact standing

/-- A path up to its last component leads to the same directory. -/
theorem IsStanding.trimmed (plain : tree.Plain) (standing : IsStanding tree directory path) :
    IsStanding tree directory path.trimmed := by
  rcases standing with empty | isDir
  · left
    simp [FilePath.trimmed, empty]
  · by_cases filled : path.trimmed.text = []
    · exact .inl filled
    · obtain ⟨checked, arrived, inside⟩ := (isDirectory_iff plain.linkFree).mp isDir
      obtain ⟨absolute, -, dots, names, -⟩ := sameWay_trimmed path
      have longer : namesOf (directory.join path).text =
          namesOf (directory.join path.trimmed).text ++ dots := by
        rw [namesOf_join, namesOf_join, absolute, names]
        split
        · rfl
        · rw [List.append_assoc]
      rw [longer, walk_append] at arrived
      refine .inr ((isDirectory_iff plain.linkFree).mpr
        ⟨checkPath_of_starts filled (List.take_prefix _ _) checked, ?_, ?_⟩)
      · split at arrived
        · next there walked =>
          rw [walked, eq_of_arrived walked, place]
        all_goals cases arrived
      · rw [place_trimmed]
        exact inside

/-- The directory that a path to a file gives is there. -/
theorem isStanding_of_isFile (plain : tree.Plain) {base : FilePath} {name : Text}
    (proper : IsName name) (file : isFile tree directory (base.join ⟨name⟩)) :
    IsStanding tree directory base := by
  by_cases empty : base.text = []
  · exact .inl empty
  · obtain ⟨resolved, -⟩ := resolve_of_isFile plain.linkFree file
    obtain ⟨checked, arrived⟩ := (resolve_iff plain.linkFree).mp resolved
    have starts : base.text <+: (base.join ⟨name⟩).text := by
      rw [text_join base proper.toIsSegment, joint]
      split
      · exact List.prefix_append _ _
      · rw [List.append_assoc]
        exact List.prefix_append _ _
    rw [steps_join_name directory base proper.toIsSegment, walk_append] at arrived
    split at arrived
    · next there walked =>
      obtain rfl : there = place directory base := eq_of_arrived walked
      refine .inr ((isDirectory_iff plain.linkFree).mpr
        ⟨checkPath_of_starts empty starts checked, walked, ?_⟩)
      rw [walk] at arrived
      split at arrived
      · cases arrived
      · next inside => simpa using inside
    all_goals cases arrived

end PyxProject.Files
