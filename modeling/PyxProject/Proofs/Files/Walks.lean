import PyxProject.Files.Operation
import PyxProject.Proofs.Text.Pieces

/-!
# Where names lead after a change

A path passes through directories and links only. So a change that leaves the
directories and the links alone (`KeepsPassages`) does not change which directory a path
leads to (`trace_kept`), and a file that is then held under a last name is what the path
with that name leads to (`trace_concat`).
-/

namespace PyxProject.Files

/-- Following an append goes on from where the first names lead. -/
theorem walk_append (tree : FileTree) (here : Location) (names more : List Text) :
    walk tree here (names ++ more) =
      match walk tree here names with
      | .arrived there => walk tree there more
      | .link directory target rest => .link directory target (rest ++ more)
      | .missing directory name rest => .missing directory name (rest ++ more)
      | .failed fault => .failed fault := by
  induction names generalizing here with
  | nil => rfl
  | cons name names inductionHypothesis =>
    simp only [List.cons_append, walk]
    split
    · rfl
    · split
      · exact inductionHypothesis here
      · split
        · exact inductionHypothesis here.dropLast
        · split
          · rfl
          · cases tree.get? (here ++ [name]) with
            | none => rfl
            | some node => cases node <;> first | rfl | exact inductionHypothesis (here ++ [name])

/-- A change that keeps every directory and every link. -/
structure KeepsPassages (tree changed : FileTree) : Prop where
  directories : ∀ location, tree.holdsDirectory location → changed.holdsDirectory location
  links : ∀ location target, tree.get? location = some (.link target) →
    changed.get? location = some (.link target)

/-- A tree keeps its own passages. -/
@[refl]
theorem KeepsPassages.refl (tree : FileTree) : KeepsPassages tree tree :=
  ⟨fun _ => id, fun _ _ => id⟩

/-- A directory is passed in the changed tree as well. -/
theorem KeepsPassages.inside {tree changed : FileTree} (keeps : KeepsPassages tree changed)
    {location : Location} (inside : ¬(!tree.holdsDirectory location) = true) :
    (!changed.holdsDirectory location) = false := by
  rw [keeps.directories location (by simpa using inside), Bool.not_true]

/-- A way that goes on after these names, or ends in a directory. -/
def Progress.passes (tree : FileTree) : Progress → Prop
  | .arrived location => tree.holdsDirectory location
  | .link _ _ _ => True
  | .missing _ _ _ | .failed _ => False

/-- Nothing is passed below something that is neither a directory nor a link. -/
theorem eq_directory_of_passes {tree : FileTree} {here : Location} {names : List Text} {node : Node}
    (held : tree.get? here = some node) (passes : (walk tree here names).passes tree) :
    node = .directory := by
  have inside : tree.holdsDirectory here := by
    cases names with
    | nil => exact passes
    | cons name names =>
      cases inside : tree.holdsDirectory here with
      | true => rfl
      | false => simp [walk, inside, Progress.passes] at passes
  simpa [FileTree.holdsDirectory, held] using inside

/-- Names lead the same way as long as they pass through directories and links. -/
theorem walk_kept {tree changed : FileTree} (keeps : KeepsPassages tree changed) {here : Location}
    {names : List Text} (passes : (walk tree here names).passes tree) :
    walk changed here names = walk tree here names := by
  fun_induction walk tree here names with
  | case1 here => rfl
  | case2 here name rest outside => exact passes.elim
  | case3 here rest inside inductionHypothesis =>
    simp only [walk, keeps.inside inside, Bool.false_eq_true, if_false, if_true]
    exact inductionHypothesis passes
  | case4 here rest inside _ inductionHypothesis =>
    simp only [walk, keeps.inside inside, Bool.false_eq_true, if_false, if_true]
    exact inductionHypothesis passes
  | case5 => exact passes.elim
  | case6 => exact passes.elim
  | case7 here name rest inside notCurrent notParent fits target held =>
    simp only [walk, keeps.inside inside, Bool.false_eq_true, if_false, notCurrent, notParent, fits,
      keeps.links _ target held]
  | case8 here name rest inside notCurrent notParent fits node _ held inductionHypothesis =>
    obtain rfl : node = .directory := eq_directory_of_passes held passes
    have heldAfter : changed.get? (here ++ [name]) = some .directory := by
      simpa [FileTree.holdsDirectory] using
        keeps.directories (here ++ [name]) (by simp [FileTree.holdsDirectory, held])
    simp only [walk, keeps.inside inside, Bool.false_eq_true, if_false, notCurrent, notParent, fits,
      heldAfter]
    exact inductionHypothesis passes

/-- Where a link starts from: the root, or the directory that holds it. -/
def linkStart (directory : Location) (target : Text) : Location :=
  if target.head? = some '/' then [] else directory

/-- Something is reached by names alone, or through a first link. -/
theorem trace_eq_existing {tree : FileTree} {links : Nat} {here location : Location}
    {names : List Text} :
    trace tree links here names = .ok (.existing location) ↔
      walk tree here names = .arrived location ∨
        ∃ directory target rest fewer, walk tree here names = .link directory target rest ∧
          links = fewer + 1 ∧
          trace tree fewer (linkStart directory target) (steps target ++ rest) =
            .ok (.existing location) := by
  rw [trace.eq_def]
  cases walked : walk tree here names with
  | arrived there => simp [walked]
  | missing directory name rest => cases rest <;> simp [walked]
  | failed fault => simp [walked]
  | link directory target rest =>
    cases links with
    | zero => simp [walked]
    | succ fewer => simp [walked, linkStart, and_assoc]

/-- What holds where names lead somewhere without a link, and is carried back along links,
holds where something is reached. -/
theorem trace_induction {tree : FileTree} {location : Location}
    {motive : Nat → Location → List Text → Prop}
    (arrived : ∀ {links here names}, walk tree here names = .arrived location →
      motive links here names)
    (linked : ∀ {links here names directory target rest},
      walk tree here names = .link directory target rest →
      motive links (linkStart directory target) (steps target ++ rest) →
      motive (links + 1) here names)
    {links : Nat} {here : Location} {names : List Text}
    (traced : trace tree links here names = .ok (.existing location)) :
    motive links here names := by
  induction links generalizing here names with
  | zero =>
    obtain direct | ⟨_, _, _, _, _, impossible, _⟩ := trace_eq_existing.mp traced
    · exact arrived direct
    · cases impossible
  | succ links inductionHypothesis =>
    obtain direct | ⟨directory, target, rest, fewer, walked, same, onward⟩ :=
      trace_eq_existing.mp traced
    · exact arrived direct
    · cases same
      exact linked walked (inductionHypothesis onward)

/-- A path that leads to a directory leads there after the change. -/
theorem trace_kept {tree changed : FileTree} (keeps : KeepsPassages tree changed) {links : Nat}
    {here location : Location} {names : List Text}
    (traced : trace tree links here names = .ok (.existing location))
    (inside : tree.holdsDirectory location) :
    trace changed links here names = .ok (.existing location) := by
  refine trace_induction
    (motive := fun links here names =>
      trace changed links here names = .ok (.existing location))
    (fun {links here names} arrived => ?_)
    (fun {links here names directory target rest} linked onward => ?_) traced
  · have walked := walk_kept keeps (arrived ▸ inside : (walk tree here names).passes tree)
    exact trace_eq_existing.mpr (.inl (walked.trans arrived))
  · have walked := walk_kept keeps (linked ▸ trivial : (walk tree here names).passes tree)
    exact trace_eq_existing.mpr (.inr
      ⟨directory, target, rest, links, walked.trans linked, rfl, onward⟩)

/-- One more name leads to what the directory holds under it, if that is no link. -/
theorem trace_concat {tree : FileTree} {links : Nat} {here location : Location}
    {names : List Text} {last : Text}
    (traced : trace tree links here names = .ok (.existing location))
    (onward : walk tree location [last] = .arrived (location ++ [last])) :
    trace tree links here (names ++ [last]) = .ok (.existing (location ++ [last])) := by
  refine trace_induction
    (motive := fun links here names =>
      trace tree links here (names ++ [last]) = .ok (.existing (location ++ [last])))
    (fun arrived => ?_)
    (fun {links here names directory target rest} linked further => ?_) traced
  · exact trace_eq_existing.mpr (.inl (by simp only [walk_append, arrived, onward]))
  · refine trace_eq_existing.mpr (.inr ⟨directory, target, rest ++ [last], links, ?_, rfl, ?_⟩)
    · rw [walk_append, linked]
    · rw [← List.append_assoc]
      exact further

/-- To follow names to the end is to trace them, with the usual number of links to spare, to
something that exists. -/
theorem follow_eq_ok {tree : FileTree} {here location : Location} {names : List Text} :
    follow tree here names = .ok location ↔
      trace tree maxLinks here names = .ok (.existing location) := by
  simp only [follow, bind, Except.bind]
  cases trace tree maxLinks here names with
  | error fault => simp
  | ok reached => cases reached <;> simp [pure, Except.pure, throw, throwThe, MonadExceptOf.throw]

/-- The entry of a given name in the directory that was reached. -/
def entryIn (tree : FileTree) (parent : Location) (last : Text) (slash : Bool) :
    Except Fault Target :=
  if !tree.holdsDirectory parent then .error .notADirectory
  else if last = "." ∨ last = ".." then .ok .special
  else if maxName < byteLength last then .error .nameTooLong
  else .ok (.entry parent last slash)

/-- The last name of a path is looked for where the names before it lead. -/
theorem target_eq {tree : FileTree} {directory path : FilePath} {bare : Text} {names : List Text}
    {last : Text} (cut : Text.dropEndWhile (· == '/') (directory.join path).text = bare)
    (named : steps bare = names ++ [last]) :
    target tree directory path = (do
      checkPath path
      let parent ← follow tree [] names
      entryIn tree parent last (bare.length < (directory.join path).text.length)) := by
  simp only [target, cut, named, List.getLast?_concat, List.dropLast_concat]
  cases checkPath path with
  | error fault => rfl
  | ok _ =>
    cases follow tree [] names with
    | error fault => rfl
    | ok parent =>
      simp only [entryIn, bind, Except.bind]
      split
      · rfl
      · split
        · rfl
        · split <;> rfl

/-- What is known of a path that names an entry and has no slash at its end. -/
structure NamesEntry (tree : FileTree) (directory path : FilePath) (parent : Location)
    (name : Text) : Prop where
  checked : checkPath path = .ok ()
  inside : tree.holdsDirectory parent
  ordinary : ¬(name = "." ∨ name = "..")
  fits : ¬maxName < byteLength name
  reached : ∃ names, steps (directory.join path).text = names ++ [name] ∧
    follow tree [] names = .ok parent

/-- An entry is named in a directory only, and only by a name that is ordinary and not too long.
-/
theorem entryIn_eq_entry {tree : FileTree} {reached parent : Location} {last name : Text}
    {slash slashed : Bool} (named : entryIn tree reached last slash = .ok (.entry parent name slashed)) :
    (reached = parent ∧ last = name ∧ slash = slashed) ∧ tree.holdsDirectory reached ∧
      ¬(last = "." ∨ last = "..") ∧ ¬maxName < byteLength last := by
  simp only [entryIn] at named
  split at named
  · cases named
  · next inside =>
    split at named
    · cases named
    · next ordinary =>
      split at named
      · cases named
      · next fits =>
        cases named
        exact ⟨⟨rfl, rfl, rfl⟩, by simpa using inside, ordinary, fits⟩

/-- A path that names an entry ends in its name, but for slashes, behind names that lead to its
directory. -/
theorem target_eq_entry {tree : FileTree} {directory path : FilePath} {parent : Location}
    {name : Text} {slash : Bool}
    (named : target tree directory path = .ok (.entry parent name slash)) :
    (checkPath path = .ok () ∧ tree.holdsDirectory parent ∧ ¬(name = "." ∨ name = "..") ∧
      ¬maxName < byteLength name) ∧
    (slash ↔ (Text.dropEndWhile (· == '/') (directory.join path).text).length <
      (directory.join path).text.length) ∧
    ∃ names, steps (Text.dropEndWhile (· == '/') (directory.join path).text) = names ++ [name] ∧
      follow tree [] names = .ok parent := by
  generalize cut : Text.dropEndWhile (· == '/') (directory.join path).text = bare
  cases checked : checkPath path with
  | error fault => simp [target, checked, bind, Except.bind] at named
  | ok _ =>
    rcases List.eq_nil_or_concat' (steps bare) with empty | ⟨names, last, ends⟩
    · simp [target, checked, cut, empty, bind, Except.bind, pure, Except.pure] at named
    · rw [target_eq cut ends, checked] at named
      cases followed : follow tree [] names with
      | error fault => simp [followed, bind, Except.bind] at named
      | ok reached =>
        rw [followed] at named
        obtain ⟨⟨rfl, rfl, rfl⟩, inside, ordinary, fits⟩ := entryIn_eq_entry named
        exact ⟨⟨rfl, inside, ordinary, fits⟩, decide_eq_true_iff, names, ends, followed⟩

/-- A target that is an entry without a slash behind its name is named by the path: nothing was
cut off, so the names are those of the whole path. -/
theorem namesEntry_of_target {tree : FileTree} {directory path : FilePath} {parent : Location}
    {name : Text} (named : target tree directory path = .ok (.entry parent name false)) :
    NamesEntry tree directory path parent name := by
  obtain ⟨⟨checked, inside, ordinary, fits⟩, slashed, names, ends, followed⟩ :=
    target_eq_entry named
  obtain ⟨dropped, whole, _⟩ :=
    Text.rdropWhile_append (· == '/') (directory.join path).text
  have nothing : dropped = [] := by
    have lengths := congrArg List.length whole
    rw [List.length_append, ← Text.dropEndWhile_eq_rdropWhile] at lengths
    have short := mt slashed.mpr Bool.false_ne_true
    exact List.eq_nil_of_length_eq_zero (by omega)
  rw [nothing, List.append_nil] at whole
  exact ⟨checked, inside, ordinary, fits, names, whole ▸ ends, followed⟩

/-- Where one ordinary name leads from a directory. -/
theorem walk_name {tree : FileTree} {parent : Location} {name : Text}
    (inside : tree.holdsDirectory parent) (ordinary : ¬(name = "." ∨ name = "..")) :
    walk tree parent [name] =
      if maxName < byteLength name then .failed .nameTooLong
      else match tree.get? (parent ++ [name]) with
        | none => .missing parent name []
        | some (.link target) => .link parent target []
        | some _ => .arrived (parent ++ [name]) := by
  rw [not_or] at ordinary
  have held : (!tree.holdsDirectory parent) ≠ true := by simp [inside]
  rw [walk, if_neg held, if_neg ordinary.1, if_neg ordinary.2]
  rfl

/-- A directory that holds something other than a link under an ordinary name leads to it. -/
theorem walk_entry {tree : FileTree} {parent : Location} {name : Text} {node : Node}
    (inside : tree.holdsDirectory parent) (ordinary : ¬(name = "." ∨ name = ".."))
    (fits : ¬maxName < byteLength name) (held : tree.get? (parent ++ [name]) = some node)
    (noLink : ∀ target, node ≠ .link target) :
    walk tree parent [name] = .arrived (parent ++ [name]) := by
  simp only [walk_name inside ordinary, fits, if_false, held]

/-- A path that named an entry leads to what a change has put there, unless that is a
link. -/
theorem resolve_of_namesEntry {tree changed : FileTree} (keeps : KeepsPassages tree changed)
    {directory path : FilePath} {parent : Location} {name : Text}
    (named : NamesEntry tree directory path parent name) {node : Node}
    (held : changed.get? (parent ++ [name]) = some node) (noLink : ∀ target, node ≠ .link target) :
    resolve changed directory path = .ok (parent ++ [name]) := by
  obtain ⟨names, ends, followed⟩ := named.reached
  have traced := trace_kept keeps (follow_eq_ok.mp followed) named.inside
  have onward := walk_entry (keeps.directories parent named.inside) named.ordinary named.fits held
    noLink
  have reached := follow_eq_ok.mpr (trace_concat traced onward)
  simp only [resolve, named.checked, ends, reached, bind, Except.bind]

/-- Putting a file where neither a directory nor a link is keeps all passages. -/
theorem keepsPassages_put {tree : FileTree} {location : Location}
    (noDirectory : ¬tree.holdsDirectory location)
    (noLink : ∀ target, tree.get? location ≠ some (.link target)) (node : Node) :
    KeepsPassages tree (tree.put location node) where
  directories other inside := by
    have different : other ≠ location := by
      rintro rfl
      exact noDirectory inside
    rwa [FileTree.holdsDirectory, tree.get?_put_of_ne different]
  links other target held := by
    have different : other ≠ location := by
      rintro rfl
      exact noLink target held
    rw [tree.get?_put_of_ne different, held]

end PyxProject.Files
