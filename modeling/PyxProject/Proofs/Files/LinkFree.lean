import PyxProject.Proofs.Files.PathNames
import PyxProject.Proofs.Files.Walks

/-!
# Trees without links

In a tree without links a path leads to its place, or nowhere. So what a path resolves to
(`resolve_place`) and the entry that it names (`target_place`) are known from its text. A path
that resolves to something other than a directory names it (`namesEntry_of_resolve`), and where
a file can be copied it can also be renamed (`rename_of_copyFile`).
-/

namespace PyxProject.Files

open FilePath

/-- Whether a node is a symbolic link. -/
def Node.isLink : Node → Bool
  | .link _ => true
  | _ => false

/-- A regular file is neither a directory nor a link. -/
theorem Node.plain_of_isRegular {node : Node} (regular : node.isRegular) :
    node ≠ .directory ∧ node.isLink = false := by
  cases node with
  | file | program => exact ⟨nofun, rfl⟩
  | directory | link | device => cases regular

/-- A tree without symbolic links. -/
def FileTree.LinkFree (tree : FileTree) : Prop := ∀ entry ∈ tree.entries, entry.2.isLink = false

/-- Whether a tree has links is found by going through its entries. -/
instance (tree : FileTree) : Decidable tree.LinkFree :=
  inferInstanceAs (Decidable (∀ entry ∈ tree.entries, entry.2.isLink = false))

/-- No location of a tree without links holds one. -/
theorem FileTree.LinkFree.get? {tree : FileTree} (linkFree : tree.LinkFree) (location : Location)
    (target : Text) : tree.get? location ≠ some (.link target) := by
  intro held
  have inside : location ≠ [] := by
    rintro rfl
    simp [FileTree.get?] at held
  cases linkFree _ (FileTree.mem_entries_of_get? inside held)

/-- A walk that arrives arrives where the names lead by themselves. -/
theorem eq_of_arrived {tree : FileTree} {here location : Location} {names : List Text}
    (arrived : walk tree here names = .arrived location) : location = names.foldl advance here := by
  fun_induction walk tree here names with
  | case1 here => exact (Progress.arrived.inj arrived).symm
  | case2 => cases arrived
  | case3 here rest inside inductionHypothesis => exact inductionHypothesis arrived
  | case4 here rest inside notCurrent inductionHypothesis =>
    rw [List.foldl_cons, advance, if_neg notCurrent, if_pos rfl]
    exact inductionHypothesis arrived
  | case5 => cases arrived
  | case6 => cases arrived
  | case7 => cases arrived
  | case8 here name rest inside notCurrent notParent fits node notLink held inductionHypothesis =>
    rw [List.foldl_cons, advance, if_neg notCurrent, if_neg notParent]
    exact inductionHypothesis arrived

/-- Names that lead somewhere are not too long. -/
theorem fits_of_arrived {tree : FileTree} {here location : Location} {names : List Text}
    (arrived : walk tree here names = .arrived location) :
    ∀ name ∈ names, byteLength name ≤ maxName := by
  fun_induction walk tree here names with
  | case1 here => simp
  | case2 => cases arrived
  | case3 here rest inside inductionHypothesis =>
    exact List.forall_mem_cons.mpr ⟨by decide, inductionHypothesis arrived⟩
  | case4 here rest inside notCurrent inductionHypothesis =>
    exact List.forall_mem_cons.mpr ⟨by decide, inductionHypothesis arrived⟩
  | case5 => cases arrived
  | case6 => cases arrived
  | case7 => cases arrived
  | case8 here name rest inside notCurrent notParent fits node notLink held inductionHypothesis =>
    exact List.forall_mem_cons.mpr ⟨by omega, inductionHypothesis arrived⟩

/-- A slash at the end of a path to a directory leads nowhere else. -/
theorem walk_steps_iff {tree : FileTree} {here location : Location} {text : Text}
    (inside : tree.holdsDirectory location) :
    walk tree here (steps text) = .arrived location ↔
      walk tree here (namesOf text) = .arrived location := by
  rw [steps, namesOf]
  split
  · rw [List.concat_eq_append, walk_append]
    constructor
    · intro arrived
      split at arrived
      · next there walked =>
        simp only [walk] at arrived
        split at arrived
        · cases arrived
        · rw [walked]
          simpa using arrived
      all_goals cases arrived
    · intro arrived
      rw [arrived]
      simp [walk, inside]
  · exact Iff.rfl

section LinkFree

variable {tree : FileTree} (linkFree : tree.LinkFree)
include linkFree

/-- No walk is stopped by a link where there is none. -/
theorem walk_ne_link (here : Location) (names : List Text) (directory : Location) (target : Text)
    (rest : List Text) : walk tree here names ≠ .link directory target rest := by
  intro linked
  fun_induction walk tree here names with
  | case1 here => cases linked
  | case2 => cases linked
  | case3 here rest inside inductionHypothesis => exact inductionHypothesis linked
  | case4 here rest inside notCurrent inductionHypothesis => exact inductionHypothesis linked
  | case5 => cases linked
  | case6 => cases linked
  | case7 here name rest inside notCurrent notParent fits target held =>
    exact linkFree.get? _ _ held
  | case8 here name rest inside notCurrent notParent fits node notLink held inductionHypothesis =>
    exact inductionHypothesis linked

/-- Without links something is reached by names alone. -/
theorem trace_existing_iff {links : Nat} {here location : Location} {names : List Text} :
    trace tree links here names = .ok (.existing location) ↔
      walk tree here names = .arrived location := by
  rw [trace_eq_existing]
  constructor
  · rintro (arrived | ⟨directory, target, rest, fewer, linked, -⟩)
    · exact arrived
    · exact absurd linked (walk_ne_link linkFree _ _ _ _ _)
  · exact .inl

/-- Following names is walking along them, as no link is ever taken up. -/
theorem follow_iff {here location : Location} {names : List Text} :
    follow tree here names = .ok location ↔ walk tree here names = .arrived location := by
  rw [follow_eq_ok, trace_existing_iff linkFree]

end LinkFree

/-- A path resolves to where its steps arrive. -/
theorem resolve_iff {tree : FileTree} (linkFree : tree.LinkFree) {directory path : FilePath}
    {location : Location} :
    resolve tree directory path = .ok location ↔
      checkPath path = .ok () ∧
        walk tree [] (steps (directory.join path).text) = .arrived location := by
  rw [resolve]
  cases checkPath path with
  | error fault => simp [bind, Except.bind]
  | ok _ => simpa [bind, Except.bind] using follow_iff linkFree

/-- A path that resolves leads to its place. -/
theorem resolve_place {tree : FileTree} (linkFree : tree.LinkFree) {directory path : FilePath}
    {location : Location} (resolved : resolve tree directory path = .ok location) :
    location = place directory path := by
  rw [eq_of_arrived ((resolve_iff linkFree).mp resolved).2, foldl_advance_steps, place]

/-- A path that leads to a file leads to its place. -/
theorem resolve_of_isFile {tree : FileTree} (linkFree : tree.LinkFree) {directory path : FilePath}
    (file : isFile tree directory path) :
    resolve tree directory path = .ok (place directory path) ∧
      tree.holdsFile (place directory path) := by
  rw [isFile_eq, node?] at file
  cases resolved : resolve tree directory path with
  | error fault => simp [resolved] at file
  | ok location =>
    obtain rfl := resolve_place linkFree resolved
    rw [resolved] at file
    exact ⟨rfl, file⟩

/-- What is read of a node. -/
def Node.content : Node → ByteArray
  | .file content _ => content
  | _ => ByteArray.empty

/-- What is read of a path is the content of the file that it leads to. -/
theorem readBytes_of_resolve {tree : FileTree} {directory path : FilePath} {location : Location}
    {node : Node} (resolved : resolve tree directory path = .ok location)
    (held : tree.get? location = some node) (regular : node.isRegular) :
    readBytes tree directory path = .ok node.content := by
  simp only [readBytes, resolved, bind, Except.bind, held]
  cases node <;> first | rfl | cases regular

/-- What an entry that a path names says about the names of the path. -/
theorem names_of_target {tree : FileTree} (linkFree : tree.LinkFree) {directory path : FilePath}
    {parent : Location} {name : Text} {slash : Bool}
    (named : target tree directory path = .ok (.entry parent name slash)) :
    checkPath path = .ok () ∧ ∃ names, namesOf (directory.join path).text = names ++ [name] ∧
      walk tree [] names = .arrived parent ∧ tree.holdsDirectory parent ∧
      ¬(name = "." ∨ name = "..") ∧ ¬maxName < byteLength name := by
  obtain ⟨⟨checked, inside, ordinary, fits⟩, -, names, ends, followed⟩ := target_eq_entry named
  rw [steps_bare] at ends
  exact ⟨checked, names, ends, (follow_iff linkFree).mp followed, inside, ordinary, fits⟩

/-- What a path names is held, if at all, at its place, and its directory is there. -/
theorem target_place {tree : FileTree} (linkFree : tree.LinkFree) {directory path : FilePath}
    {parent : Location} {name : Text} {slash : Bool}
    (named : target tree directory path = .ok (.entry parent name slash)) :
    parent ++ [name] = place directory path ∧ tree.holdsDirectory parent ∧ IsName name := by
  obtain ⟨-, names, ends, arrived, inside, ordinary, -⟩ := names_of_target linkFree named
  have proper := not_or.mp ordinary
  have member : name ∈ namesOf (directory.join path).text := by
    rw [ends]
    simp
  refine ⟨?_, inside, isName_of_mem_namesOf member ordinary⟩
  rw [place, ends, List.foldl_concat, ← eq_of_arrived arrived, advance, if_neg proper.1,
    if_neg proper.2]

/-- Names that lead to something other than a directory end in a name in a directory. -/
theorem ends_of_arrived {tree : FileTree} (closed : tree.Closed) {names : List Text}
    {location : Location} (arrived : walk tree [] names = .arrived location)
    (noDirectory : ¬tree.holdsDirectory location) :
    ∃ (front : List Text) (parent : Location) (name : Text), names = front ++ [name] ∧
      walk tree [] front = .arrived parent ∧ tree.holdsDirectory parent ∧
      ¬(name = "." ∨ name = "..") ∧ ¬maxName < byteLength name ∧
      location = parent ++ [name] := by
  rcases List.eq_nil_or_concat' names with rfl | ⟨front, name, rfl⟩
  · cases arrived
    exact absurd (by simp [FileTree.holdsDirectory, FileTree.get?]) noDirectory
  · rw [walk_append] at arrived
    cases reached : walk tree [] front with
    | link directory target rest => simp [reached] at arrived
    | missing directory name rest => simp [reached] at arrived
    | failed fault => simp [reached] at arrived
    | arrived parent =>
      simp only [reached] at arrived
      have inside : tree.holdsDirectory parent := by
        refine Decidable.byContradiction fun outside => ?_
        simp [walk, outside] at arrived
      have ordinary : ¬(name = "." ∨ name = "..") := by
        rintro (rfl | rfl)
        · obtain rfl : parent = location := by simpa [walk, inside] using arrived
          exact noDirectory inside
        · obtain rfl : parent.dropLast = location := by simpa [walk, inside] using arrived
          exact noDirectory ((closed.reaches inside).directories _ (List.dropLast_prefix parent))
      rw [walk_name inside ordinary] at arrived
      split at arrived
      · cases arrived
      · next fits =>
        refine ⟨front, parent, name, rfl, reached, inside, ordinary, fits, ?_⟩
        split at arrived <;> cases arrived
        rfl

/-- Names of which the last is missing lead to a directory before it. -/
theorem ends_of_missing {tree : FileTree} {names : List Text} {directory : Location} {name : Text}
    (missing : walk tree [] names = .missing directory name []) :
    ∃ front, names = front ++ [name] ∧ walk tree [] front = .arrived directory ∧
      tree.holdsDirectory directory ∧ ¬(name = "." ∨ name = "..") ∧ ¬maxName < byteLength name ∧
      tree.get? (directory ++ [name]) = none := by
  rcases List.eq_nil_or_concat' names with rfl | ⟨front, last, rfl⟩
  · cases missing
  · rw [walk_append] at missing
    cases reached : walk tree [] front with
    | link directory target rest => simp [reached] at missing
    | missing directory name rest => simp [reached] at missing
    | failed fault => simp [reached] at missing
    | arrived parent =>
      simp only [reached] at missing
      have inside : tree.holdsDirectory parent := by
        refine Decidable.byContradiction fun outside => ?_
        simp [walk, outside] at missing
      have ordinary : ¬(last = "." ∨ last = "..") := by
        rintro (rfl | rfl) <;> simp [walk, inside] at missing
      rw [walk_name inside ordinary] at missing
      split at missing
      · cases missing
      · next fits =>
        split at missing <;> cases missing
        next absent => exact ⟨front, rfl, reached, inside, ordinary, fits, absent⟩

/-- A path that resolves to something other than a directory names it. -/
theorem namesEntry_of_resolve {tree : FileTree} (closed : tree.Closed) (linkFree : tree.LinkFree)
    {directory path : FilePath} {location : Location}
    (resolved : resolve tree directory path = .ok location)
    (noDirectory : ¬tree.holdsDirectory location) :
    ∃ parent name, NamesEntry tree directory path parent name ∧ parent ++ [name] = location := by
  obtain ⟨checked, arrived⟩ := (resolve_iff linkFree).mp resolved
  obtain ⟨front, parent, name, named, reached, inside, ordinary, fits, rfl⟩ :=
    ends_of_arrived closed arrived noDirectory
  exact ⟨parent, name,
    ⟨checked, inside, ordinary, fits, front, named, (follow_iff linkFree).mpr reached⟩, rfl⟩

/-- A path that leads to something other than a directory, or to the place of a missing name,
names an entry. -/
theorem namesEntry_of_destination {tree : FileTree} (closed : tree.Closed)
    (linkFree : tree.LinkFree) {directory path : FilePath} {reached : Destination}
    (leads : destination tree directory path = .ok reached)
    (free : ∀ location, reached = .existing location → ¬tree.holdsDirectory location) :
    ∃ parent name, NamesEntry tree directory path parent name ∧
      ¬tree.holdsDirectory (parent ++ [name]) := by
  rw [destination] at leads
  cases checked : checkPath path with
  | error fault => simp [checked, bind, Except.bind] at leads
  | ok _ =>
    simp only [checked, bind, Except.bind] at leads
    cases reached with
    | existing location =>
      have arrived := (trace_existing_iff linkFree).mp leads
      have noDirectory := free location rfl
      obtain ⟨parent, name, named, rfl⟩ := namesEntry_of_resolve closed linkFree
        ((resolve_iff linkFree).mpr ⟨checked, arrived⟩) noDirectory
      exact ⟨parent, name, named, noDirectory⟩
    | vacant parent name =>
      have missing : walk tree [] (steps (directory.join path).text) = .missing parent name [] := by
        rw [trace.eq_def] at leads
        cases walked : walk tree [] (steps (directory.join path).text) with
        | arrived location => simp [walked] at leads
        | failed fault => simp [walked] at leads
        | link directory target rest => exact absurd walked (walk_ne_link linkFree _ _ _ _ _)
        | missing directory name rest => cases rest <;> simp_all
      obtain ⟨front, named, reached, inside, ordinary, fits, absent⟩ := ends_of_missing missing
      refine ⟨parent, name, ⟨checked, inside, ordinary, fits, front, named,
        (follow_iff linkFree).mpr reached⟩, ?_⟩
      simp [FileTree.holdsDirectory, absent]

/-- A path that names an entry is the target that it names. -/
theorem NamesEntry.target_eq {tree : FileTree} {directory path : FilePath} {parent : Location}
    {name : Text} (named : NamesEntry tree directory path parent name) :
    target tree directory path = .ok (.entry parent name false) := by
  obtain ⟨front, ends, followed⟩ := named.reached
  have noSlash : (directory.join path).text.getLast? ≠ some '/' := by
    intro slash
    rw [steps, if_pos slash, List.concat_eq_append] at ends
    obtain ⟨-, same⟩ := List.append_inj' ends rfl
    exact named.ordinary (.inl (List.singleton_inj.mp same).symm)
  have bare : Text.dropEndWhile (· == '/') (directory.join path).text =
      (directory.join path).text := by
    obtain ⟨dropped, whole, slashes⟩ :=
      Text.rdropWhile_append (· == '/') (directory.join path).text
    rcases List.eq_nil_or_concat' dropped with rfl | ⟨before, last, rfl⟩
    · rw [List.append_nil] at whole
      exact whole.symm
    · have final : last = '/' := by simpa using slashes last (by simp)
      rw [whole, ← List.append_assoc, List.getLast?_concat, final] at noSlash
      exact absurd rfl noSlash
  rw [Files.target_eq bare ends, named.checked, followed]
  simp only [bind, Except.bind, entryIn, named.inside, Bool.not_true, Bool.false_eq_true, if_false,
    if_neg named.ordinary, if_neg named.fits, Nat.lt_irrefl, decide_false]

/-- An entry that is no directory may be replaced. -/
theorem replaceable_of_namesEntry {tree : FileTree} {directory path : FilePath} {parent : Location}
    {name : Text} (named : NamesEntry tree directory path parent name)
    (noDirectory : ¬tree.holdsDirectory (parent ++ [name])) :
    replaceable tree directory path = .ok (parent ++ [name]) := by
  simp [replaceable, named.target_eq, noDirectory, bind, Except.bind, pure, Except.pure]

/-- What can be replaced is at the place of the path that names it. -/
theorem namesEntry_of_replaceable {tree : FileTree} (linkFree : tree.LinkFree)
    {directory path : FilePath} {location : Location}
    (replaced : replaceable tree directory path = .ok location) :
    location = place directory path ∧ ¬tree.holdsDirectory location ∧
      ∃ parent name, NamesEntry tree directory path parent name ∧ IsName name ∧
        parent ++ [name] = location := by
  simp only [replaceable, bind, Except.bind] at replaced
  cases named : target tree directory path with
  | error fault => simp [named] at replaced
  | ok entry =>
    cases entry with
    | special => simp [named] at replaced
    | entry parent name slash =>
      cases slash with
      | true => simp [named] at replaced
      | false =>
        simp only [named, Bool.false_eq_true, if_false] at replaced
        split at replaced
        · cases replaced
        · next noDirectory =>
          cases replaced
          obtain ⟨whole, -, proper⟩ := target_place linkFree named
          exact ⟨whole, noDirectory, parent, name, namesEntry_of_target named, proper, rfl⟩

/-- What a file is renamed to. -/
theorem rename_eq_ok {tree changed : FileTree} (linkFree : tree.LinkFree)
    {directory source destination : FilePath}
    (renamed : rename tree directory source destination = .ok changed) :
    ∃ node parent name, tree.get? (place directory source) = some node ∧ node ≠ .directory ∧
      NamesEntry tree directory destination parent name ∧ IsName name ∧
      parent ++ [name] = place directory destination ∧
      ¬tree.holdsDirectory (place directory destination) ∧
      changed = if place directory destination = place directory source then tree
        else (tree.erase (place directory source)).put (place directory destination) node := by
  simp only [rename, bind, Except.bind] at renamed
  cases replaced : replaceable tree directory source with
  | error fault => simp [replaced] at renamed
  | ok origin =>
    obtain ⟨rfl, noDirectory, -⟩ := namesEntry_of_replaceable linkFree replaced
    simp only [replaced] at renamed
    cases held : tree.get? (place directory source) with
    | none => simp [held] at renamed
    | some node =>
      simp only [held] at renamed
      cases goal : replaceable tree directory destination with
      | error fault => simp [goal] at renamed
      | ok location =>
        obtain ⟨rfl, free, parent, name, named, proper, whole⟩ :=
          namesEntry_of_replaceable linkFree goal
        simp only [goal] at renamed
        refine ⟨node, parent, name, rfl, ?_, named, proper, whole, free, ?_⟩
        · rintro rfl
          exact noDirectory (by simp [FileTree.holdsDirectory, held])
        · split at renamed
          · next same => rw [if_pos same]; exact (Except.ok.inj renamed).symm
          · next different => rw [if_neg different]; exact (Except.ok.inj renamed).symm

/-- What is written through a path lands at an entry that can be replaced. -/
theorem replaceable_of_writeThrough {tree changed : FileTree} (closed : tree.Closed)
    (linkFree : tree.LinkFree) {directory path : FilePath} {written : Option Node → Node}
    (writes : writeThrough tree directory path written = .ok changed) :
    ∃ location, replaceable tree directory path = .ok location := by
  simp only [writeThrough, bind, Except.bind] at writes
  cases leads : destination tree directory path with
  | error fault => simp [leads] at writes
  | ok reached =>
    obtain ⟨parent, name, named, free⟩ := namesEntry_of_destination closed linkFree leads (by
      rintro location rfl inside
      have held : tree.get? location = some .directory := by
        simpa [FileTree.holdsDirectory] using inside
      simp [leads, held] at writes)
    exact ⟨_, replaceable_of_namesEntry named free⟩

/-- Where a file can be copied it can be renamed. -/
theorem rename_of_copyFile {tree copied : FileTree} (closed : tree.Closed)
    (linkFree : tree.LinkFree) {directory source destination : FilePath}
    (copies : copyFile tree directory source destination = .ok copied) :
    ∃ changed, rename tree directory source destination = .ok changed := by
  simp only [copyFile, bind, Except.bind] at copies
  cases resolved : resolve tree directory source with
  | error fault => simp [resolved] at copies
  | ok origin =>
    simp only [resolved] at copies
    obtain ⟨node, held, regular, written, writes⟩ : ∃ node, tree.get? origin = some node ∧
        node ≠ .directory ∧
        ∃ written, writeThrough tree directory destination written = .ok copied := by
      cases held : tree.get? origin with
      | none => simp [held] at copies
      | some node =>
        cases node with
        | file content executable => exact ⟨_, rfl, by simp, _, by simpa [held] using copies⟩
        | program program => exact ⟨_, rfl, by simp, _, by simpa [held] using copies⟩
        | directory => simp [held] at copies
        | link target => simp [held] at copies
        | device => simp [held] at copies
    have noDirectory : ¬tree.holdsDirectory origin := by
      simpa [FileTree.holdsDirectory, held] using regular
    obtain ⟨parent, name, named, rfl⟩ := namesEntry_of_resolve closed linkFree resolved noDirectory
    obtain ⟨goal, replaced⟩ := replaceable_of_writeThrough closed linkFree writes
    simp only [rename, replaceable_of_namesEntry named noDirectory, held, replaced, bind,
      Except.bind]
    split <;> exact ⟨_, rfl⟩

end PyxProject.Files
