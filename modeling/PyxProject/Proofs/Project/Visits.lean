import PyxProject.Project.Search
import PyxProject.Proofs.Files.Trees

/-!
# What is met on a visit

A visit passes over what lies below a directory that it does not enter, and remembers only
the last such directory. Because entries stand in order that is enough: a source is met
exactly if every directory on the way to it is entered (`source_mem_visit_iff`). So a search
meets the regular files with the extension of sources that lie below no barred directory
(`source_mem_encounters_iff`), in the order of their locations (`sources_sublist`).
-/

namespace PyxProject.Project

open Files

/-- What is met at one entry. -/
def metAt (judge : Location → Verdict) (location : Location) : Node → List Encounter
  | .directory =>
    match judge location with
    | .skipEnvironment => [.environment location]
    | .enter | .skip => []
  | node =>
    if node.isRegular && isSourceName (location.getLast?.getD []) then [.source location] else []

/-- What is remembered after an entry: a directory that is not entered. -/
def barrierAt (judge : Location → Verdict) (location : Location) : Node → Option Location
  | .directory => if judge location = .enter then none else some location
  | _ => none

/-- An entry outside of what is remembered is met, and then what follows it. -/
theorem visit_cons (judge : Location → Verdict) (closed? : Option Location) (location : Location)
    (node : Node) (rest : List Entry) :
    visit judge closed? ((location, node) :: rest) =
      if closed?.any fun closed => closed.isPrefixOf location then visit judge closed? rest
      else metAt judge location node ++ visit judge (barrierAt judge location node) rest := by
  simp only [visit]
  split
  · rfl
  · cases node with
    | directory => cases verdict : judge location <;> simp [metAt, barrierAt, verdict]
    | file content executable => simp only [metAt, barrierAt, Node.isRegular]; split <;> simp_all
    | program program => simp only [metAt, barrierAt, Node.isRegular]; split <;> simp_all
    | link target => rfl
    | device => rfl

/-- A source is met at an entry exactly if the entry is a regular file with the name of a source.
-/
theorem source_mem_metAt {judge : Location → Verdict} {location start : Location} {node : Node} :
    Encounter.source location ∈ metAt judge start node ↔
      location = start ∧ node.isRegular ∧ isSourceName (location.getLast?.getD []) := by
  cases node with
  | directory => cases verdict : judge start <;> simp [metAt, verdict, Node.isRegular]
  | link target => simp [metAt, Node.isRegular]
  | device => simp [metAt, Node.isRegular]
  | file content executable => simp only [metAt]; split <;> simp_all
  | program program => simp only [metAt]; split <;> simp_all

/-- A source among entries that is outside of a remembered directory and to which every
directory on the way is entered. -/
structure IsMet (judge : Location → Verdict) (closed? : Option Location) (entries : List Entry)
    (location : Location) : Prop where
  held : ∃ node, (location, node) ∈ entries ∧ node.isRegular
  named : isSourceName (location.getLast?.getD [])
  outside : ∀ closed ∈ closed?, ¬closed <+: location
  entered : ∀ passed, (passed, .directory) ∈ entries → passed <+: location → judge passed = .enter

/-- Below a remembered directory nothing is met. -/
theorem isMet_cons_of_under {judge : Location → Verdict} {closed start location : Location}
    {node : Node} {rest : List Entry} (starts : closed <+: start) :
    IsMet judge (some closed) ((start, node) :: rest) location ↔
      IsMet judge (some closed) rest location := by
  constructor
  · rintro ⟨⟨held, member, regular⟩, named, outside, entered⟩
    refine ⟨⟨held, ?_, regular⟩, named, outside, fun passed inside =>
      entered passed (List.mem_cons_of_mem _ inside)⟩
    rcases List.mem_cons.mp member with same | later
    · cases same
      exact absurd starts (outside closed rfl)
    · exact later
  · rintro ⟨⟨held, member, regular⟩, named, outside, entered⟩
    refine ⟨⟨held, List.mem_cons_of_mem _ member, regular⟩, named, outside, ?_⟩
    intro passed inside onWay
    rcases List.mem_cons.mp inside with same | later
    · cases same
      exact absurd (starts.trans onWay) (outside closed rfl)
    · exact entered passed later onWay

/-- What stands later is not on the way. -/
theorem not_isPrefix_of_lt {start later : Location} (before : start < later) :
    ¬later <+: start := by
  rintro ⟨rest, rfl⟩
  exact List.not_lt.mpr (List.le_append_left) before

/-- At an entry outside of what is remembered a source is met, or later. -/
theorem isMet_cons {judge : Location → Verdict} {closed? : Option Location}
    {start location : Location} {node : Node} {rest : List Entry}
    (ordered : Ordered ((start, node) :: rest)) (before : ∀ closed ∈ closed?, closed < start)
    (outside : ∀ closed ∈ closed?, ¬closed <+: start) :
    IsMet judge closed? ((start, node) :: rest) location ↔
      (location = start ∧ node.isRegular ∧ isSourceName (location.getLast?.getD [])) ∨
        IsMet judge (barrierAt judge start node) rest location := by
  have later := (List.pairwise_cons.mp ordered).1
  constructor
  · rintro ⟨⟨held, member, regular⟩, named, -, entered⟩
    rcases List.mem_cons.mp member with same | member
    · cases same
      exact .inl ⟨rfl, regular, named⟩
    · refine .inr ⟨⟨held, member, regular⟩, named, fun closed same starts => ?_,
        fun passed inside => entered passed (List.mem_cons_of_mem _ inside)⟩
      cases node with
      | directory =>
        obtain ⟨notEntered, rfl⟩ : judge start ≠ .enter ∧ start = closed := by
          simpa [barrierAt] using same
        exact notEntered (entered start List.mem_cons_self starts)
      | _ => cases same
  · rintro (⟨rfl, regular, named⟩ | ⟨⟨held, member, regular⟩, named, free, entered⟩)
    · refine ⟨⟨node, List.mem_cons_self, regular⟩, named, outside, fun passed inside onWay => ?_⟩
      rcases List.mem_cons.mp inside with same | member
      · cases same
        cases regular
      · exact absurd onWay (not_isPrefix_of_lt (later _ member))
    · refine ⟨⟨held, List.mem_cons_of_mem _ member, regular⟩, named, fun closed same starts => ?_,
        fun passed inside onWay => ?_⟩
      · exact outside closed same (isPrefix_of_between (before closed same) (later _ member) starts)
      · rcases List.mem_cons.mp inside with same | member
        · cases same
          refine Decidable.byContradiction fun notEntered => ?_
          exact free start (by simp [barrierAt, notEntered]) onWay
        · exact entered passed member onWay

/-- Only the entry itself is remembered after an entry. -/
theorem eq_of_mem_barrierAt {judge : Location → Verdict} {start closed : Location} {node : Node}
    (remembered : closed ∈ barrierAt judge start node) : closed = start := by
  cases node with
  | directory =>
    simp only [barrierAt] at remembered
    split at remembered
    · cases remembered
    · exact (Option.some.inj remembered).symm
  | _ => cases remembered

/-- Visiting meets the sources to which the way is open, and no others. -/
theorem source_mem_visit_iff {judge : Location → Verdict} {closed? : Option Location}
    {entries : List Entry} (ordered : Ordered entries)
    (before : ∀ closed ∈ closed?, ∀ entry ∈ entries, closed < entry.1) {location : Location} :
    Encounter.source location ∈ visit judge closed? entries ↔
      IsMet judge closed? entries location := by
  induction entries generalizing closed? with
  | nil => exact ⟨nofun, fun met => by simpa using met.held⟩
  | cons entry rest inductionHypothesis =>
    obtain ⟨start, node⟩ := entry
    obtain ⟨first, restOrdered⟩ := List.pairwise_cons.mp ordered
    rw [visit_cons]
    split
    · next under =>
      obtain ⟨closed, rfl, starts⟩ := (Option.any_eq_true _ _).mp under
      rw [List.isPrefixOf_iff_prefix] at starts
      rw [isMet_cons_of_under starts]
      exact inductionHypothesis restOrdered fun closed same entry member =>
        before closed same entry (List.mem_cons_of_mem _ member)
    · next notUnder =>
      have outside : ∀ closed ∈ closed?, ¬closed <+: start := fun closed same starts =>
        notUnder ((Option.any_eq_true _ _).mpr ⟨closed, same, List.isPrefixOf_iff_prefix.mpr starts⟩)
      have beforeStart : ∀ closed ∈ closed?, closed < start := fun closed same =>
        before closed same _ List.mem_cons_self
      have onward : ∀ closed ∈ barrierAt judge start node, ∀ entry ∈ rest, closed < entry.1 := by
        intro closed remembered entry member
        rw [eq_of_mem_barrierAt remembered]
        exact first entry member
      rw [List.mem_append, source_mem_metAt, inductionHypothesis restOrdered onward,
        isMet_cons ordered beforeStart outside]

/-- The location of a source that is met. -/
def Encounter.source? : Encounter → Option Location
  | .source location => some location
  | .environment _ => none

/-- At an entry no other source is met than the entry itself. -/
theorem sources_metAt (judge : Location → Verdict) (location : Location) (node : Node) :
    ((metAt judge location node).filterMap Encounter.source?).Sublist [location] := by
  cases node with
  | directory => cases verdict : judge location <;> simp [metAt, verdict, Encounter.source?]
  | _ => simp only [metAt]; split <;> simp [Encounter.source?]

/-- The sources that are met stand in the order of the entries. -/
theorem sources_sublist (judge : Location → Verdict) (closed? : Option Location)
    (entries : List Entry) :
    ((visit judge closed? entries).filterMap Encounter.source?).Sublist (entries.map Prod.fst) := by
  induction entries generalizing closed? with
  | nil => exact List.Sublist.refl _
  | cons entry rest inductionHypothesis =>
    obtain ⟨location, node⟩ := entry
    rw [visit_cons]
    split
    · exact (inductionHypothesis closed?).cons location
    · rw [List.filterMap_append]
      exact (sources_metAt judge location node).append (inductionHypothesis _)

/-- The way to a directory is barred there: it is hidden, excluded, the directory for
intermediate files at the top, or a virtual environment. -/
inductive Barred (tree : FileTree) (top : Location) (exclude : List Text) : Location → Prop where
  | hidden {location : Location} (starts : (location.getLast?.getD []).head? = some '.') :
      Barred tree top exclude location
  | excluded {location : Location} (named : location.getLast?.getD [] ∈ exclude) :
      Barred tree top exclude location
  | intermediate : Barred tree top exclude [buildName]
  | environment {location marker : Location}
      (reached : follow tree [] (top ++ location ++ [environmentMarker]) = .ok marker)
      (regular : tree.holdsFile marker) : Barred tree top exclude location

/-- A directory is entered exactly if the way is not barred there. -/
theorem verdict_eq_enter_iff {tree : FileTree} {top : Location} {exclude : List Text}
    {location : Location} :
    verdict tree top exclude location = .enter ↔ ¬Barred tree top exclude location := by
  simp only [verdict]
  split
  · next named =>
    refine iff_of_false nofun (not_not.mpr ?_)
    rcases named with hidden | excluded
    · exact .hidden hidden
    · exact .excluded (List.contains_iff_mem.mp excluded)
  next unnamed =>
  rw [not_or, List.contains_iff_mem] at unnamed
  split
  · next same => exact iff_of_false nofun (not_not.mpr (same ▸ .intermediate))
  next different =>
  have barred : Barred tree top exclude location ↔
      ∃ marker, follow tree [] (top ++ location ++ [environmentMarker]) = .ok marker ∧
        tree.holdsFile marker := by
    constructor
    · intro barred
      cases barred with
      | hidden starts => exact absurd starts unnamed.1
      | excluded named => exact absurd named unnamed.2
      | intermediate => exact absurd rfl different
      | environment reached regular => exact ⟨_, reached, regular⟩
    · exact fun ⟨marker, reached, regular⟩ => .environment reached regular
  rw [barred]
  cases follow tree [] (top ++ location ++ [environmentMarker]) with
  | error fault => simp
  | ok marker =>
    simp only [FileTree.holdsFile, Except.ok.injEq, exists_eq_left']
    cases tree.get? marker with
    | none => simp
    | some node => cases node <;> simp [Node.isRegular]

/-- A regular file below the top to which the way is open: none of the directories strictly
between is barred. -/
structure IsOpen (tree : FileTree) (top : Location) (exclude : List Text) (location : Location) :
    Prop where
  inside : location ≠ []
  held : tree.holdsFile (top ++ location)
  free : ∀ front, front <+: location → front ≠ [] → front ≠ location →
    ¬Barred tree top exclude front

/-- A search of a closed tree meets the files to which the way is open and whose names have the
extension of sources, and no others. -/
theorem source_mem_encounters_iff {tree : FileTree} (closed : tree.Closed) {top : Location}
    {exclude : List Text} {location : Location} :
    .source location ∈ encounters tree top exclude ↔
      isSourceName (location.getLast?.getD []) ∧ IsOpen tree top exclude location := by
  have nothing : ∀ remembered ∈ (none : Option Location), ∀ entry ∈ tree.below top,
      remembered < entry.1 := fun _ impossible => nomatch impossible
  rw [encounters, source_mem_visit_iff (tree.ordered_below top) nothing]
  constructor
  · rintro ⟨⟨node, member, regular⟩, named, -, entered⟩
    obtain ⟨entry, inside⟩ := FileTree.mem_below.mp member
    have held := FileTree.get?_of_mem (by simp [inside]) entry
    refine ⟨named, inside, FileTree.holdsFile_iff.mpr ⟨node, held, regular⟩, ?_⟩
    intro front onWay filled before
    have directory : tree.holdsDirectory (top ++ front) :=
      holdsDirectory_of_onWay closed (by rw [held]; rfl) ((List.prefix_append_right_inj top).mpr onWay)
        (by simpa using before)
    have below : top ++ front ≠ [] := by simp [filled]
    have entryOnWay := FileTree.mem_entries_of_get? below
      (by simpa [FileTree.holdsDirectory] using directory)
    exact verdict_eq_enter_iff.mp (entered front (FileTree.mem_below.mpr ⟨entryOnWay, filled⟩) onWay)
  · rintro ⟨named, inside, file, free⟩
    obtain ⟨node, held, regular⟩ := FileTree.holdsFile_iff.mp file
    have entry := FileTree.mem_entries_of_get? (by simp [inside]) held
    refine ⟨⟨node, FileTree.mem_below.mpr ⟨entry, inside⟩, regular⟩, named, by simp, ?_⟩
    intro passed member onWay
    obtain ⟨directory, filled⟩ := FileTree.mem_below.mp member
    refine verdict_eq_enter_iff.mpr (free passed onWay filled ?_)
    rintro rfl
    rw [FileTree.get?_of_mem (by simp [inside]) directory] at held
    cases held
    cases regular

end PyxProject.Project
