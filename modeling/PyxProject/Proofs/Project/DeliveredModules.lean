import PyxProject.Proofs.Project.Cleanups

/-!
# Modules that are delivered

Compiled modules stand directly below the root and are delivered to directories below it. A
delivery never ends where another one starts, and what is delivered under one name stays apart
from all other names. So of the deliveries of one module the first takes it away, and the others
find nothing (`held_of_delivered`). The first is that to the first source in another directory
that takes the module (`find?_deliveries`).
-/

namespace PyxProject.Project

open Files

section Delivering

variable {directory root source file : FilePath} {front : Location} {stem name : Text}
  {ledger : Ledger} {deed : Deed} {deeds : List Deed} {location : Location}

/-- A deed that delivers the module of a name to a directory below the root. -/
structure Delivers (root : FilePath) (front : Location) (name : Text) (deed : Deed) : Prop where
  proper : IsName name
  names : ∀ other ∈ front, IsName other
  elsewhere : front ≠ []
  deed_eq : deed = .deliver ⟨root.join ⟨name⟩, (pathBelow root front).trimmed.join ⟨name⟩⟩

namespace Delivers

/-- A delivery is about the file of its name below the root. -/
theorem file_eq (delivers : Delivers root front name deed) : deed.file = root.join ⟨name⟩ := by
  rw [delivers.deed_eq, Deed.file]

/-- The file of a delivery is at its name in the root. -/
theorem place_file (delivers : Delivers root front name deed) (directory : FilePath) :
    place directory deed.file = place directory root ++ [name] := by
  rw [delivers.file_eq, place_join _ _ delivers.proper]

/-- A delivery ends at the same name in its directory below the root. -/
theorem goal?_eq (delivers : Delivers root front name deed) (directory : FilePath) :
    deed.goal? directory = some (place directory root ++ (front ++ [name])) := by
  rw [delivers.deed_eq, Deed.goal?, place_join _ _ delivers.proper, place_trimmed,
    place_pathBelow directory root delivers.names, List.append_assoc]

/-- What a delivery touches has its name. -/
theorem getLast?_of_touches (delivers : Delivers root front name deed)
    (touches : deed.Touches directory location) : location.getLast? = some name := by
  rcases touches.2 with rfl | goal
  · rw [delivers.place_file, List.getLast?_concat]
  · rw [delivers.goal?_eq] at goal
    rw [← Option.some.inj goal, ← List.append_assoc, List.getLast?_concat]

end Delivers

/-- Files below one root are the same only under the same name. -/
theorem eq_of_join_eq {other : Text} (proper : IsName name) (otherProper : IsName other)
    (same : root.join ⟨name⟩ = root.join ⟨other⟩) : name = other := by
  have names := congrArg FilePath.fileName? same
  rw [FilePath.fileName?_join _ proper, FilePath.fileName?_join _ otherProper] at names
  exact Option.some.inj names

/-- Deeds that deliver modules from the root. -/
def AreDeliveries (root : FilePath) (deeds : List Deed) : Prop :=
  ∀ deed ∈ deeds, ∃ front name, Delivers root front name deed

/-- Deeds about a file that is not there do nothing. -/
theorem carryOutAll_unseen (unseen : ¬sees ledger.held directory file)
    (about : ∀ deed ∈ deeds, deed.file = file) : ledger.carryOutAll directory deeds = ledger := by
  induction deeds with
  | nil => rfl
  | cons deed rest inductionHypothesis =>
    obtain ⟨here, others⟩ := List.forall_mem_cons.mp about
    have idle : ledger.carryOut directory deed = ledger := by
      rw [Ledger.carryOut, here, if_neg unseen]
    rw [Ledger.carryOutAll, List.foldl_cons, idle]
    exact inductionHypothesis others

/-- A delivery takes a module from the root to a directory below it. -/
theorem Delivers.carryOut (delivers : Delivers root front name deed)
    (seen : sees ledger.held directory (root.join ⟨name⟩)) :
    (ledger.carryOut directory deed).held (place directory root ++ [name]) = none ∧
      (ledger.carryOut directory deed).held (place directory root ++ (front ++ [name])) =
        ledger.held (place directory root ++ [name]) ∧
      (ledger.carryOut directory deed).report.deeds .deliver =
        ledger.report.deeds .deliver ++ [deed] := by
  have apart : place directory root ++ (front ++ [name]) ≠ place directory root ++ [name] := by
    intro same
    exact delivers.elsewhere (by simpa using List.append_cancel_left same)
  have moved : (ledger.carryOut directory deed).held =
      ledger.held.move (place directory root ++ [name])
        (place directory root ++ (front ++ [name])) := by
    rw [Ledger.carryOut, delivers.file_eq, if_pos seen]
    simp only [Deed.effect, delivers.goal?_eq, delivers.place_file]
  have isDelivery : deed.kind = .deliver := by rw [delivers.deed_eq, Deed.kind]
  refine ⟨?_, by rw [moved, Holdings.move_goal], ?_⟩
  · rw [moved, Holdings.move, if_neg apart, if_neg apart.symm, if_pos rfl]
  · rw [deeds_carryOut, if_pos ⟨by rw [delivers.file_eq]; exact seen, isDelivery⟩]

/-- A module is taken away by its first delivery, and by no other. A delivery touches only places
with the name of its module, so those of other modules do not count, and the later ones of the
same module find nothing. -/
theorem held_of_delivered (areDeliveries : AreDeliveries root deeds)
    (delivers : Delivers root front name deed)
    (isFirst : deeds.find? (·.file = root.join ⟨name⟩) = some deed)
    (seen : sees ledger.held directory (root.join ⟨name⟩)) :
    (ledger.carryOutAll directory deeds).held (place directory root ++ [name]) = none ∧
      (ledger.carryOutAll directory deeds).held (place directory root ++ (front ++ [name])) =
        ledger.held (place directory root ++ [name]) ∧
      ((ledger.carryOutAll directory deeds).report.deeds .deliver).filter
          (·.file = root.join ⟨name⟩) =
        (ledger.report.deeds .deliver).filter (·.file = root.join ⟨name⟩) ++ [deed] := by
  obtain ⟨sameHeld, sameDeeds⟩ := carryOutAll_apart directory ledger
    (fun location => location.getLast? = some name) (·.file = root.join ⟨name⟩)
    (fun other member own location touches => by
      obtain ⟨_, otherName, otherDelivers⟩ := areDeliveries other member
      have same := otherDelivers.file_eq.symm.trans (of_decide_eq_true own)
      rw [otherDelivers.getLast?_of_touches touches,
        eq_of_join_eq otherDelivers.proper delivers.proper same])
    (fun other member another location touches last => by
      obtain ⟨_, otherName, otherDelivers⟩ := areDeliveries other member
      rw [otherDelivers.getLast?_of_touches touches] at last
      obtain rfl := Option.some.inj last
      exact another (decide_eq_true otherDelivers.file_eq))
  have origin : (place directory root ++ [name]).getLast? = some name := List.getLast?_concat
  have goal : (place directory root ++ (front ++ [name])).getLast? = some name := by
    rw [← List.append_assoc, List.getLast?_concat]
  rw [sameHeld _ origin, sameHeld _ goal, sameDeeds]
  rw [← List.head?_filter] at isFirst
  obtain ⟨others, whole⟩ := List.head?_eq_some_iff.mp isFirst
  have about : ∀ other ∈ others, other.file = root.join ⟨name⟩ := fun other member => by
    have listed : other ∈ deeds.filter (·.file = root.join ⟨name⟩) :=
      whole ▸ List.mem_cons_of_mem deed member
    exact of_decide_eq_true (List.mem_filter.mp listed).2
  obtain ⟨gone, arrived, entered⟩ := delivers.carryOut seen
  have unseen : ¬sees (ledger.carryOut directory deed).held directory (root.join ⟨name⟩) := by
    rw [sees, place_join _ _ delivers.proper, gone]
    simp
  rw [whole, Ledger.carryOutAll, List.foldl_cons, ← Ledger.carryOutAll,
    carryOutAll_unseen unseen about, entered, List.filter_append]
  exact ⟨gone, arrived, by simp [delivers.file_eq]⟩

variable {candidates sources : List FilePath} {tree : FileTree}

/-- The deliveries of a source deliver compiled forms of its module to its directory. -/
theorem delivers_of_mem (sourceAt : SourceAt root source front stem)
    (below : AreBelow root candidates) (member : deed ∈ deliveriesOf candidates source) :
    ∃ name, isBuildOf name stem ∧ root.join ⟨name⟩ ∈ candidates ∧
      Delivers root front name deed := by
  obtain ⟨name, proper, listed, built, elsewhere, rfl⟩ :=
    (mem_deliveriesOf sourceAt below).mp member
  exact ⟨name, built, listed, proper, sourceAt.names, elsewhere, rfl⟩

/-- So all deliveries of all sources deliver from the root to directories below it. -/
theorem areDeliveries_of_sources (areSources : AreSources root sources)
    (below : AreBelow root candidates) :
    AreDeliveries root (sources.flatMap (deliveriesOf candidates)) := by
  intro deed member
  obtain ⟨source, listed, delivery⟩ := List.mem_flatMap.mp member
  obtain ⟨front, stem, sourceAt⟩ := areSources source listed
  obtain ⟨name, -, -, delivers⟩ := delivers_of_mem sourceAt below delivery
  exact ⟨front, name, delivers⟩

/-- A source that is there and lies in another directory than the root takes the compiled forms
of its module. -/
def takes (tree : FileTree) (directory root : FilePath) (name : Text) (source : FilePath) : Bool :=
  isFile tree directory source && (moduleOf? source).any (isBuildOf name) &&
    source.parent?.any fun parent => place directory parent != place directory root

variable (tree directory name) in
/-- A source takes the compiled forms of its module if it is there and does not stand in the root.
-/
theorem SourceAt.takes_iff (sourceAt : SourceAt root source front stem) :
    takes tree directory root name source ↔
      isFile tree directory source ∧ isBuildOf name stem ∧ front ≠ [] := by
  have elsewhere : place directory (pathBelow root front).trimmed = place directory root ↔
      front = [] := by
    simp [place_trimmed, place_pathBelow directory root sourceAt.names]
  rw [takes, sourceAt.moduleOf?_eq, sourceAt.parent?_eq]
  simp [elsewhere, and_assoc]

/-- Of the deliveries to a source, the first of a module is the only one. -/
theorem find?_deliveriesOf (sourceAt : SourceAt root source front stem)
    (below : AreBelow root candidates) (proper : IsName name)
    (listed : root.join ⟨name⟩ ∈ candidates) :
    (deliveriesOf candidates source).find? (·.file = root.join ⟨name⟩) =
      if isBuildOf name stem ∧ front ≠ [] then
        some (.deliver ⟨root.join ⟨name⟩, (pathBelow root front).trimmed.join ⟨name⟩⟩)
      else none := by
  cases first : (deliveriesOf candidates source).find? (·.file = root.join ⟨name⟩) with
  | some deed =>
    obtain ⟨other, built, -, delivers⟩ :=
      delivers_of_mem sourceAt below (List.mem_of_find?_eq_some first)
    have about : deed.file = root.join ⟨name⟩ := by simpa using List.find?_some first
    obtain rfl := eq_of_join_eq delivers.proper proper (delivers.file_eq.symm.trans about)
    rw [if_pos ⟨built, delivers.elsewhere⟩, ← delivers.deed_eq]
  | none =>
    rw [if_neg]
    rintro ⟨built, elsewhere⟩
    have member := (mem_deliveriesOf sourceAt below).mpr
      ⟨name, proper, listed, built, elsewhere, rfl⟩
    exact List.find?_eq_none.mp first _ member (decide_eq_true rfl)

/-- A module is delivered first to the first source that takes it. -/
theorem find?_deliveries (areSources : AreSources root sources) (below : AreBelow root candidates)
    (proper : IsName name) (listed : root.join ⟨name⟩ ∈ candidates)
    (chosen : sources.find? (takes tree directory root name) = some source) :
    ∃ front stem, SourceAt root source front stem ∧ front ≠ [] ∧
      ((sources.filter (isFile tree directory)).flatMap (deliveriesOf candidates)).find?
          (·.file = root.join ⟨name⟩) =
        some (.deliver ⟨root.join ⟨name⟩, (pathBelow root front).trimmed.join ⟨name⟩⟩) := by
  induction sources with
  | nil => cases chosen
  | cons first rest inductionHypothesis =>
    obtain ⟨⟨front, stem, firstAt⟩, others⟩ := List.forall_mem_cons.mp areSources
    have takes_iff := firstAt.takes_iff directory name tree
    by_cases firstTakes : takes tree directory root name first
    · rw [List.find?_cons_of_pos firstTakes] at chosen
      obtain rfl := Option.some.inj chosen
      obtain ⟨present, built, elsewhere⟩ := takes_iff.mp firstTakes
      refine ⟨front, stem, firstAt, elsewhere, ?_⟩
      rw [List.filter_cons_of_pos present, List.flatMap_cons, List.find?_append,
        find?_deliveriesOf firstAt below proper listed, if_pos ⟨built, elsewhere⟩, Option.some_or]
    · rw [List.find?_cons_of_neg firstTakes] at chosen
      obtain ⟨sourceFront, sourceStem, sourceAt, elsewhere, found⟩ :=
        inductionHypothesis others chosen
      refine ⟨sourceFront, sourceStem, sourceAt, elsewhere, ?_⟩
      by_cases present : isFile tree directory first
      · have idle : ¬(isBuildOf name stem ∧ front ≠ []) := fun built =>
          firstTakes (takes_iff.mpr ⟨present, built⟩)
        rw [List.filter_cons_of_pos present, List.flatMap_cons, List.find?_append,
          find?_deliveriesOf firstAt below proper listed, if_neg idle, Option.none_or]
        exact found
      · rw [List.filter_cons_of_neg present]
        exact found

variable {after : FileTree} {top : Location} {keepCFiles : Bool} {report : CleanupReport}
  {start : Ledger} {layout : Layout}

/-- A name below the root is a file exactly if one is held there. -/
theorem isFile_join {root : FilePath} (plain : tree.Plain) (rooted : Rooted tree directory root top)
    (proper : IsName name) :
    isFile tree directory (root.join ⟨name⟩) = sees tree.holdings directory (root.join ⟨name⟩) :=
  isFile_pathBelow plain rooted (by simpa using proper : ∀ other ∈ [] ++ [name], IsName other)

namespace CleanedUp

variable (cleanedUp : CleanedUp directory layout keepCFiles sources tree after report start candidates)
  (plain : tree.Plain) (rooted : Rooted tree directory layout.root top)
include cleanedUp plain rooted

/-- What stands directly below the root is seen at first exactly if it was there before the
cleanup. -/
theorem sees_candidate (proper : IsName name) :
    sees start.held directory (layout.root.join ⟨name⟩) =
      isFile tree directory (layout.root.join ⟨name⟩) := by
  have placed : place directory (layout.root.join ⟨name⟩) =
      place directory layout.root ++ ([] ++ [name]) := place_join _ _ proper
  rw [isFile_join plain rooted proper]
  exact cleanedUp.started.sees_eq (by simp) fun _ => placed

/-- The candidates for delivery are the files that were directly below the root. -/
theorem mem_candidates (proper : IsName name) :
    layout.root.join ⟨name⟩ ∈ candidates ↔ isFile tree directory (layout.root.join ⟨name⟩) := by
  rw [cleanedUp.started.mem_candidates, cleanedUp.sees_candidate plain rooted proper]
  exact and_iff_right ⟨name, proper, rfl⟩

/-- Every module that a cleanup moves was directly below the root, and a source takes it. -/
theorem of_mem_movedModules {move : Move} (member : move ∈ report.movedModules) :
    ∃ name, IsName name ∧ move.source = layout.root.join ⟨name⟩ ∧
      isFile tree directory move.source ∧ sources.any (takes tree directory layout.root name) := by
  have entered : .deliver move ∈ report.deeds .deliver := List.mem_map_of_mem member
  have listed := cleanedUp.mem_of_mem_deeds entered
  rw [filter_deedsOfAll] at listed
  obtain ⟨source, present, delivery⟩ := List.mem_flatMap.mp listed
  obtain ⟨inside, isThere⟩ := List.mem_filter.mp present
  obtain ⟨front, stem, sourceAt⟩ := cleanedUp.areSources source inside
  obtain ⟨name, built, candidate, delivers⟩ := delivers_of_mem sourceAt cleanedUp.below delivery
  have file_eq : move.source = layout.root.join ⟨name⟩ := delivers.file_eq
  refine ⟨name, delivers.proper, file_eq, ?_, List.any_eq_true.mpr ⟨source, inside, ?_⟩⟩
  · rw [file_eq]
    exact (cleanedUp.mem_candidates plain rooted delivers.proper).mp candidate
  · exact (sourceAt.takes_iff directory name tree).mpr ⟨isThere, built, delivers.elsewhere⟩

/-- A module that a source takes is moved once, to the first such source. -/
theorem module_moved (proper : IsName name)
    (isThere : isFile tree directory (layout.root.join ⟨name⟩))
    (chosen : sources.find? (takes tree directory layout.root name) = some source) :
    ∃ parent, source.parent? = some parent ∧
      after.holdings (place directory (layout.root.join ⟨name⟩)) = none ∧
      after.holdings (place directory (parent.join ⟨name⟩)) =
        tree.holdings (place directory (layout.root.join ⟨name⟩)) ∧
      report.movedModules.filter (·.source = layout.root.join ⟨name⟩) =
        [⟨layout.root.join ⟨name⟩, parent.join ⟨name⟩⟩] := by
  have listed := (cleanedUp.mem_candidates plain rooted proper).mpr isThere
  obtain ⟨front, stem, sourceAt, elsewhere, isFirst⟩ :=
    find?_deliveries cleanedUp.areSources cleanedUp.below proper listed chosen
  have delivers : Delivers layout.root front name (.deliver ⟨layout.root.join ⟨name⟩,
      (pathBelow layout.root front).trimmed.join ⟨name⟩⟩) :=
    ⟨proper, sourceAt.names, elsewhere, rfl⟩
  have seen := (cleanedUp.sees_candidate plain rooted proper).trans isThere
  obtain ⟨gone, arrived, entered⟩ := held_of_delivered
    (areDeliveries_of_sources cleanedUp.arePresent cleanedUp.below) delivers isFirst seen
  obtain ⟨held, deeds⟩ := cleanedUp.of_kind .deliver
  simp only [filter_deedsOfAll] at held deeds
  obtain ⟨other, present, delivery⟩ := List.mem_flatMap.mp (List.mem_of_find?_eq_some isFirst)
  have moved := held _ (mem_deedsOfAll.mpr ⟨other, present, .inr (.inr delivery)⟩) rfl
  have readable := (Bool.and_eq_true_iff.mp seen).1
  have origin : place directory (layout.root.join ⟨name⟩) = place directory layout.root ++ [name] :=
    delivers.place_file directory
  have goal : place directory ((pathBelow layout.root front).trimmed.join ⟨name⟩) =
      place directory layout.root ++ (front ++ [name]) :=
    Option.some.inj (delivers.goal?_eq directory)
  have keptOrigin : start.held (place directory layout.root ++ [name]) =
      tree.holdings (place directory layout.root ++ [name]) :=
    cleanedUp.started.held_eq (by simp : ([] : Location).head? ≠ some buildName) name
  refine ⟨_, sourceAt.parent?_eq, ?_, ?_, ?_⟩
  · rw [origin]
    exact (moved _ ⟨readable, .inl origin.symm⟩).trans gone
  · rw [origin, goal, ← keptOrigin]
    exact (moved _ ⟨readable, .inr (congrArg some goal)⟩).trans arrived
  · rw [← deeds, cleanedUp.started.deeds_eq, List.filter_nil, List.nil_append, CleanupReport.deeds,
      List.filter_map] at entered
    obtain ⟨move, whole, same⟩ := List.map_eq_singleton_iff.mp entered
    rw [← Deed.deliver.inj same, ← whole]
    rfl

end CleanedUp

end Delivering

end PyxProject.Project
