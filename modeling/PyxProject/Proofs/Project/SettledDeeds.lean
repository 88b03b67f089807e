import PyxProject.Proofs.Project.CollectedReports

/-!
# What deeds leave to do

Once the deeds of sources have been carried out, a file is found where a deed takes one from only
if a deed took it there (`taken_of_sees`). C files are taken nowhere, and no module is taken to
the root, so neither is left (`no_cFile_left`, `no_module_left`). A report may be left beside its
source, but only where it is collected, and then a report was moved there (`report_left`).
-/

namespace PyxProject.Project

open Files

section Settled

variable {directory root source : FilePath} {layout : Layout} {front : Location} {stem : Text}
  {ledger : Ledger} {deed : Deed} {deeds : List Deed} {location : Location}
  {sources candidates : List FilePath} {keepCFiles : Bool}

/-- A deed that was carried out and took a file to a location. -/
def Deed.Took (directory : FilePath) (ledger : Ledger) (deeds : List Deed) (location : Location)
    (deed : Deed) : Prop :=
  deed ∈ deeds ∧ isReadable directory deed.file ∧ deed.goal? directory = some location ∧
    deed ∈ (ledger.carryOutAll directory deeds).report.deeds deed.kind

/-- What one deed leaves: what was there, unless it took a file away or there. -/
theorem carryOut_regular
    (regular : ((ledger.carryOut directory deed).held location).any Node.isRegular) :
    (sees ledger.held directory deed.file ∧ deed.goal? directory = some location) ∨
      (ledger.held location).any Node.isRegular ∧
        (sees ledger.held directory deed.file → location ≠ place directory deed.file) := by
  by_cases seen : sees ledger.held directory deed.file
  · rw [Ledger.carryOut, if_pos seen, Deed.effect] at regular
    by_cases taken : deed.goal? directory = some location
    · exact .inl ⟨seen, taken⟩
    · right
      cases goal : deed.goal? directory with
      | none =>
        simp only [goal, Holdings.clear] at regular
        split at regular
        · cases regular
        · next different => exact ⟨regular, fun _ => different⟩
      | some reached =>
        have elsewhere : location ≠ reached := by
          rintro rfl
          exact taken goal
        simp only [goal, Holdings.move, if_neg elsewhere] at regular
        by_cases origin : location = place directory deed.file
        · rw [if_neg (origin ▸ elsewhere.symm), if_pos origin] at regular
          cases regular
        · rw [if_neg origin, ite_self] at regular
          exact ⟨regular, fun _ => origin⟩
  · rw [Ledger.carryOut, if_neg seen] at regular
    exact .inr ⟨regular, fun found => absurd found seen⟩

/-- A file is held where one was held before, or where a deed took it. -/
theorem held_or_taken
    (regular : ((ledger.carryOutAll directory deeds).held location).any Node.isRegular) :
    (ledger.held location).any Node.isRegular ∨
      ∃ deed : Deed, deed.Took directory ledger deeds location := by
  induction deeds generalizing ledger with
  | nil => exact .inl regular
  | cons first rest inductionHypothesis =>
    rcases inductionHypothesis regular with before | ⟨deed, member, took⟩
    · rcases carryOut_regular before with ⟨seen, goal⟩ | ⟨still, -⟩
      · exact .inr ⟨first, List.mem_cons_self, (Bool.and_eq_true_iff.mp seen).1, goal,
          mem_deeds_of_sees seen rest⟩
      · exact .inl still
    · exact .inr ⟨deed, List.mem_cons_of_mem first member, took⟩

/-- A deed leaves a file in the place of its file only if some deed took one there. -/
theorem taken_of_sees (member : deed ∈ deeds)
    (seen : sees (ledger.carryOutAll directory deeds).held directory deed.file) :
    ∃ other : Deed, other.Took directory ledger deeds (place directory deed.file) := by
  obtain ⟨readable, regular⟩ := Bool.and_eq_true_iff.mp seen
  obtain ⟨before, later, rfl⟩ := List.append_of_mem member
  have cut : ledger.carryOutAll directory (before ++ deed :: later) =
      ((ledger.carryOutAll directory before).carryOut directory deed).carryOutAll directory later :=
    carryOutAll_append _
  rw [cut] at regular
  rcases held_or_taken regular with still | ⟨other, inLater, took⟩
  · rcases carryOut_regular still with ⟨found, goal⟩ | ⟨waits, away⟩
    · refine ⟨deed, member, readable, goal, ?_⟩
      rw [cut]
      exact mem_deeds_of_sees found later
    · exact absurd rfl (away (Bool.and_eq_true_iff.mpr ⟨readable, waits⟩))
  · refine ⟨other, List.mem_append_right _ (List.mem_cons_of_mem deed inLater), ?_⟩
    rw [cut]
    exact took

section Kinds

variable (below : AreBelow root candidates) (areSources : AreSources root sources)
include below areSources

/-- The deed that took a file to a location is of the kind of its name. -/
theorem kind_of_took {kind : Deed.Kind} (isOf : kind.IsOf location)
    (took : deed.Took directory ledger (deedsOfAll layout keepCFiles candidates sources) location) :
    deed.kind = kind := by
  obtain ⟨member, readable, goal, -⟩ := took
  exact (suffix_of_touches below areSources member ⟨readable, .inr goal⟩).unique isOf

/-- No C file is left beside a source, unless C files are kept. -/
theorem no_cFile_left (listed : source ∈ sources) :
    sees (ledger.carryOutAll directory (deedsOfAll layout false candidates sources)).held directory
      (cFile source) = false := by
  have member : .remove (cFile source) ∈ deedsOfAll layout false candidates sources :=
    mem_deedsOfAll.mpr ⟨source, listed, .inl ⟨rfl, rfl⟩⟩
  refine Bool.eq_false_iff.mpr fun seen => ?_
  obtain ⟨other, took⟩ := taken_of_sees member seen
  have isOf := suffix_of_touches below areSources member
    ⟨(Bool.and_eq_true_iff.mp seen).1, .inl rfl⟩
  have removes : other.kind = .remove := kind_of_took below areSources isOf took
  have goal := took.2.2.1
  cases other with
  | remove file => cases goal
  | collect move => cases removes
  | deliver move => cases removes

/-- A report that is left beside a source lies where it is collected, and one was moved there. -/
theorem report_left (listed : source ∈ sources)
    (seen : sees (ledger.carryOutAll directory
      (deedsOfAll layout keepCFiles candidates sources)).held directory (htmlFile source)) :
    (layout.collection source).inPlace directory ∧
      ∃ move, .collect move ∈ (ledger.carryOutAll directory
          (deedsOfAll layout keepCFiles candidates sources)).report.deeds .collect ∧
        move.destination = layout.reportDestination source := by
  have member : .collect (layout.collection source) ∈
      deedsOfAll layout keepCFiles candidates sources :=
    mem_deedsOfAll.mpr ⟨source, listed, .inr (.inl rfl)⟩
  have readable : isReadable directory (htmlFile source) := (Bool.and_eq_true_iff.mp seen).1
  obtain ⟨deed, took⟩ := taken_of_sees member seen
  have touches : (Deed.collect (layout.collection source)).Touches directory
      (place directory (htmlFile source)) := ⟨readable, .inl rfl⟩
  have isOf := suffix_of_touches below areSources member touches
  have collects : deed.kind = .collect := kind_of_took below areSources isOf took
  obtain ⟨inDeeds, otherReadable, goal, entered⟩ := took
  obtain ⟨other, otherListed, ⟨-, rfl⟩ | rfl | delivery⟩ := mem_deedsOfAll.mp inDeeds
  · cases collects
  · obtain ⟨front, stem, sourceAt⟩ := areSources source listed
    obtain ⟨otherFront, otherStem, otherAt⟩ := areSources other otherListed
    have met : place directory (layout.reportDestination other) =
        place directory (htmlFile source) :=
      Option.some.inj goal
    have inPlace := inPlace_of_place sourceAt otherAt readable otherReadable met.symm
    have stays := inPlace_collection.mp inPlace
    exact ⟨inPlace, layout.collection other, entered,
      (reportDestination_eq_of_place sourceAt otherAt readable otherReadable
        (met.trans stays).symm).symm⟩
  · rw [kind_of_mem_deliveriesOf delivery] at collects
    cases collects

/-- No compiled module of a source in another directory is left in the root. -/
theorem no_module_left (listed : source ∈ sources) (sourceAt : SourceAt root source front stem)
    (elsewhere : front ≠ []) {name : Text} (proper : IsName name) (built : isBuildOf name stem)
    (candidate : sees ledger.held directory (root.join ⟨name⟩) → root.join ⟨name⟩ ∈ candidates) :
    sees (ledger.carryOutAll directory (deedsOfAll layout keepCFiles candidates sources)).held
      directory (root.join ⟨name⟩) = false := by
  refine Bool.eq_false_iff.mpr fun seen => ?_
  obtain ⟨readable, regular⟩ := Bool.and_eq_true_iff.mp seen
  obtain ⟨deed, took⟩ : ∃ deed : Deed, deed.Took directory ledger
      (deedsOfAll layout keepCFiles candidates sources) (place directory (root.join ⟨name⟩)) := by
    rcases held_or_taken regular with before | taken
    · have found := candidate (Bool.and_eq_true_iff.mpr ⟨readable, before⟩)
      have delivery := (mem_deliveriesOf sourceAt below).mpr
        ⟨name, proper, found, built, elsewhere, rfl⟩
      exact taken_of_sees (mem_deedsOfAll.mpr ⟨source, listed, .inr (.inr delivery)⟩) seen
    · exact taken
  have isOf : Deed.Kind.deliver.IsOf (place directory (root.join ⟨name⟩)) := by
    obtain ⟨extension, ofModule, named⟩ := extension_of_isBuildOf sourceAt.filled built
    exact ⟨extension, ofModule, by rw [place_join _ _ proper, suffix_concat, named]⟩
  have delivers : deed.kind = .deliver := kind_of_took below areSources isOf took
  obtain ⟨inDeeds, -, goal, -⟩ := took
  obtain ⟨other, otherListed, ⟨-, rfl⟩ | rfl | delivery⟩ := mem_deedsOfAll.mp inDeeds
  · cases delivers
  · cases delivers
  · obtain ⟨otherFront, otherStem, otherAt⟩ := areSources other otherListed
    obtain ⟨otherName, otherProper, -, -, otherElsewhere, rfl⟩ :=
      (mem_deliveriesOf otherAt below).mp delivery
    have met : place directory ((pathBelow root otherFront).trimmed.join ⟨otherName⟩) =
        place directory (root.join ⟨name⟩) := Option.some.inj goal
    rw [place_join _ _ otherProper, place_trimmed, place_pathBelow directory root otherAt.names,
      place_join _ _ proper] at met
    have same := (List.append_inj' met rfl).1
    exact otherElsewhere (List.append_right_eq_self.mp same)

end Kinds

end Settled

end PyxProject.Project
