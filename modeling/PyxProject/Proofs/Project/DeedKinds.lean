import PyxProject.Proofs.Project.DeedPlaces

/-!
# Deeds that stay among themselves

Deeds find and leave the same whether others are carried out or not, if these touch nothing that
concerns them (`carryOutAll_apart`). C files, reports and compiled modules have different
extensions, so this holds of the deeds of each kind (`carryOutAll_kind`). They are listed by
source: one C file, one report, and the modules that are delivered (`filter_deedsOfAll`). What
has changed in the end was touched by a deed that is in the report (`held_or_entered`), and a
deed whose file no other one touches finds it as it was (`leaving_deeds_of_distinct`).
-/

namespace PyxProject.Project

open Files

section Kinds

variable {directory root source : FilePath} {layout : Layout} {front : Location} {stem : Text}
  {ledger : Ledger} {deed : Deed} {deeds : List Deed} {location : Location}
  {sources : List FilePath}

/-- No name is of two kinds. -/
theorem Deed.Kind.IsOf.unique {kind otherKind : Deed.Kind} (isOf : kind.IsOf location)
    (isOfOther : otherKind.IsOf location) : kind = otherKind := by
  obtain ⟨extension, listed, named⟩ := isOf
  obtain ⟨other, alsoListed, alsoNamed⟩ := isOfOther
  obtain rfl := Option.some.inj (named.symm.trans alsoNamed)
  have apart : ∀ kind otherKind : Deed.Kind, kind ≠ otherKind →
      ∀ extension ∈ kind.suffixes, extension ∉ otherKind.suffixes := by
    intro kind otherKind
    cases kind <;> cases otherKind <;> decide
  exact Decidable.byContradiction fun different =>
    apart kind otherKind different _ listed alsoListed

/-- To carry out one deed is to carry out a list of one. -/
theorem carryOutAll_one :
    ledger.carryOutAll directory [deed] = ledger.carryOut directory deed := rfl

/-- A deed enters the report among those of its kind, if its file is seen. -/
theorem deeds_carryOut (kind : Deed.Kind) :
    (ledger.carryOut directory deed).report.deeds kind = ledger.report.deeds kind ++
      if sees ledger.held directory deed.file ∧ deed.kind = kind then [deed] else [] := by
  rw [Ledger.carryOut]
  split
  · next seen =>
    rw [deeds_entered]
    simp only [seen, true_and]
  · next unseen =>
    rw [if_neg fun both => unseen both.1, List.append_nil]

/-- What the report says stays, and more is put behind it. -/
theorem prefix_deeds_carryOutAll (deeds : List Deed) (kind : Deed.Kind) :
    ledger.report.deeds kind <+: (ledger.carryOutAll directory deeds).report.deeds kind := by
  induction deeds generalizing ledger with
  | nil => exact List.prefix_rfl
  | cons deed rest inductionHypothesis =>
    have first :
        ledger.report.deeds kind <+: (ledger.carryOut directory deed).report.deeds kind := by
      rw [deeds_carryOut]
      exact List.prefix_append _ _
    exact first.trans inductionHypothesis

/-- A deed that is carried out stays in the report. -/
theorem mem_deeds_of_sees (seen : sees ledger.held directory deed.file) (rest : List Deed) :
    deed ∈ ((ledger.carryOut directory deed).carryOutAll directory rest).report.deeds deed.kind := by
  refine (prefix_deeds_carryOutAll rest deed.kind).subset ?_
  rw [deeds_carryOut, if_pos ⟨seen, rfl⟩]
  exact List.mem_append_right _ (List.mem_singleton_self deed)

/-- The report says nothing but what it said before and what was carried out. -/
theorem mem_deeds_carryOutAll {kind : Deed.Kind}
    (entered : deed ∈ (ledger.carryOutAll directory deeds).report.deeds kind) :
    deed ∈ ledger.report.deeds kind ∨ deed ∈ deeds := by
  induction deeds generalizing ledger with
  | nil => exact .inl entered
  | cons first rest inductionHypothesis =>
    rcases inductionHypothesis entered with before | later
    · rw [deeds_carryOut, List.mem_append] at before
      rcases before with before | new
      · exact .inl before
      · split at new
        · exact .inr (List.mem_singleton.mp new ▸ List.mem_cons_self)
        · cases new
    · exact .inr (List.mem_cons_of_mem first later)

/-- What has changed was touched by a deed that was carried out. -/
theorem held_or_entered (location : Location) :
    (ledger.carryOutAll directory deeds).held location = ledger.held location ∨
      ∃ deed ∈ deeds, deed.Touches directory location ∧
        deed ∈ (ledger.carryOutAll directory deeds).report.deeds deed.kind := by
  induction deeds generalizing ledger with
  | nil => exact .inl rfl
  | cons first rest inductionHypothesis =>
    rcases @inductionHypothesis (ledger.carryOut directory first) with
      same | ⟨deed, member, touches, entered⟩
    · by_cases seen : sees ledger.held directory first.file
      · by_cases touches : first.Touches directory location
        · exact .inr ⟨first, List.mem_cons_self, touches, mem_deeds_of_sees seen rest⟩
        · exact .inl (same.trans (carryOut_held touches))
      · have idle : ledger.carryOut directory first = ledger := if_neg seen
        exact .inl (same.trans (congrArg (fun ledger => ledger.held location) idle))
    · exact .inr ⟨deed, List.mem_cons_of_mem first member, touches, entered⟩

/-- A deed takes its file from its place. -/
def Deed.leaves (directory : FilePath) (deed : Deed) : Bool :=
  deed.goal? directory != some (place directory deed.file)

variable (directory ledger) in
/-- A deed finds its file as it was if no earlier one touches its place. By induction: the first
deed leaves the files of the others alone, so they find what was there before it. -/
theorem leaving_deeds (apart : deeds.Pairwise fun first other => other.leaves directory →
      isReadable directory other.file → ¬first.Touches directory (place directory other.file))
    (kind : Deed.Kind) :
    ((ledger.carryOutAll directory deeds).report.deeds kind).filter (·.leaves directory) =
      (ledger.report.deeds kind).filter (·.leaves directory) ++ deeds.filter fun deed =>
        deed.leaves directory && sees ledger.held directory deed.file && deed.kind = kind := by
  induction deeds generalizing ledger with
  | nil => simp [Ledger.carryOutAll]
  | cons first rest inductionHypothesis =>
    obtain ⟨fromFirst, among⟩ := List.pairwise_cons.mp apart
    have sameSees : ∀ other ∈ rest,
        (other.leaves directory &&
          sees (ledger.carryOut directory first).held directory other.file &&
          decide (other.kind = kind)) =
        (other.leaves directory && sees ledger.held directory other.file &&
          decide (other.kind = kind)) := by
      intro other member
      cases leaves : other.leaves directory with
      | false => rfl
      | true =>
        rw [sees, sees]
        cases readable : isReadable directory other.file with
        | false => rfl
        | true => rw [carryOut_held (fromFirst other member leaves readable)]
    rw [Ledger.carryOutAll, List.foldl_cons, ← Ledger.carryOutAll, inductionHypothesis _ among,
      List.filter_congr sameSees, deeds_carryOut, List.filter_append, List.append_assoc,
      List.filter_cons]
    congr 1
    by_cases seen : sees ledger.held directory first.file <;> by_cases same : first.kind = kind <;>
      by_cases leaves : first.leaves directory <;> simp [seen, same, leaves]

/-- A file that a deed takes from its place is gone, if no other deed touches the place. -/
theorem held_of_left {before later : List Deed}
    (apart : ∀ other ∈ before ++ later, ¬other.Touches directory (place directory deed.file))
    (leaves : deed.leaves directory) (seen : sees ledger.held directory deed.file) :
    (ledger.carryOutAll directory (before ++ deed :: later)).held (place directory deed.file) =
      none := by
  obtain ⟨apartBefore, apartLater⟩ := List.forall_mem_append.mp apart
  have waits : (ledger.carryOutAll directory before).held (place directory deed.file) =
      ledger.held (place directory deed.file) := carryOutAll_held apartBefore
  have stillSeen : sees (ledger.carryOutAll directory before).held directory deed.file := by
    rw [sees, waits]
    exact seen
  rw [carryOutAll_append, Ledger.carryOutAll, List.foldl_cons, ← Ledger.carryOutAll,
    carryOutAll_held apartLater, Ledger.carryOut, if_pos stillSeen, Deed.effect]
  rw [Deed.leaves, bne_iff_ne] at leaves
  cases found : deed.goal? directory with
  | none => exact if_pos rfl
  | some goal =>
    have different : goal ≠ place directory deed.file := fun same =>
      leaves (found.trans (congrArg some same))
    dsimp only
    rw [Holdings.move, if_neg different, if_neg different.symm, if_pos rfl]

/-- Of the deeds of different sources of which none touches the file of another, those that find
their files are entered, and take them away. -/
theorem leaving_deeds_of_distinct {kind : Deed.Kind} {deedOf : FilePath → Deed}
    (distinct : sources.Nodup) (kinds : ∀ source ∈ sources, (deedOf source).kind = kind)
    (apart : ∀ first ∈ sources, ∀ other ∈ sources, first ≠ other →
      (deedOf other).leaves directory → isReadable directory (deedOf other).file →
      ¬(deedOf first).Touches directory (place directory (deedOf other).file)) :
    ((ledger.carryOutAll directory (sources.map deedOf)).report.deeds kind).filter
        (·.leaves directory) =
      (ledger.report.deeds kind).filter (·.leaves directory) ++
        (sources.filter fun source => (deedOf source).leaves directory &&
          sees ledger.held directory (deedOf source).file).map deedOf ∧
    ∀ source ∈ sources, (deedOf source).leaves directory →
      sees ledger.held directory (deedOf source).file →
      (ledger.carryOutAll directory (sources.map deedOf)).held
        (place directory (deedOf source).file) = none := by
  refine ⟨?_, fun source member leaves seen => ?_⟩
  · have pairwise : (sources.map deedOf).Pairwise fun first other => other.leaves directory →
        isReadable directory other.file → ¬first.Touches directory (place directory other.file) :=
      List.pairwise_map.mpr (distinct.imp_of_mem fun {first other} firstMember otherMember
        different => apart first firstMember other otherMember different)
    rw [leaving_deeds directory ledger pairwise, List.filter_map]
    congr 2
    refine List.filter_congr fun source member => ?_
    simp [kinds source member]
  · obtain ⟨before, later, rfl⟩ := List.append_of_mem member
    obtain ⟨-, -, fromBefore⟩ := List.nodup_append.mp distinct
    have fromLater := (List.nodup_cons.mp (List.nodup_append.mp distinct).2.1).1
    rw [List.map_append, List.map_cons]
    refine held_of_left (fun deed inside => ?_) leaves seen
    rw [← List.map_append] at inside
    obtain ⟨other, listed, rfl⟩ := List.mem_map.mp inside
    have readable := (Bool.and_eq_true_iff.mp seen).1
    rcases List.mem_append.mp listed with inBefore | inLater
    · exact apart other (by simp [inBefore]) source member
        (fromBefore other inBefore source List.mem_cons_self) leaves readable
    · refine apart other (by simp [inLater]) source member ?_ leaves readable
      rintro rfl
      exact fromLater inLater

variable {concern : Location → Prop}

/-- The same deed leaves the same where what it touches and what is looked at was the same. -/
theorem carryOut_congr {full part : Ledger}
    (inside : ∀ location, deed.Touches directory location → concern location)
    (sameHeld : ∀ location, concern location → full.held location = part.held location) :
    sees full.held directory deed.file = sees part.held directory deed.file ∧
      ∀ location, concern location →
        (full.carryOut directory deed).held location =
          (part.carryOut directory deed).held location := by
  have sameSees : sees full.held directory deed.file = sees part.held directory deed.file := by
    rw [sees, sees]
    cases readable : isReadable directory deed.file with
    | false => rfl
    | true => rw [sameHeld _ (inside _ ⟨readable, .inl rfl⟩)]
  refine ⟨sameSees, fun location concerned => ?_⟩
  rw [Ledger.carryOut, Ledger.carryOut, sameSees]
  split
  · next seen =>
    have readable := (Bool.and_eq_true_iff.mp seen).1
    have origin := sameHeld _ (inside _ ⟨readable, .inl rfl⟩)
    have here := sameHeld location concerned
    simp only [Deed.effect]
    cases deed.goal? directory with
    | none => simp only [Holdings.clear, here]
    | some goal => simp only [Holdings.move, here, origin]
  · exact sameHeld location concerned

variable (directory ledger) in
/-- Some deeds stay among themselves if what they touch concerns them alone: what they leave
there, and which of them are entered in the report, does not depend on the others. -/
theorem carryOutAll_apart (concern : Location → Prop) (own : Deed → Bool)
    (inside : ∀ deed ∈ deeds, own deed → ∀ location, deed.Touches directory location →
      concern location)
    (outside : ∀ deed ∈ deeds, ¬own deed → ∀ location, deed.Touches directory location →
      ¬concern location) :
    (∀ location, concern location → (ledger.carryOutAll directory deeds).held location =
        (ledger.carryOutAll directory (deeds.filter own)).held location) ∧
      ∀ kind, ((ledger.carryOutAll directory deeds).report.deeds kind).filter own =
        ((ledger.carryOutAll directory (deeds.filter own)).report.deeds kind).filter own := by
  induction deeds using List.reverseRecOn with
  | nil => exact ⟨fun _ _ => rfl, fun _ => rfl⟩
  | append_singleton before deed inductionHypothesis =>
    obtain ⟨sameHeld, sameDeeds⟩ := inductionHypothesis
      (fun other member => inside other (List.mem_append_left _ member))
      (fun other member => outside other (List.mem_append_left _ member))
    have touchesInside := inside deed (by simp)
    have touchesOutside := outside deed (by simp)
    rw [List.filter_append, carryOutAll_append, carryOutAll_append]
    generalize ledger.carryOutAll directory before = full at sameHeld sameDeeds ⊢
    generalize ledger.carryOutAll directory (before.filter own) = part at sameHeld sameDeeds ⊢
    cases among : own deed with
    | true =>
      rw [List.filter_cons_of_pos among, List.filter_nil, carryOutAll_one, carryOutAll_one]
      obtain ⟨sameSees, changed⟩ := carryOut_congr (touchesInside among) sameHeld
      refine ⟨changed, fun kind => ?_⟩
      rw [deeds_carryOut, deeds_carryOut, sameSees, List.filter_append, List.filter_append,
        sameDeeds]
    | false =>
      have other : ¬own deed := Bool.eq_false_iff.mp among
      rw [List.filter_cons_of_neg other, List.filter_nil, carryOutAll_one]
      refine ⟨fun location concerned => ?_, fun kind => ?_⟩
      · exact (carryOut_held fun touches => touchesOutside other location touches concerned).trans
          (sameHeld location concerned)
      · have omitted : (if sees full.held directory deed.file ∧ deed.kind = kind then [deed]
            else []).filter own = [] := by
          split
          · exact List.filter_cons_of_neg other
          · rfl
        rw [deeds_carryOut, List.filter_append, omitted, List.append_nil]
        exact sameDeeds kind

/-- The report lists deeds by their kinds. -/
theorem kind_of_mem_deeds {report : CleanupReport} {kind : Deed.Kind}
    (member : deed ∈ report.deeds kind) : deed.kind = kind := by
  cases kind <;> obtain ⟨_, -, rfl⟩ := List.mem_map.mp member <;> rfl

variable (directory ledger) in
/-- The deeds of a kind stay among themselves. -/
theorem carryOutAll_kind (kind : Deed.Kind)
    (kinds : ∀ deed ∈ deeds, ∀ location, deed.Touches directory location →
      deed.kind.IsOf location) :
    (∀ location, kind.IsOf location → (ledger.carryOutAll directory deeds).held location =
        (ledger.carryOutAll directory (deeds.filter (·.kind = kind))).held location) ∧
      (ledger.carryOutAll directory deeds).report.deeds kind =
        (ledger.carryOutAll directory (deeds.filter (·.kind = kind))).report.deeds kind := by
  have whole (report : CleanupReport) :
      (report.deeds kind).filter (·.kind = kind) = report.deeds kind :=
    List.filter_eq_self.mpr fun deed member => decide_eq_true (kind_of_mem_deeds member)
  obtain ⟨sameHeld, sameDeeds⟩ := carryOutAll_apart directory ledger kind.IsOf (·.kind = kind)
    (fun deed member own location touches =>
      of_decide_eq_true own ▸ kinds deed member location touches)
    (fun deed member other location touches isOf =>
      other (decide_eq_true ((kinds deed member location touches).unique isOf)))
  have ofKind := sameDeeds kind
  rw [whole, whole] at ofKind
  exact ⟨sameHeld, ofKind⟩

variable {keepCFiles : Bool} {candidates : List FilePath}

/-- The deliveries of a source are deliveries. -/
theorem kind_of_mem_deliveriesOf (member : deed ∈ deliveriesOf candidates source) :
    deed.kind = .deliver := by
  rw [deliveriesOf] at member
  split at member
  · obtain ⟨file, -, listed⟩ := List.mem_flatMap.mp member
    rw [deliveries] at listed
    split at listed
    · cases listed
    · split at listed
      · cases listed
      · rw [List.mem_singleton.mp listed]
        rfl
  · cases member

/-- The move of the report on a source to where reports are collected. -/
def Layout.collection (layout : Layout) (source : FilePath) : Move :=
  ⟨htmlFile source, layout.reportDestination source⟩

/-- The deeds of all sources: each of them has its own C file to remove, unless these are kept,
its report to collect and its modules to be delivered. -/
theorem mem_deedsOfAll :
    deed ∈ deedsOfAll layout keepCFiles candidates sources ↔ ∃ source ∈ sources,
      keepCFiles = false ∧ deed = .remove (cFile source) ∨
        deed = .collect (layout.collection source) ∨ deed ∈ deliveriesOf candidates source := by
  cases keepCFiles <;> simp [deedsOfAll, deedsOf, Layout.collection]

/-- Of the deliveries of a source, either all are of a kind or none. -/
theorem filter_deliveriesOf (kind : Deed.Kind) :
    (deliveriesOf candidates source).filter (·.kind = kind) =
      if kind = .deliver then deliveriesOf candidates source else [] := by
  split
  · next same =>
    exact List.filter_eq_self.mpr fun deed member => by simp [same, kind_of_mem_deliveriesOf member]
  · next different =>
    refine List.filter_eq_nil_iff.mpr fun deed member => ?_
    simpa [kind_of_mem_deliveriesOf member] using fun same => different (Eq.symm same)

/-- The deeds of each kind, by source. -/
theorem filter_deedsOfAll (kind : Deed.Kind) :
    (deedsOfAll layout keepCFiles candidates sources).filter (·.kind = kind) =
      match kind with
      | .remove => if keepCFiles then [] else sources.map fun source => .remove (cFile source)
      | .collect => sources.map fun source => .collect (layout.collection source)
      | .deliver => sources.flatMap (deliveriesOf candidates) := by
  have removal (source : FilePath) : (Deed.remove (cFile source)).kind = .remove := rfl
  have collection (source : FilePath) :
      (Deed.collect ⟨htmlFile source, layout.reportDestination source⟩).kind = .collect := rfl
  rw [deedsOfAll, List.filter_flatMap]
  cases kind <;> cases keepCFiles <;>
    simp [deedsOf, removal, collection, filter_deliveriesOf, Layout.collection, List.map_eq_flatMap]

end Kinds

end PyxProject.Project
