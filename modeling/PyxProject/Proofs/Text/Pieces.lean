import Mathlib.Data.List.DropRight
import PyxProject.Text.Basic

/-!
# Pieces of a text

How a text relates to the pieces it is cut into, and to what is left of it when a run
at one of its ends is dropped. Cutting is described at one marked element; of joining
and dropping, what matters later is which element comes first and which comes last.
-/

namespace PyxProject.Text

/-- Whether all characters of a text have a property is found by going through the text, and
not through all characters there are. -/
instance (priority := 2000) decidableForallMem (text : Text) (property : Char → Prop)
    [DecidablePred property] : Decidable (∀ char ∈ text, property char) :=
  List.decidableBAll property text

/-- The same for the character that a text may start or end with. -/
instance (priority := 2000) decidableForallMemOption (found? : Option Char) (property : Char → Prop)
    [DecidablePred property] : Decidable (∀ char ∈ found?, property char) :=
  Option.decidableForallMem found?

/-- An element that is a cut has an empty piece in front of it. -/
theorem splitOnP_cons_of {α : Type} (cut : α → Bool) {head : α} (marked : cut head)
    (rest : List α) : (head :: rest).splitOnP cut = [] :: rest.splitOnP cut := by
  rw [List.splitOnP_cons_eq_if_modifyHead, if_pos marked]

/-- An element that is no cut goes to the front of the first piece. -/
theorem splitOnP_cons_of_not {α : Type} {cut : α → Bool} {head : α} (unmarked : cut head = false)
    {rest piece : List α} {pieces : List (List α)} (found : rest.splitOnP cut = piece :: pieces) :
    (head :: rest).splitOnP cut = (head :: piece) :: pieces := by
  rw [List.splitOnP_cons_eq_if_modifyHead, if_neg (by simp [unmarked]), found, List.modifyHead_cons]

/-- Changing the elements of a list one by one changes them in its pieces. -/
theorem splitOnP_map {α β : Type} (cut : β → Bool) (change : α → β) (list : List α) :
    (list.map change).splitOnP cut = (List.splitOnP (cut ∘ change) list).map (List.map change) := by
  induction list with
  | nil => rfl
  | cons head rest inductionHypothesis =>
    obtain ⟨piece, pieces, found⟩ := List.exists_cons_of_ne_nil (List.splitOnP_ne_nil (cut ∘ change) rest)
    rw [found, List.map_cons] at inductionHypothesis
    by_cases marked : cut (change head)
    · simp [List.splitOnP_cons_eq_if_modifyHead, marked, found, inductionHypothesis]
    · simp [List.splitOnP_cons_eq_if_modifyHead, marked, found, inductionHypothesis]

/-- A list is one piece, or it is cut first at some element. -/
theorem splitOnP_cases {α : Type} (cut : α → Bool) (list : List α) :
    list.splitOnP cut = [list] ∨
      ∃ before mark after, list = before ++ mark :: after ∧ cut mark ∧
        list.splitOnP cut = before :: after.splitOnP cut := by
  cases found : list.find? cut with
  | none =>
    left
    exact List.splitOnP_eq_singleton (by simpa using List.find?_eq_none.mp found)
  | some mark =>
    obtain ⟨marked, before, after, parts, unmarked⟩ := List.find?_eq_some_iff_append.mp found
    refine .inr ⟨before, mark, after, parts, marked, ?_⟩
    rw [parts]
    exact List.splitOnP_append_cons_of_forall_mem (by simpa using unmarked) mark marked after

/-- Where two lists meet, the last piece of one and the first piece of the other become
one piece. -/
theorem splitOnP_append {α : Type} {cut : α → Bool} (first : List α) {second last piece : List α}
    {initial pieces : List (List α)} (firstCut : first.splitOnP cut = initial ++ [last])
    (secondCut : second.splitOnP cut = piece :: pieces) :
    (first ++ second).splitOnP cut = initial ++ (last ++ piece) :: pieces := by
  induction first generalizing initial last with
  | nil =>
    obtain ⟨rfl, rfl⟩ : initial = [] ∧ last = [] := by
      cases initial <;> simp_all [List.splitOnP_nil]
    exact secondCut
  | cons head rest inductionHypothesis =>
    obtain ⟨restInitial, restLast, restCut⟩ : ∃ restInitial restLast,
        rest.splitOnP cut = restInitial ++ [restLast] :=
      ⟨_, _, (List.dropLast_concat_getLast (List.splitOnP_ne_nil cut rest)).symm⟩
    have joined := inductionHypothesis restCut
    by_cases marked : cut head
    · rw [splitOnP_cons_of cut marked, restCut, ← List.cons_append] at firstCut
      obtain ⟨rfl, same⟩ := List.append_inj' firstCut rfl
      obtain rfl : restLast = last := List.singleton_inj.mp same
      rw [List.cons_append, splitOnP_cons_of cut marked, joined]
      rfl
    · have unmarked : cut head = false := Bool.eq_false_iff.mpr marked
      cases restInitial with
      | nil =>
        rw [splitOnP_cons_of_not unmarked restCut] at firstCut
        obtain ⟨rfl, rfl⟩ : initial = [] ∧ head :: restLast = last := by
          cases initial <;> simp_all
        exact splitOnP_cons_of_not unmarked joined
      | cons next restInitial =>
        rw [List.cons_append] at restCut joined
        rw [splitOnP_cons_of_not unmarked restCut, ← List.cons_append] at firstCut
        obtain ⟨rfl, same⟩ := List.append_inj' firstCut rfl
        obtain rfl : restLast = last := List.singleton_inj.mp same
        exact splitOnP_cons_of_not unmarked joined

/-- No piece holds a marked element. -/
theorem unmarked_of_mem_splitOnP {α : Type} {cut : α → Bool} {list piece : List α}
    (member : piece ∈ list.splitOnP cut) : ∀ element ∈ piece, cut element = false := by
  induction list generalizing piece with
  | nil =>
    obtain rfl : piece = [] := by simpa [List.splitOnP_nil] using member
    exact List.forall_mem_nil _
  | cons head rest inductionHypothesis =>
    obtain ⟨first, others, found⟩ := List.exists_cons_of_ne_nil (List.splitOnP_ne_nil cut rest)
    rw [found] at inductionHypothesis
    by_cases marked : cut head
    · rw [splitOnP_cons_of cut marked, found] at member
      rcases List.mem_cons.mp member with rfl | later
      · exact List.forall_mem_nil _
      · exact inductionHypothesis later
    · have unmarked : cut head = false := Bool.eq_false_iff.mpr marked
      rw [splitOnP_cons_of_not unmarked found] at member
      rcases List.mem_cons.mp member with rfl | later
      · exact List.forall_mem_cons.mpr ⟨unmarked, inductionHypothesis List.mem_cons_self⟩
      · exact inductionHypothesis (List.mem_cons_of_mem _ later)

/-- No piece between separators holds the separator. -/
theorem notMem_of_mem_splitOn {separator : Char} {text piece : Text}
    (member : piece ∈ text.splitOn separator) : separator ∉ piece := by
  intro inside
  simpa using unmarked_of_mem_splitOnP member separator inside

/-- An element that is not marked stands in a list exactly if it stands in a piece. -/
theorem mem_iff_mem_splitOnP {α : Type} {cut : α → Bool} {list : List α} {element : α}
    (unmarked : cut element = false) :
    element ∈ list ↔ ∃ piece ∈ list.splitOnP cut, element ∈ piece := by
  induction list with
  | nil => simp [List.splitOnP_nil]
  | cons head rest inductionHypothesis =>
    obtain ⟨first, others, found⟩ := List.exists_cons_of_ne_nil (List.splitOnP_ne_nil cut rest)
    rw [List.mem_cons, inductionHypothesis, found]
    by_cases marked : cut head
    · have other : element ≠ head := by
        rintro rfl
        rw [marked] at unmarked
        cases unmarked
      simp [List.splitOnP_cons_eq_if_modifyHead, marked, found, other]
    · rw [splitOnP_cons_of_not (Bool.eq_false_iff.mpr marked) found]
      simp [or_assoc]

/-- A piece is made of elements of the list. -/
theorem subset_of_mem_splitOnP {α : Type} {cut : α → Bool} {list piece : List α}
    (member : piece ∈ list.splitOnP cut) : piece ⊆ list := by
  intro element inside
  have unmarked := unmarked_of_mem_splitOnP member element inside
  exact (mem_iff_mem_splitOnP unmarked).mpr ⟨piece, member, inside⟩

/-- The pieces of a beginning of a list: the pieces that are kept as a whole, and of the
first that is not, what comes before its first element that is dropped. -/
def takePieces {α : Type} (keep : α → Bool) : List (List α) → List (List α)
  | [] => []
  | piece :: pieces =>
    if piece.all keep then piece :: takePieces keep pieces else [piece.takeWhile keep]

/-- Cutting a beginning of a list, if no cut ends it, gives pieces of the list. -/
theorem splitOnP_takeWhile {α : Type} {cut keep : α → Bool}
    (cuts : ∀ element, cut element → keep element) (list : List α) :
    (list.takeWhile keep).splitOnP cut = takePieces keep (list.splitOnP cut) := by
  induction list with
  | nil => rfl
  | cons head rest inductionHypothesis =>
    obtain ⟨first, others, found⟩ := List.exists_cons_of_ne_nil (List.splitOnP_ne_nil cut rest)
    by_cases marked : cut head
    · rw [List.takeWhile_cons_of_pos (cuts head marked), splitOnP_cons_of cut marked,
        splitOnP_cons_of cut marked, inductionHypothesis]
      rfl
    · have unmarked : cut head = false := Bool.eq_false_iff.mpr marked
      rw [splitOnP_cons_of_not unmarked found]
      rw [found] at inductionHypothesis
      by_cases kept : keep head
      · rw [List.takeWhile_cons_of_pos kept]
        by_cases whole : first.all keep
        · rw [takePieces, if_pos whole] at inductionHypothesis
          rw [splitOnP_cons_of_not unmarked inductionHypothesis, takePieces,
            if_pos (by simpa [kept] using whole)]
        · rw [takePieces, if_neg whole] at inductionHypothesis
          rw [splitOnP_cons_of_not unmarked inductionHypothesis, takePieces,
            if_neg (by simpa [kept] using whole), List.takeWhile_cons_of_pos kept]
      · rw [List.takeWhile_cons_of_neg kept, takePieces, if_neg (by simp [kept]),
          List.takeWhile_cons_of_neg kept]
        rfl

/-- Empty pieces have no part in where a beginning ends. -/
theorem filter_takePieces {α : Type} [DecidableEq α] (keep : α → Bool) (pieces : List (List α)) :
    (takePieces keep pieces).filter (· ≠ []) =
      (takePieces keep (pieces.filter (· ≠ []))).filter (· ≠ []) := by
  induction pieces with
  | nil => rfl
  | cons piece pieces inductionHypothesis =>
    by_cases empty : piece = []
    · subst empty
      rw [List.filter_cons_of_neg (by simp), ← inductionHypothesis, takePieces,
        if_pos (by rfl), List.filter_cons_of_neg (by simp)]
    · rw [List.filter_cons_of_pos (by simpa using empty), takePieces, takePieces]
      by_cases whole : piece.all keep
      · rw [if_pos whole, if_pos whole, List.filter_cons, List.filter_cons, inductionHypothesis]
      · rw [if_neg whole, if_neg whole]

/-- The last piece of a text ends like the text, unless the text ends with a cut. -/
theorem getLast_splitOnP (cut : Char → Bool) {text : Text} {last : Char}
    (ends : text.getLast? = some last) (kept : cut last = false) :
    ∃ piece, (text.splitOnP cut).getLast? = some piece ∧ piece.getLast? = some last := by
  obtain ⟨front, rfl⟩ := List.getLast?_eq_some_iff.mp ends
  have before := List.dropLast_concat_getLast (List.splitOnP_ne_nil cut front)
  have alone : [last].splitOnP cut = [[last]] := List.splitOnP_eq_singleton (by simpa using kept)
  have pieces := splitOnP_append front before.symm alone
  exact ⟨_, by rw [pieces, List.getLast?_concat], List.getLast?_concat⟩

/-- Pieces may be joined part by part. -/
theorem join_append (separator : Text) {first second : List Text} (filled : first ≠ [])
    (otherFilled : second ≠ []) :
    join separator (first ++ second) = join separator first ++ (separator ++ join separator second) := by
  induction first with
  | nil => exact absurd rfl filled
  | cons piece pieces inductionHypothesis =>
    rw [List.cons_append, join, List.intercalate_cons_of_ne_nil (by simp [otherFilled]), ← join]
    cases pieces with
    | nil => simp [join]
    | cons next pieces =>
      rw [inductionHypothesis (List.cons_ne_nil _ _)]
      simp only [join, List.intercalate_cons_cons, List.append_assoc]

/-- Where two pieces meet, joining joins what stands on either side. -/
theorem join_meet (separator : Text) (initial : List Text) (last first : Text) (rest : List Text) :
    join separator (initial ++ (last ++ first) :: rest) =
      join separator (initial ++ [last]) ++ join separator (first :: rest) := by
  induction initial with
  | nil => cases rest <;> simp [join, List.intercalate_cons_cons]
  | cons piece initial inductionHypothesis =>
    simp only [join] at inductionHypothesis ⊢
    rw [List.cons_append, List.cons_append, List.intercalate_cons_of_ne_nil (by simp),
      List.intercalate_cons_of_ne_nil (by simp), inductionHypothesis]
    simp only [List.append_assoc]

/-- Changing characters one by one changes them in the pieces that are joined. -/
theorem join_map (change : Char → Char) (separator : Text) (pieces : List Text) :
    join (separator.map change) (pieces.map (List.map change)) =
      (join separator pieces).map change := by
  induction pieces with
  | nil => rfl
  | cons piece pieces inductionHypothesis =>
    cases pieces with
    | nil => simp [join]
    | cons next pieces =>
      simp only [join, List.map_cons] at inductionHypothesis ⊢
      rw [List.intercalate_cons_cons, inductionHypothesis, List.intercalate_cons_cons,
        List.map_append, List.map_append]

/-- What stands in a piece stands in the joined pieces. -/
theorem mem_join {char : Char} (separator : Text) {piece : Text} {pieces : List Text}
    (member : piece ∈ pieces) (inside : char ∈ piece) : char ∈ join separator pieces := by
  induction pieces with
  | nil => cases member
  | cons first rest inductionHypothesis =>
    cases rest with
    | nil =>
      obtain rfl : piece = first := List.mem_singleton.mp member
      simpa [join] using inside
    | cons second rest =>
      rw [join, List.intercalate_cons_cons]
      rcases List.mem_cons.mp member with rfl | later
      · exact List.mem_append_left _ (List.mem_append_left _ inside)
      · exact List.mem_append_right _ (inductionHypothesis later)

/-- What holds of nothing and, with two texts, of both put together holds of joined pieces. -/
theorem holds_join (property : Text → Prop) (empty : property [])
    (append : ∀ {first second : Text}, property first → property second → property (first ++ second))
    {separator : Text} (between : property separator) {pieces : List Text}
    (holds : ∀ piece ∈ pieces, property piece) : property (join separator pieces) := by
  induction pieces with
  | nil => exact empty
  | cons piece pieces inductionHypothesis =>
    obtain ⟨first, later⟩ := List.forall_mem_cons.mp holds
    cases pieces with
    | nil => simpa [join] using first
    | cons next pieces =>
      rw [join, List.intercalate_cons_cons]
      exact append (append first between) (inductionHypothesis later)

/-- Joined pieces start like the first of them. -/
theorem head_join {piece : Text} (filled : piece ≠ []) (rest : List Text) :
    (join " " (piece :: rest)).head? = piece.head? := by
  cases rest with
  | nil => rw [join, List.intercalate_singleton]
  | cons next rest =>
    rw [join, List.intercalate_cons_cons, List.append_assoc,
      List.head?_append_of_ne_nil _ filled]

/-- Joined pieces end like the last of them. -/
theorem getLast_join {pieces : List Text} {piece : Text} {last : Char}
    (final : pieces.getLast? = some piece) (ends : piece.getLast? = some last) :
    (join " " pieces).getLast? = some last := by
  induction pieces with
  | nil => cases final
  | cons first rest inductionHypothesis =>
    cases rest with
    | nil =>
      obtain rfl : first = piece := Option.some.inj final
      rw [join, List.intercalate_singleton, ends]
    | cons second rest =>
      rw [List.getLast?_cons_cons] at final
      have later := inductionHypothesis final
      rw [join] at later ⊢
      rw [List.intercalate_cons_cons, List.getLast?_append, later]
      rfl

/-- Dropping at the end is the function of that kind that lists have. -/
theorem dropEndWhile_eq_rdropWhile {α : Type} (drop : α → Bool) (list : List α) :
    dropEndWhile drop list = list.rdropWhile drop := rfl

/-- Dropping at the end leaves a beginning of the list; all that is dropped is marked. -/
theorem rdropWhile_append {α : Type} (drop : α → Bool) (list : List α) :
    ∃ dropped, list = list.rdropWhile drop ++ dropped ∧ ∀ element ∈ dropped, drop element :=
  ⟨list.rtakeWhile drop, List.rdropWhile_append_rtakeWhile.symm,
    fun _ => List.mem_rtakeWhile_imp⟩

/-- Nothing is dropped at an end that is not marked. -/
theorem rdropWhile_of_getLast {α : Type} {drop : α → Bool} {list : List α} {last : α}
    (ends : list.getLast? = some last) (kept : drop last = false) : list.rdropWhile drop = list := by
  refine List.rdropWhile_eq_self_iff.mpr fun filled => ?_
  rw [List.getLast?_eq_some_getLast filled] at ends
  rw [Option.some.inj ends, kept]
  exact Bool.false_ne_true

/-- Dropping at the end stops at an element that is kept. -/
theorem rdropWhile_append_cons {α : Type} {drop : α → Bool} {element : α}
    (kept : drop element = false) (before after : List α) :
    (before ++ element :: after).rdropWhile drop =
      before ++ element :: after.rdropWhile drop := by
  simp only [List.rdropWhile, List.reverse_append, List.reverse_cons, List.append_assoc,
    List.dropWhile_append]
  split
  · rename_i empty
    rw [List.isEmpty_iff.mp empty]
    simp [kept]
  · simp

/-- Dropping at the end drops what is marked throughout. -/
theorem rdropWhile_append_of_all {α : Type} {drop : α → Bool} {marked : List α}
    (all : ∀ element ∈ marked, drop element) (list : List α) :
    (list ++ marked).rdropWhile drop = list.rdropWhile drop := by
  have gone : marked.reverse.dropWhile drop = [] := by simpa using all
  rw [List.rdropWhile, List.reverse_append, List.dropWhile_append, gone]
  rfl

/-- Dropping at the end keeps a first element that is not dropped. -/
theorem head_rdropWhile {drop : Char → Bool} {text : Text} {first : Char}
    (starts : text.head? = some first) (kept : drop first = false) :
    (text.rdropWhile drop).head? = some first := by
  obtain ⟨dropped, whole, _⟩ := rdropWhile_append drop text
  have filled : text.rdropWhile drop ≠ [] := by
    intro empty
    have all := List.rdropWhile_eq_nil_iff.mp empty first (List.mem_of_head? starts)
    rw [kept] at all
    cases all
  rwa [whole, List.head?_append_of_ne_nil _ filled] at starts

/-- Dropping at the start keeps a last element that is not dropped. -/
theorem getLast_dropWhile {drop : Char → Bool} {text : Text} {last : Char}
    (ends : text.getLast? = some last) (kept : drop last = false) :
    (text.dropWhile drop).getLast? = some last := by
  have parts : text.takeWhile drop ++ text.dropWhile drop = text := List.takeWhile_append_dropWhile
  have filled : text.dropWhile drop ≠ [] := by
    intro empty
    have all := List.dropWhile_eq_nil_iff.mp empty last (List.mem_of_getLast? ends)
    rw [kept] at all
    cases all
  rwa [← parts, List.getLast?_append_of_ne_nil _ filled] at ends

/-- A run of one character in front of a text that starts with another is all there is of
that run. -/
theorem run_of_rest (char : Char) (count : Nat) {rest : Text} (starts : rest.head? ≠ some char) :
    (List.replicate count char ++ rest).takeWhile (· == char) = List.replicate count char ∧
      (List.replicate count char ++ rest).dropWhile (· == char) = rest := by
  have stop : rest.takeWhile (· == char) = [] ∧ rest.dropWhile (· == char) = rest := by
    cases rest with
    | nil => exact ⟨rfl, rfl⟩
    | cons first rest =>
      have other : ¬ (first == char) = true := by simpa using starts
      exact ⟨List.takeWhile_cons_of_neg other, List.dropWhile_cons_of_neg other⟩
  have run : ∀ other ∈ List.replicate count char, (other == char) = true := by
    intro other member
    simpa using (List.mem_replicate.mp member).2
  rw [List.takeWhile_append_of_pos run, List.dropWhile_append_of_pos run, stop.1, stop.2]
  exact ⟨List.append_nil _, rfl⟩

end PyxProject.Text
