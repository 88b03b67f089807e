import PyxProject.Proofs.Text.Groups

/-!
# What stands outside brackets

A text is unbroken for some characters if it is closed and none of these characters
stands in it outside brackets. Unbroken texts are what a list falls into when it is cut
at its commas: joined by the separator they are cut apart again (`splitTop_join`), and
what a closed text is cut into is unbroken (`unbroken_of_mem_splitTop`). A cut stands in
code with no bracket open, so each piece is read from the same state as a text of its own
(`placed_of_mem_split`).

Whether a text is unbroken is followed mark by mark, like the depth of its brackets, and
blanks in code have no part in it. So squeezing keeps it (`Unbroken.squeezeInner`).
-/

namespace PyxProject.Text

/-- The number of open brackets after marks, unless a bracket closes that was never opened
or a stop stands outside all brackets. -/
def walkWithin (stops : Char → Bool) (depth : Nat) : List Mark → Option Nat
  | [] => some depth
  | mark :: rest =>
    if mark.code && (isClosing mark.char || stops mark.char) && depth == 0 then none
    else walkWithin stops (mark.depthAfter depth) rest

/-- Stops are looked for part by part. -/
theorem walkWithin_append (stops : Char → Bool) (depth : Nat) (first second : List Mark) :
    walkWithin stops depth (first ++ second) =
      (walkWithin stops depth first).bind fun next => walkWithin stops next second := by
  induction first generalizing depth with
  | nil => rfl
  | cons mark first inductionHypothesis =>
    simp only [List.cons_append, walkWithin]
    split
    · rfl
    · exact inductionHypothesis _

/-- A mark that is neutral and no stop is passed. -/
theorem walkWithin_of_neutral {stops : Char → Bool} {marked : List Mark}
    (neutral : ∀ mark ∈ marked, isNeutral mark.char ∧ stops mark.char = false) (depth : Nat) :
    walkWithin stops depth marked = some depth := by
  induction marked with
  | nil => rfl
  | cons mark marked inductionHypothesis =>
    obtain ⟨⟨first, noStop⟩, neutral⟩ := List.forall_mem_cons.mp neutral
    simp [walkWithin, depthAfter_of_isNeutral first, isNeutral_iff.mp first, noStop,
      inductionHypothesis neutral]

/-- Marks are passed with a given depth exactly if their brackets lead to it and no stop
stands where no bracket is open. -/
theorem walkWithin_eq_some_iff {stops : Char → Bool} {depth next : Nat} {marked : List Mark} :
    walkWithin stops depth marked = some next ↔
      walk depth marked = some next ∧
        ∀ place ∈ placeFrom depth marked,
          (place.code && stops place.char && place.depth == 0) = false := by
  induction marked generalizing depth with
  | nil => simp [walkWithin, walk, placeFrom]
  | cons mark marked inductionHypothesis =>
    rw [walkWithin, walk, placeFrom, List.forall_mem_cons]
    by_cases closes : mark.code && isClosing mark.char && depth == 0
    · have stopped : (mark.code && (isClosing mark.char || stops mark.char) && depth == 0) = true := by
        simp only [Bool.and_eq_true] at closes ⊢
        exact ⟨⟨closes.1.1, by rw [closes.1.2]; rfl⟩, closes.2⟩
      simp [closes, stopped]
    · by_cases stop : mark.code && stops mark.char && depth == 0
      · have stopped : (mark.code && (isClosing mark.char || stops mark.char) && depth == 0) = true := by
          simp only [Bool.and_eq_true] at stop ⊢
          exact ⟨⟨stop.1.1, by rw [stop.1.2]; exact Bool.or_true _⟩, stop.2⟩
        simp [stop, stopped]
      · have passed : (mark.code && (isClosing mark.char || stops mark.char) && depth == 0) = false := by
          rw [Bool.and_or_distrib_left, Bool.and_or_distrib_right, Bool.eq_false_iff.mpr closes,
            Bool.eq_false_iff.mpr stop]
          rfl
        rw [if_neg (by simpa using passed), if_neg closes, inductionHypothesis]
        simp [Bool.eq_false_iff.mpr stop]

/-- A text that is closed and in which no stop stands in code outside brackets. -/
structure Unbroken (stops : Char → Bool) (text : Text) : Prop where
  brackets : walkWithin stops 0 (marks text) = some 0
  literals : Whole text

/-- A character does not stand in code outside brackets. -/
def Avoids (char : Char) (text : Text) : Prop := ∀ place ∈ placed text, place.isTop char = false

instance (char : Char) (text : Text) : Decidable (Avoids char text) :=
  inferInstanceAs (Decidable (∀ place ∈ placed text, place.isTop char = false))

/-- A text is unbroken if it is closed and no stop stands at a place outside brackets. -/
theorem unbroken_iff_places {stops : Char → Bool} {text : Text} :
    Unbroken stops text ↔ Closed text ∧
      ∀ place ∈ placed text, (place.code && stops place.char && place.depth == 0) = false := by
  constructor
  · rintro ⟨brackets, literals⟩
    obtain ⟨followed, avoided⟩ := walkWithin_eq_some_iff.mp brackets
    exact ⟨⟨followed, literals⟩, avoided⟩
  · rintro ⟨⟨followed, literals⟩, avoided⟩
    exact ⟨walkWithin_eq_some_iff.mpr ⟨followed, avoided⟩, literals⟩

/-- A text is unbroken for one character if it is closed and avoids the character. -/
theorem unbroken_iff {char : Char} {text : Text} :
    Unbroken (· == char) text ↔ Closed text ∧ Avoids char text := unbroken_iff_places

/-- An unbroken text is closed. -/
theorem Unbroken.closed {stops : Char → Bool} {text : Text} (unbroken : Unbroken stops text) :
    Closed text :=
  ⟨(walkWithin_eq_some_iff.mp unbroken.brackets).1, unbroken.literals⟩

/-- A closed text is unbroken where nothing stops. -/
theorem Closed.unbroken {text : Text} (closed : Closed text) : Unbroken (fun _ => false) text :=
  ⟨walkWithin_eq_some_iff.mpr ⟨closed.brackets, by simp⟩, closed.literals⟩

/-- Behind a whole text, marks are made as in a text of their own. -/
theorem Whole.marks_append {first : Text} (whole : Whole first) (second : Text) :
    marks (first ++ second) = marks first ++ marks second := by
  rw [marks, marksFrom_append, whole]
  rfl

/-- Unbroken texts put together are unbroken if the second is. -/
theorem Unbroken.append_iff {stops : Char → Bool} {first : Text} (unbroken : Unbroken stops first)
    (second : Text) : Unbroken stops (first ++ second) ↔ Unbroken stops second := by
  have brackets : walkWithin stops 0 (marks (first ++ second)) =
      walkWithin stops 0 (marks second) := by
    rw [unbroken.literals.marks_append, walkWithin_append, unbroken.brackets, Option.bind_some]
  constructor
  · intro both
    exact ⟨brackets ▸ both.brackets, (unbroken.literals.append_iff second).mp both.literals⟩
  · intro later
    exact ⟨brackets ▸ later.brackets, (unbroken.literals.append_iff second).mpr later.literals⟩

/-- Closed texts put together are closed. -/
theorem Closed.append {first second : Text} (before : Closed first) (after : Closed second) :
    Closed (first ++ second) :=
  ((before.unbroken.append_iff second).mpr after.unbroken).closed

/-- Closed pieces joined by a closed separator are closed. -/
theorem closed_join {separator : Text} (between : Closed separator) {pieces : List Text}
    (closed : ∀ piece ∈ pieces, Closed piece) : Closed (join separator pieces) :=
  holds_join Closed ⟨rfl, rfl⟩ Closed.append between closed

/-- Neutral characters that are no stops are unbroken. -/
theorem unbroken_of_neutral {stops : Char → Bool} {text : Text}
    (neutral : ∀ char ∈ text, isNeutral char ∧ stops char = false) : Unbroken stops text :=
  ⟨walkWithin_of_neutral (forall_marksFrom neutral .code) 0,
    (balanced_of_neutral fun char member => (neutral char member).1).literals⟩

/-- Neutral characters at the end of a text break nothing. -/
theorem unbroken_append_neutral {stops : Char → Bool} {neutrals : Text}
    (neutral : ∀ char ∈ neutrals, isNeutral char ∧ stops char = false) (text : Text) :
    Unbroken stops (text ++ neutrals) ↔ Unbroken stops text := by
  have literals : Whole (text ++ neutrals) ↔ Whole text :=
    (reading_append_neutral (fun char member => (neutral char member).1) text).2
  have brackets : walkWithin stops 0 (marks (text ++ neutrals)) = walkWithin stops 0 (marks text) := by
    have passed (depth : Nat) := walkWithin_of_neutral
      (forall_marksFrom neutral (regionAfter .code text)) depth
    simp only [marks, marksFrom_append, walkWithin_append, passed, Option.bind_fun_some]
  constructor
  · intro both
    exact ⟨brackets ▸ both.brackets, literals.mp both.literals⟩
  · intro before
    exact ⟨brackets ▸ before.brackets, literals.mpr before.literals⟩

/-- A blank is none of the stops if the only one is no blank. -/
theorem unstopped_of_isBlank {sign : Char} (letter : isBlank sign = false) :
    ∀ char, isBlank char → (char == sign) = false := by
  intro char blank
  simpa using ne_of_isBlank blank sign letter

section Blanks

variable {stops : Char → Bool} (letters : ∀ char, isBlank char → stops char = false)
include letters

/-- Blanks are neutral and no stops. -/
theorem neutral_of_blank {blanks : Text} (allBlank : ∀ char ∈ blanks, isBlank char) :
    ∀ char ∈ blanks, isNeutral char ∧ stops char = false := fun char member =>
  ⟨isNeutral_of_isBlank (allBlank char member), letters char (allBlank char member)⟩

/-- Blanks at the start of a text break nothing. -/
theorem unbroken_trimStart_iff (text : Text) :
    Unbroken stops (trimStart text) ↔ Unbroken stops text := by
  have parts : text.takeWhile isBlank ++ trimStart text = text := List.takeWhile_append_dropWhile
  have blanks : Unbroken stops (text.takeWhile isBlank) :=
    unbroken_of_neutral (neutral_of_blank letters fun _ member => List.mem_takeWhile_imp member)
  rw [← blanks.append_iff, parts]

/-- Blanks around a text break nothing. -/
theorem unbroken_trim_iff (text : Text) : Unbroken stops (trim text) ↔ Unbroken stops text := by
  obtain ⟨blanks, parts, allBlank⟩ := rdropWhile_append isBlank (trimStart text)
  rw [← unbroken_trimStart_iff letters text, parts,
    unbroken_append_neutral (neutral_of_blank letters allBlank)]
  rfl

/-- Squeezing drops nothing that matters to brackets and stops. -/
theorem walkWithin_squeezedMarks (pending : Bool) (depth : Nat) (marked : List Mark) :
    walkWithin stops depth (squeezedMarks pending marked) = walkWithin stops depth marked := by
  have passed {mark : Mark} (blank : isBlank mark.char) (depth : Nat) (rest : List Mark) :
      walkWithin stops depth (mark :: rest) = walkWithin stops depth rest := by
    have alone : walkWithin stops depth [mark] = some depth :=
      walkWithin_of_neutral (by simpa using ⟨isNeutral_of_isBlank blank, letters _ blank⟩) depth
    rw [← List.singleton_append, walkWithin_append, alone, Option.bind_some]
  induction marked generalizing pending depth with
  | nil => rfl
  | cons mark marked inductionHypothesis =>
    by_cases run : mark.code && isBlank mark.char
    · rw [squeezedMarks, if_pos run, inductionHypothesis,
        passed (Bool.and_eq_true_iff.mp run).2]
    · have kept : walkWithin stops depth (mark :: squeezedMarks false marked) =
          walkWithin stops depth (mark :: marked) := by
        rw [walkWithin, walkWithin, inductionHypothesis]
      rw [squeezedMarks, if_neg run]
      split
      · rw [passed (by decide : isBlank ' '), kept]
      · exact kept

/-- An unbroken text is unbroken when it is squeezed. -/
theorem Unbroken.squeezeInner {text : Text} (unbroken : Unbroken stops text) :
    Unbroken stops (squeezeInner text) := by
  have region : regionAfter .code (squeezeMarks false (marks text)) = .code :=
    (regionAfter_squeezeMarks .code false (by simp) text).trans unbroken.literals
  rw [Text.squeezeInner, unbroken_append_neutral (neutral_of_blank letters (blank_gap _))]
  refine ⟨?_, region⟩
  rw [marks, marks, marksFrom_squeezeMarks .code false (by simp), walkWithin_squeezedMarks letters]
  exact unbroken.brackets

/-- An unbroken text is unbroken when it is squeezed and trimmed. -/
theorem Unbroken.squeeze {text : Text} (unbroken : Unbroken stops text) :
    Unbroken stops (squeeze text) := by
  rw [← trim_squeezeInner, unbroken_trim_iff letters]
  exact unbroken.squeezeInner letters

/-- Two texts pass the same depths to what follows, wherever they are read. -/
def WalksAlike (stops : Char → Bool) (first second : Text) : Prop :=
  ∀ region : Region, region.IsProper →
    regionAfter region first = regionAfter region second ∧
      ∀ depth, walkWithin stops depth (marksFrom region first) =
        walkWithin stops depth (marksFrom region second)

/-- The words of a text with single spaces between them are as unbroken as the text. -/
theorem unbroken_join_words {text : Text} (tight : Tight text) :
    Unbroken stops (join " " (words text)) ↔ Unbroken stops text := by
  have append {first second third fourth : Text} (before : WalksAlike stops first second)
      (after : WalksAlike stops third fourth) :
      WalksAlike stops (first ++ third) (second ++ fourth) := by
    intro region proper
    obtain ⟨regions, depths⟩ := before region proper
    obtain ⟨laterRegions, laterDepths⟩ := after _ (proper.after second)
    simp only [regionAfter_append, marksFrom_append, walkWithin_append, regions, depths,
      laterRegions, laterDepths, implies_true, and_self]
  have run {blanks : Text} (filled : blanks ≠ []) (allBlank : ∀ char ∈ blanks, isBlank char) :
      WalksAlike stops " " blanks := by
    intro region proper
    have reading {blanks : Text} (filled : blanks ≠ []) (allBlank : ∀ char ∈ blanks, isBlank char) :
        regionAfter region blanks = region.passed ∧
          ∀ depth, walkWithin stops depth (marksFrom region blanks) = some depth :=
      ⟨(reading_of_neutral filled (fun char member => isNeutral_of_isBlank (allBlank char member))
        proper).2, walkWithin_of_neutral (forall_marksFrom (neutral_of_blank letters allBlank) region)⟩
    obtain ⟨after, passed⟩ := reading filled allBlank
    obtain ⟨afterSpace, passedSpace⟩ := reading (by decide : " ".toList ≠ []) (by decide)
    exact ⟨afterSpace.trans after.symm, fun depth => (passedSpace depth).trans (passed depth).symm⟩
  obtain ⟨regions, depths⟩ :=
    alike_join_words (fun _ _ _ => ⟨rfl, fun _ => rfl⟩) append run tight .code isProper_code
  constructor
  · exact fun joined => ⟨(depths 0).symm.trans joined.brackets, regions.symm.trans joined.literals⟩
  · exact fun whole => ⟨(depths 0).trans whole.brackets, regions.trans whole.literals⟩

end Blanks

/-- The beginning of an unbroken text, if no literal is open behind it, closes no bracket
that it does not open. It is unbroken if it leaves none open. -/
theorem Unbroken.beginning {stops : Char → Bool} {first second : Text}
    (unbroken : Unbroken stops (first ++ second)) (whole : Whole first) :
    0 ≤ openBrackets first ∧ (openBrackets first = 0 → Unbroken stops first) := by
  have brackets := unbroken.brackets
  rw [whole.marks_append, walkWithin_append] at brackets
  obtain ⟨depth, followed, _⟩ := Option.bind_eq_some_iff.mp brackets
  have counted : openBrackets first = depth := by
    have sum := total_of_walk (walkWithin_eq_some_iff.mp followed).1
    simpa [openBrackets, openBracketsFrom, marks] using sum
  rw [counted]
  refine ⟨Int.natCast_nonneg depth, fun none => ⟨?_, whole⟩⟩
  rw [followed, Int.natCast_eq_zero.mp none]

/-- A whole text is whole when it is squeezed inside another. -/
theorem Whole.squeezeInner {text : Text} (whole : Whole text) : Whole (squeezeInner text) := by
  have region : regionAfter .code (squeezeMarks false (marks text)) = .code :=
    (regionAfter_squeezeMarks .code false (by simp) text).trans whole
  rw [Whole, Text.squeezeInner, regionAfter_append, region]
  exact regionAfter_blanks (blank_gap _)

/-- A closed text is closed when it is squeezed inside another. -/
theorem Closed.squeezeInner {text : Text} (closed : Closed text) : Closed (squeezeInner text) :=
  (closed.unbroken.squeezeInner fun _ _ => rfl).closed

/-- Placed marks are placed part by part. -/
theorem placeFrom_append {depth next : Nat} {first : List Mark} (followed : walk depth first = some next)
    (second : List Mark) :
    placeFrom depth (first ++ second) = placeFrom depth first ++ placeFrom next second := by
  induction first generalizing depth with
  | nil =>
    obtain rfl : depth = next := Option.some.inj followed
    rfl
  | cons mark first inductionHypothesis =>
    rw [walk] at followed
    split at followed
    · cases followed
    · rw [List.cons_append, placeFrom, placeFrom, inductionHypothesis followed, List.cons_append]

/-- Behind a closed text, characters are placed as in a text of their own. -/
theorem Closed.placed_append {first : Text} (closed : Closed first) (second : Text) :
    placed (first ++ second) = placed first ++ placed second := by
  rw [placed, closed.literals.marks_append, placeFrom_append closed.brackets]
  rfl

/-- A neutral character is placed in code outside brackets, and so is what follows it. -/
theorem placed_cons {sign : Char} (neutral : isNeutral sign) (text : Text) :
    placed (sign :: text) = ⟨⟨sign, true⟩, 0⟩ :: placed text := by
  have plain := (isNeutral_iff.mp neutral).1
  have code : Region.code.isCode sign = true := by simp [Region.isCode, plain]
  have next : Region.code.next sign = .code := by simp [Region.next, plain]
  have stays := @depthAfter_of_isNeutral ⟨sign, true⟩ neutral 0
  rw [placed, marks, marksFrom, code, next, placeFrom, stays]
  rfl

/-- A text that avoids a separator is one piece. -/
theorem splitTop_of_avoids {separator : Char} {text : Text} (avoids : Avoids separator text) :
    splitTop separator text = [text] := by
  rw [splitTop, List.splitOnP_eq_singleton avoids, List.map_singleton, unplace_placed]

/-- A text is cut first at the separator behind an unbroken beginning. -/
theorem splitTop_append_cons {separator : Char} (neutral : isNeutral separator) {first : Text}
    (unbroken : Unbroken (· == separator) first) (second : Text) :
    splitTop separator (first ++ separator :: second) = first :: splitTop separator second := by
  obtain ⟨closed, avoids⟩ := unbroken_iff.mp unbroken
  have top : Placed.isTop ⟨⟨separator, true⟩, 0⟩ separator := by simp [Placed.isTop, Mark.is]
  rw [splitTop, closed.placed_append, placed_cons neutral,
    List.splitOnP_append_cons_of_forall_mem avoids _ top, List.map_cons, unplace_placed]
  rfl

/-- Unbroken pieces that are joined by the separator are cut apart again. -/
theorem splitTop_join {separator : Char} (neutral : isNeutral separator) {pieces : List Text}
    (filled : pieces ≠ []) (unbroken : ∀ piece ∈ pieces, Unbroken (· == separator) piece) :
    splitTop separator (join [separator] pieces) = pieces := by
  induction pieces with
  | nil => exact absurd rfl filled
  | cons piece pieces inductionHypothesis =>
    obtain ⟨first, later⟩ := List.forall_mem_cons.mp unbroken
    cases pieces with
    | nil =>
      rw [join, List.intercalate_singleton]
      exact splitTop_of_avoids (unbroken_iff.mp first).2
    | cons next pieces =>
      rw [join, List.intercalate_cons_cons, List.append_assoc, List.singleton_append,
        splitTop_append_cons neutral first, ← join,
        inductionHypothesis (List.cons_ne_nil _ _) later]

/-- Joining the pieces of a text by the separator gives the text back. -/
theorem join_splitTop (separator : Char) (text : Text) :
    join [separator] (splitTop separator text) = text := by
  have joined (places : List Placed) :
      join [separator] ((List.splitOnP (fun place => place.isTop separator) places).map unplace) =
        unplace places := by
    induction places with
    | nil => simp [List.splitOnP_nil, join, unplace]
    | cons place places inductionHypothesis =>
      obtain ⟨piece, pieces, found⟩ := List.exists_cons_of_ne_nil
        (List.splitOnP_ne_nil (fun place : Placed => place.isTop separator) places)
      have shown : unplace (place :: places) = place.char :: unplace places := rfl
      rw [found] at inductionHypothesis
      by_cases top : place.isTop separator
      · have same : place.char = separator := (isTop_iff.mp top).1.2
        rw [splitOnP_cons_of (fun place => Placed.isTop place separator) top, found, shown,
          ← inductionHypothesis, same]
        simp [join, unplace]
      · have cut : List.splitOnP (fun place => place.isTop separator) (place :: places) =
            (place :: piece) :: pieces := splitOnP_cons_of_not (by simpa using top) found
        rw [cut, shown, ← inductionHypothesis]
        cases pieces with
        | nil => simp [join, unplace]
        | cons next pieces => simp [join, unplace]
  rw [splitTop, joined, unplace_placed]

/-- An unbroken text that is cut at a separator outside brackets falls into unbroken texts. -/
theorem Unbroken.cut {stops : Char → Bool} {text : Text} (unbroken : Unbroken stops text)
    {before after : List Placed} {place : Placed} (parts : placed text = before ++ place :: after)
    {separator : Char} (top : place.isTop separator) (neutral : isNeutral separator) :
    Unbroken stops (unplace before) ∧ Unbroken stops (unplace after) := by
  obtain ⟨closed, avoided⟩ := unbroken_iff_places.mp unbroken
  obtain ⟨closedBefore, closedAfter⟩ := closed.cut parts top neutral
  obtain ⟨first, second⟩ := placed_cut neutral parts top
  rw [parts] at avoided
  refine ⟨unbroken_iff_places.mpr ⟨closedBefore, ?_⟩, unbroken_iff_places.mpr ⟨closedAfter, ?_⟩⟩
  · rw [first]
    exact fun other member => avoided other (List.mem_append_left _ member)
  · rw [second]
    exact fun other member =>
      avoided other (List.mem_append_right _ (List.mem_cons_of_mem _ member))

/-- Each piece of a text is placed as in a text of its own. -/
theorem placed_of_mem_split {separator : Char} (neutral : isNeutral separator) {text : Text} :
    ∀ piece ∈ List.splitOnP (fun place => place.isTop separator) (placed text),
      placed (unplace piece) = piece := by
  rcases splitOnP_cases (fun place => Placed.isTop place separator) (placed text) with
    whole | ⟨before, place, after, parts, top, pieces⟩
  · rw [whole]
    simp [unplace_placed]
  · obtain ⟨first, rest⟩ := placed_cut neutral parts top
    have shorter := length_behind_cut parts
    have inductionHypothesis :
        ∀ piece ∈ List.splitOnP (fun place => place.isTop separator) (placed (unplace after)),
          placed (unplace piece) = piece := placed_of_mem_split neutral
    rw [rest] at inductionHypothesis
    rw [pieces]
    exact List.forall_mem_cons.mpr ⟨first, inductionHypothesis⟩
termination_by text.length

/-- The pieces of a text avoid the separator. -/
theorem avoids_of_mem_splitTop {separator : Char} (neutral : isNeutral separator) {text piece : Text}
    (member : piece ∈ splitTop separator text) : Avoids separator piece := by
  obtain ⟨places, inside, rfl⟩ := List.mem_map.mp member
  intro place found
  rw [placed_of_mem_split neutral places inside] at found
  exact unmarked_of_mem_splitOnP inside place found

/-- The pieces of a closed text are unbroken. -/
theorem unbroken_of_mem_splitTop {separator : Char} (neutral : isNeutral separator) {text : Text}
    (closed : Closed text) : ∀ piece ∈ splitTop separator text, Unbroken (· == separator) piece := by
  intro piece member
  exact unbroken_iff.mpr
    ⟨closed_of_mem_splitTop neutral closed piece member, avoids_of_mem_splitTop neutral member⟩

/-- Squeezing whole pieces with a sign between them squeezes each of them. -/
theorem squeezeInner_join {sign : Char} (letter : isBlank sign = false)
    (plain : isDelimiter sign = false) {pieces : List Text} (whole : ∀ piece ∈ pieces, Whole piece) :
    squeezeInner (join [sign] pieces) = join [sign] (pieces.map squeezeInner) := by
  induction pieces with
  | nil => rfl
  | cons piece pieces inductionHypothesis =>
    obtain ⟨first, later⟩ := List.forall_mem_cons.mp whole
    cases pieces with
    | nil => simp [join]
    | cons next pieces =>
      have joined := inductionHypothesis later
      simp only [join, List.map_cons] at joined ⊢
      rw [List.intercalate_cons_cons, List.intercalate_cons_cons, List.append_assoc,
        List.singleton_append, squeezeInner_append_cons first letter plain, joined,
        List.append_assoc, List.singleton_append]

/-- A list may be cut before or after it is squeezed. -/
theorem splitTop_squeezeInner {separator : Char} (neutral : isNeutral separator)
    (letter : isBlank separator = false) {text : Text} (closed : Closed text) :
    splitTop separator (squeezeInner text) = (splitTop separator text).map squeezeInner := by
  have unbroken := unbroken_of_mem_splitTop neutral closed
  have plain : isDelimiter separator = false := (isNeutral_iff.mp neutral).1
  have filled : (splitTop separator text).map squeezeInner ≠ [] := by
    simp [splitTop, List.splitOnP_ne_nil]
  have squeezed : squeezeInner text = join [separator] ((splitTop separator text).map squeezeInner) := by
    rw [← squeezeInner_join letter plain fun piece member => (unbroken piece member).literals,
      join_splitTop]
  rw [squeezed, splitTop_join neutral filled]
  intro piece member
  obtain ⟨part, found, rfl⟩ := List.mem_map.mp member
  exact (unbroken part found).squeezeInner (unstopped_of_isBlank letter)

end PyxProject.Text
