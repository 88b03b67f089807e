import PyxProject.Proofs.Text.Brackets

/-!
# Texts whose brackets match

A text is closed if its literals end in it, no bracket closes that was not opened in it,
and none is left open. What a bracket group holds is closed, and cutting a closed text
where no bracket is open gives closed texts: so the arguments of a list are closed, and
so are the two sides of a default.
-/

namespace PyxProject.Text

/-- Every literal that opens in a text ends in it. -/
def Whole (text : Text) : Prop := regionAfter .code text = .code

instance (text : Text) : Decidable (Whole text) :=
  inferInstanceAs (Decidable (regionAfter .code text = .code))

/-- Behind a whole text, brackets are counted anew. -/
theorem Whole.openBrackets_append {first : Text} (whole : Whole first) (second : Text) :
    openBrackets (first ++ second) = openBrackets first + openBrackets second := by
  rw [openBrackets, openBracketsFrom_append, whole]
  rfl

/-- Whole texts put together are whole if the second is. -/
theorem Whole.append_iff {first : Text} (whole : Whole first) (second : Text) :
    Whole (first ++ second) ↔ Whole second := by
  rw [Whole, regionAfter_append, whole]
  rfl

/-- Blanks in front of a text leave it whole. -/
theorem whole_trimStart_iff (text : Text) : Whole (trimStart text) ↔ Whole text := by
  have parts : text.takeWhile isBlank ++ trimStart text = text := List.takeWhile_append_dropWhile
  have blanks : Whole (text.takeWhile isBlank) :=
    regionAfter_blanks fun _ member => List.mem_takeWhile_imp member
  rw [← blanks.append_iff, parts]

/-- Blanks around a text leave it whole. -/
theorem whole_trim_iff (text : Text) : Whole (trim text) ↔ Whole text := by
  obtain ⟨blanks, parts, allBlank⟩ := rdropWhile_append isBlank (trimStart text)
  have finish := (reading_append_neutral
    (fun char member => isNeutral_of_isBlank (allBlank char member)) (trim text)).2
  rw [← whole_trimStart_iff text, Whole, Whole, ← finish, parts]
  rfl

/-- A text without delimiters is whole. -/
theorem whole_of_undelimited {text : Text} (undelimited : ∀ char ∈ text, isDelimiter char = false) :
    Whole text := by
  induction text with
  | nil => rfl
  | cons char text inductionHypothesis =>
    obtain ⟨plain, undelimited⟩ := List.forall_mem_cons.mp undelimited
    have next : Region.code.next char = .code := by simp [Region.next, plain]
    rw [Whole, regionAfter_cons, next]
    exact inductionHypothesis undelimited

/-- A text without brackets leaves none open. -/
theorem openBrackets_of_unbracketed {text : Text}
    (unbracketed : ∀ char ∈ text, isOpening char = false ∧ isClosing char = false) :
    openBrackets text = 0 := by
  have nothing (region : Region) : openBracketsFrom region text = 0 := by
    induction text generalizing region with
    | nil => rfl
    | cons char text inductionHypothesis =>
      obtain ⟨⟨noOpening, noClosing⟩, later⟩ := List.forall_mem_cons.mp unbracketed
      rw [openBracketsFrom_cons, inductionHypothesis later]
      simp [Mark.weight, noOpening, noClosing]
  exact nothing .code

/-- A text that leaves neither a literal nor a bracket open and closes none of another. -/
structure Balanced (text : Text) : Prop where
  literals : Whole text
  brackets : openBrackets text = 0

/-- Balanced texts put together are balanced. -/
theorem Balanced.append {first second : Text} (before : Balanced first) (after : Balanced second) :
    Balanced (first ++ second) := by
  refine ⟨(before.literals.append_iff second).mpr after.literals, ?_⟩
  rw [before.literals.openBrackets_append, before.brackets, after.brackets]
  rfl

/-- Neutral characters are balanced. -/
theorem balanced_of_neutral {text : Text} (neutral : ∀ char ∈ text, isNeutral char) :
    Balanced text := by
  obtain ⟨brackets, literals⟩ := reading_append_neutral neutral []
  rw [List.nil_append] at brackets literals
  exact ⟨literals.mpr rfl, brackets⟩

/-- Dropping neutral characters at the end leaves as many brackets open. -/
theorem openBrackets_rdropWhile {drop : Char → Bool}
    (neutral : ∀ char, drop char → isNeutral char) (text : Text) :
    openBrackets (text.rdropWhile drop) = openBrackets text := by
  obtain ⟨dropped, whole, marked⟩ := rdropWhile_append drop text
  nth_rewrite 2 [whole]
  exact (reading_append_neutral (fun char member => neutral char (marked char member)) _).1.symm

/-- Trimming leaves as many brackets open. -/
theorem openBrackets_trim (text : Text) : openBrackets (trim text) = openBrackets text := by
  have start : Balanced (text.takeWhile isBlank) :=
    balanced_of_neutral fun char member => isNeutral_of_isBlank (List.mem_takeWhile_imp member)
  have parts : text.takeWhile isBlank ++ trimStart text = text := List.takeWhile_append_dropWhile
  calc openBrackets (trim text)
      _ = openBrackets (trimStart text) := openBrackets_rdropWhile (fun _ => isNeutral_of_isBlank) _
      _ = openBrackets (text.takeWhile isBlank ++ trimStart text) := by
        rw [start.literals.openBrackets_append, start.brackets, Int.zero_add]
      _ = openBrackets text := by rw [parts]

/-- Balanced pieces joined by a balanced separator are balanced. -/
theorem balanced_join {separator : Text} (between : Balanced separator) {pieces : List Text}
    (balanced : ∀ piece ∈ pieces, Balanced piece) : Balanced (join separator pieces) :=
  holds_join Balanced (balanced_of_neutral (List.forall_mem_nil _)) Balanced.append between balanced

/-- Where a text is cut at a mark in code, both parts are read from code on. -/
theorem marks_cut {text : Text} {before after : List Mark} {mark : Mark}
    (cut : marks text = before ++ mark :: after) (code : mark.code) :
    marks (unmark before) = before ∧ Whole (unmark before) ∧ marks (unmark after) = after ∧
      (Whole text → Whole (unmark after)) := by
  have first := marks_of_append cut
  have parts : text = unmark before ++ mark.char :: unmark after := by
    rw [← unmark_marks text, cut]
    simp [unmark]
  have marked := cut
  rw [parts, marks, marksFrom_append, ← marks, first, List.append_cancel_left_eq, marksFrom,
    List.cons.injEq] at marked
  obtain ⟨here, later⟩ := marked
  have inCode : (regionAfter .code (unmark before)).isCode mark.char := by
    rw [← code, ← here]
  have whole : Whole (unmark before) := region_of_isCode inCode
  have next : (regionAfter .code (unmark before)).next mark.char = .code := by
    rw [whole] at inCode ⊢
    have plain : isDelimiter mark.char = false := by simpa [Region.isCode] using inCode
    simp [Region.next, plain]
  rw [next] at later
  refine ⟨first, whole, later, fun closed => ?_⟩
  rw [Whole, parts, regionAfter_append, regionAfter_cons, next] at closed
  exact closed

/-- The number of open brackets after marks, unless one closes that was never opened. -/
def walk (depth : Nat) : List Mark → Option Nat
  | [] => some depth
  | mark :: rest =>
    if mark.code && isClosing mark.char && depth == 0 then none
    else walk (mark.depthAfter depth) rest

/-- The brackets of a list of marks are followed part by part. -/
theorem walk_append (depth : Nat) (first second : List Mark) :
    walk depth (first ++ second) = (walk depth first).bind fun next => walk next second := by
  induction first generalizing depth with
  | nil => rfl
  | cons mark first inductionHypothesis =>
    simp only [List.cons_append, walk]
    split
    · rfl
    · exact inductionHypothesis _

/-- No character is an opening and a closing bracket. -/
theorem isClosing_of_isOpening {char : Char} (opening : isOpening char) : isClosing char = false := by
  simp only [isOpening, Bool.or_eq_true, beq_iff_eq] at opening
  rcases opening with (rfl | rfl) | rfl <;> decide

/-- What following the brackets adds to the depth is the sum over the marks. -/
theorem total_of_walk {depth next : Nat} {marked : List Mark} (followed : walk depth marked = some next) :
    total Mark.weight marked = (next : Int) - depth := by
  induction marked generalizing depth with
  | nil =>
    obtain rfl : depth = next := Option.some.inj followed
    simp [total]
  | cons mark marked inductionHypothesis =>
    rw [walk] at followed
    split at followed
    · cases followed
    · rename_i allowed
      rw [total, inductionHypothesis followed]
      have step : mark.weight = (mark.depthAfter depth : Int) - depth := by
        rw [Mark.weight, Mark.depthAfter]
        split_ifs with opening closing
        · omega
        · have positive : depth ≠ 0 := by
            rintro rfl
            simp [closing] at allowed
          omega
        · omega
      omega

/-- A neutral mark changes no depth. -/
theorem depthAfter_of_isNeutral {mark : Mark} (neutral : isNeutral mark.char) (depth : Nat) :
    mark.depthAfter depth = depth := by
  simp [Mark.depthAfter, isNeutral_iff.mp neutral]

/-- Neutral marks change no depth. -/
theorem walk_of_neutral {marked : List Mark} (neutral : ∀ mark ∈ marked, isNeutral mark.char)
    (depth : Nat) : walk depth marked = some depth := by
  induction marked with
  | nil => rfl
  | cons mark marked inductionHypothesis =>
    obtain ⟨first, neutral⟩ := List.forall_mem_cons.mp neutral
    simp [walk, depthAfter_of_isNeutral first, isNeutral_iff.mp first, inductionHypothesis neutral]

/-- A text whose brackets match and whose literals end in it. -/
structure Closed (text : Text) : Prop where
  brackets : walk 0 (marks text) = some 0
  literals : Whole text

/-- A closed text is balanced. -/
theorem Closed.balanced {text : Text} (closed : Closed text) : Balanced text := by
  have none := total_of_walk closed.brackets
  exact ⟨closed.literals, by simpa [openBrackets, openBracketsFrom, marks] using none⟩

/-- Blanks around a closed text may be dropped. -/
theorem Closed.trim {text : Text} (closed : Closed text) : Closed (trim text) := by
  obtain ⟨before, after, parts, beforeBlank, afterBlank⟩ := trim_append text
  have neutral {blanks : Text} (allBlank : ∀ char ∈ blanks, isBlank char) (region : Region) :
      ∀ mark ∈ marksFrom region blanks, isNeutral mark.char :=
    forall_marksFrom (fun char member => isNeutral_of_isBlank (allBlank char member)) region
  obtain ⟨brackets, literals⟩ := closed
  rw [parts] at brackets literals
  constructor
  · rw [marks, marksFrom_append, regionAfter_blanks beforeBlank, marksFrom_append, walk_append,
      walk_of_neutral (neutral beforeBlank _), Option.bind_some, walk_append] at brackets
    obtain ⟨depth, followed, rest⟩ := Option.bind_eq_some_iff.mp brackets
    rw [walk_of_neutral (neutral afterBlank _)] at rest
    rw [marks, followed, rest]
  · rw [Whole, regionAfter_append, regionAfter_blanks beforeBlank] at literals
    exact (reading_append_neutral
      (fun char member => isNeutral_of_isBlank (afterBlank char member)) _).2.mp literals

/-- Placing changes no character. -/
theorem unplace_placeFrom (depth : Nat) (marked : List Mark) :
    unplace (placeFrom depth marked) = unmark marked := by
  induction marked generalizing depth with
  | nil => rfl
  | cons mark marked inductionHypothesis =>
    simpa [unplace, unmark, placeFrom] using inductionHypothesis (mark.depthAfter depth)

/-- Placing changes no character. -/
theorem unplace_placed (text : Text) : unplace (placed text) = text := by
  rw [placed, unplace_placeFrom, unmark_marks]

/-- A list of placed marks is cut where the list of marks is cut. The depth at the cut is
the one that following the brackets gives. -/
theorem placeFrom_cut {depth : Nat} {marked : List Mark} {before after : List Placed}
    {place : Placed} (cut : placeFrom depth marked = before ++ place :: after) :
    ∃ first second, marked = first ++ place.toMark :: second ∧ unplace before = unmark first ∧
      after = placeFrom (place.toMark.depthAfter place.depth) second ∧
      ∀ next, walk depth first = some next → place.depth = next := by
  induction before generalizing depth marked with
  | nil =>
    cases marked with
    | nil => cases cut
    | cons mark marked =>
      obtain ⟨rfl, rfl⟩ := List.cons.inj cut
      exact ⟨[], marked, rfl, rfl, rfl, fun _ followed => Option.some.inj followed⟩
  | cons first before inductionHypothesis =>
    cases marked with
    | nil => cases cut
    | cons mark marked =>
      obtain ⟨rfl, later⟩ := List.cons.inj cut
      obtain ⟨first, second, parts, shown, rest, depth_eq⟩ := inductionHypothesis later
      refine ⟨mark :: first, second, by rw [parts]; rfl, ?_, rest, fun next followed => ?_⟩
      · simpa [unplace, unmark] using shown
      · rw [walk] at followed
        split at followed
        · cases followed
        · exact depth_eq next followed

/-- A cut is made at a separator in code outside brackets. -/
theorem isTop_iff {place : Placed} {separator : Char} :
    place.isTop separator ↔ (place.code ∧ place.char = separator) ∧ place.depth = 0 := by
  simp only [Placed.isTop, Mark.is, Bool.and_eq_true, beq_iff_eq]

/-- No bracket is open behind a cut. -/
theorem depthAfter_of_isTop {separator : Char} (neutral : isNeutral separator) {place : Placed}
    (top : place.isTop separator) : place.toMark.depthAfter place.depth = 0 := by
  obtain ⟨⟨_, char⟩, outside⟩ := isTop_iff.mp top
  rw [depthAfter_of_isNeutral (char ▸ neutral), outside]

/-- What stands behind a cut is shorter than the text. -/
theorem length_behind_cut {text : Text} {before after : List Placed} {place : Placed}
    (cut : placed text = before ++ place :: after) : (unplace after).length < text.length := by
  have lengths := congrArg (fun list => (unplace list).length) cut
  simp only [unplace_placed] at lengths
  simp [lengths, unplace]
  omega

/-- Where a text is cut at a separator outside brackets, either side is placed as in a text
of its own. -/
theorem placed_cut {separator : Char} (neutral : isNeutral separator) {text : Text}
    {before after : List Placed} {place : Placed} (cut : placed text = before ++ place :: after)
    (top : place.isTop separator) :
    placed (unplace before) = before ∧ placed (unplace after) = after := by
  obtain ⟨first, second, parts, shown, rest, _⟩ := placeFrom_cut cut
  obtain ⟨firstMarks, _, secondMarks, _⟩ := marks_cut parts (isTop_iff.mp top).1.1
  rw [depthAfter_of_isTop neutral top] at rest
  constructor
  · have beginning (depth : Nat) (first second : List Mark) :
        placeFrom depth first = (placeFrom depth (first ++ second)).take first.length := by
      induction first generalizing depth with
      | nil => rfl
      | cons mark first inductionHypothesis =>
        rw [List.cons_append, placeFrom, placeFrom, List.length_cons, List.take_succ_cons,
          inductionHypothesis]
    have length : first.length = before.length := by
      have lengths := congrArg List.length shown
      simpa [unplace, unmark] using lengths.symm
    rw [placed, shown, firstMarks, beginning 0 first (place.toMark :: second), ← parts, length]
    rw [placed] at cut
    rw [cut, List.take_left]
  · rw [rest, unplace_placeFrom, placed, secondMarks]

/-- A closed text that is cut at a separator outside brackets falls into closed texts. -/
theorem Closed.cut {text : Text} (closed : Closed text) {before after : List Placed}
    {place : Placed} (cut : placed text = before ++ place :: after) {separator : Char}
    (top : place.isTop separator) (neutral : isNeutral separator) :
    Closed (unplace before) ∧ Closed (unplace after) := by
  obtain ⟨first, second, parts, shown, rest, depth_eq⟩ := placeFrom_cut cut
  obtain ⟨⟨code, char⟩, outside⟩ := isTop_iff.mp top
  obtain ⟨firstMarks, firstWhole, secondMarks, secondWhole⟩ := marks_cut parts code
  have passes : walk 0 (place.toMark :: second) = walk 0 second := by
    have alone : walk 0 [place.toMark] = some 0 :=
      walk_of_neutral (by simpa [char] using neutral) 0
    rw [← List.singleton_append, walk_append, alone, Option.bind_some]
  have brackets := closed.brackets
  rw [parts, walk_append] at brackets
  obtain ⟨depth, followed, later⟩ := Option.bind_eq_some_iff.mp brackets
  obtain rfl : depth = 0 := by rw [← depth_eq depth followed, outside]
  have afterShown : unplace after = unmark second := by rw [rest, unplace_placeFrom]
  rw [shown, afterShown]
  refine ⟨⟨by rw [firstMarks, followed], firstWhole⟩, ⟨?_, secondWhole closed.literals⟩⟩
  rw [secondMarks, ← passes, later]

/-- The pieces of a closed text between separators outside brackets are closed. -/
theorem closed_of_mem_splitTop {separator : Char} (neutral : isNeutral separator) {text : Text}
    (closed : Closed text) : ∀ piece ∈ splitTop separator text, Closed piece := by
  rcases splitOnP_cases (fun place => Placed.isTop place separator) (placed text) with
    whole | ⟨before, place, after, parts, top, pieces⟩
  · simpa [splitTop, whole, unplace_placed] using closed
  · obtain ⟨first, rest⟩ := closed.cut parts top neutral
    have shorter := length_behind_cut parts
    have inductionHypothesis := closed_of_mem_splitTop neutral rest
    rw [splitTop, (placed_cut neutral parts top).2] at inductionHypothesis
    rw [splitTop, pieces, List.map_cons]
    exact List.forall_mem_cons.mpr ⟨first, inductionHypothesis⟩
termination_by text.length

/-- A mark that closes no bracket changes every depth alike. -/
theorem depthAfter_succ {mark : Mark} (noClosing : ¬(mark.code && isClosing mark.char) = true)
    (depth : Nat) : mark.depthAfter (depth + 1) = mark.depthAfter depth + 1 := by
  simp only [Mark.depthAfter, noClosing]
  split <;> simp

/-- The marks up to the end of a bracket group match among themselves. -/
theorem groupEnd_cut (depth : Nat) {marked : List Mark} {inside tail : Text}
    (found : groupEnd? (depth + 1) marked = some (inside, tail)) :
    ∃ first second, marked = first ++ ⟨')', true⟩ :: second ∧ inside = unmark first ∧
      tail = unmark second ∧ walk depth first = some 0 := by
  induction marked generalizing depth inside with
  | nil => cases found
  | cons mark marked inductionHypothesis =>
    unfold groupEnd? at found
    split at found
    · rename_i closing
      obtain ⟨code, isClosing⟩ := Bool.and_eq_true_iff.mp closing
      cases depth with
      | zero =>
        dsimp only at found
        split at found
        · rename_i round
          obtain ⟨rfl, rfl⟩ := Prod.mk.inj (Option.some.inj found)
          refine ⟨[], marked, ?_, rfl, rfl, rfl⟩
          rcases mark with ⟨char, inCode⟩
          simp_all
        · cases found
      | succ depth =>
        obtain ⟨⟨shorter, rest⟩, inner, same⟩ := Option.map_eq_some_iff.mp found
        obtain ⟨rfl, rfl⟩ := Prod.mk.inj same
        obtain ⟨first, second, rfl, rfl, rfl, followed⟩ := inductionHypothesis _ inner
        refine ⟨mark :: first, second, rfl, rfl, rfl, ?_⟩
        have noOpening : isOpening mark.char = false := by
          apply Bool.eq_false_iff.mpr
          intro opening
          rw [isClosing_of_isOpening opening] at isClosing
          cases isClosing
        simpa [walk, Mark.depthAfter, code, isClosing, noOpening] using followed
    · rename_i noClosing
      obtain ⟨⟨shorter, rest⟩, inner, same⟩ := Option.map_eq_some_iff.mp found
      obtain ⟨rfl, rfl⟩ := Prod.mk.inj same
      rw [depthAfter_succ noClosing] at inner
      obtain ⟨first, second, rfl, rfl, rfl, followed⟩ := inductionHypothesis _ inner
      refine ⟨mark :: first, second, rfl, rfl, rfl, ?_⟩
      simpa [walk, noClosing] using followed

/-- A group starts at the first parenthesis. -/
theorem head_of_firstGroup {text : Text} {group : Group} (found : firstGroup? text = some group) :
    group.head = text.takeWhile (· != '(') := by
  obtain ⟨_, _, rfl⟩ := Option.map_eq_some_iff.mp found
  rfl

/-- Marks that match among themselves are passed on the way to the end of a bracket group. -/
theorem groupEnd_of_walk {depth : Nat} {first : List Mark} (followed : walk depth first = some 0)
    (second : List Mark) :
    groupEnd? (depth + 1) (first ++ ⟨')', true⟩ :: second) = some (unmark first, unmark second) := by
  induction first generalizing depth with
  | nil =>
    obtain rfl : depth = 0 := Option.some.inj followed
    rfl
  | cons mark first inductionHypothesis =>
    rw [walk] at followed
    split at followed
    · cases followed
    · rename_i allowed
      rw [List.cons_append]
      unfold groupEnd?
      split
      · rename_i closing
        obtain ⟨code, isClosing⟩ := Bool.and_eq_true_iff.mp closing
        cases depth with
        | zero => simp [closing] at allowed
        | succ depth =>
          have shallower : mark.depthAfter (depth + 1) = depth := by
            have noOpening : isOpening mark.char = false := by
              apply Bool.eq_false_iff.mpr
              intro opening
              rw [isClosing_of_isOpening opening] at isClosing
              cases isClosing
            simp [Mark.depthAfter, code, isClosing, noOpening]
          rw [shallower] at followed
          dsimp only
          rw [inductionHypothesis followed]
          rfl
      · rename_i noClosing
        rw [depthAfter_succ noClosing, inductionHypothesis followed]
        rfl

/-- What stands in front of the first parenthesis. -/
theorem takeWhile_append_cons {head : Text} (outside : '(' ∉ head) (rest : Text) :
    (head ++ '(' :: rest).takeWhile (· != '(') = head := by
  have other : ∀ char ∈ head, (char != '(') = true := by
    intro char member
    simpa using fun same : char = '(' => outside (same ▸ member)
  rw [List.takeWhile_append_of_pos other]
  simp

/-- A text is cut at its first parenthesis and at the one that closes it. -/
theorem firstGroup_of_parts {head inside tail : Text} (outside : '(' ∉ head) (whole : Whole head)
    (closed : Closed inside) :
    firstGroup? (head ++ '(' :: (inside ++ ')' :: tail)) = some ⟨head, inside, tail⟩ := by
  have start := takeWhile_append_cons outside (inside ++ ')' :: tail)
  have marked : (marks (head ++ '(' :: (inside ++ ')' :: tail))).drop head.length =
      ⟨'(', true⟩ :: (marks inside ++ ⟨')', true⟩ :: marks tail) := by
    have opening : marksFrom .code ('(' :: (inside ++ ')' :: tail)) =
        ⟨'(', true⟩ :: marks (inside ++ ')' :: tail) := rfl
    have closing : marksFrom .code (')' :: tail) = ⟨')', true⟩ :: marks tail := rfl
    rw [marks, marksFrom_append, whole, List.drop_left' (length_marksFrom _ _), opening, marks,
      marksFrom_append, closed.literals, closing]
    rfl
  have ended : groupEnd? 0 (⟨'(', true⟩ :: (marks inside ++ ⟨')', true⟩ :: marks tail)) =
      some ('(' :: inside, tail) := by
    have inner := groupEnd_of_walk closed.brackets (marks tail)
    rw [unmark_marks, unmark_marks] at inner
    exact congrArg (Option.map fun cut => ('(' :: cut.1, cut.2)) inner
  simp only [firstGroup?, start, marked, ended]
  rfl

/-- A group that is found is cut out of the text, if no literal is open at the first
parenthesis. What it holds is closed. -/
theorem parts_of_firstGroup {text : Text} {group : Group} (found : firstGroup? text = some group)
    (whole : Whole group.head) :
    text = group.head ++ '(' :: (group.inside ++ ')' :: group.tail) ∧ Closed group.inside := by
  unfold firstGroup? at found
  extract_lets head at found
  obtain ⟨⟨inside, tail⟩, ended, rfl⟩ := Option.map_eq_some_iff.mp found
  have parts : head ++ text.dropWhile (· != '(') = text := List.takeWhile_append_dropWhile
  have marked : (marks text).drop head.length = marks (text.dropWhile (· != '(')) := by
    nth_rewrite 1 [← parts]
    rw [marks, marksFrom_append, whole, List.drop_left' (length_marksFrom _ _)]
    rfl
  rw [marked] at ended
  have stops := List.head?_dropWhile_not (· != '(') text
  cases remaining : text.dropWhile (· != '(') with
  | nil =>
    rw [remaining] at ended
    cases ended
  | cons char rest =>
    obtain rfl : char = '(' := by simpa [remaining] using stops
    have opening : marks ('(' :: rest) = ⟨'(', true⟩ :: marks rest := rfl
    rw [remaining, opening] at ended
    obtain ⟨⟨group, after⟩, inner, same⟩ := Option.map_eq_some_iff.mp ended
    obtain ⟨rfl, rfl⟩ := Prod.mk.inj same
    obtain ⟨first, second, cut, rfl, rfl, followed⟩ := groupEnd_cut 0 inner
    obtain ⟨firstMarks, firstWhole, _⟩ := marks_cut cut rfl
    have shown : rest = unmark first ++ ')' :: unmark second := by
      rw [← unmark_marks rest, cut]
      simp [unmark]
    refine ⟨?_, by simpa [firstMarks] using followed, by simpa using firstWhole⟩
    rw [← parts, remaining, shown]
    rfl

end PyxProject.Text
