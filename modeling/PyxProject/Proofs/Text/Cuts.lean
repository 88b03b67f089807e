import PyxProject.Proofs.Text.CodePlaces
import PyxProject.Proofs.Text.TopLevel

/-!
# Where a list is cut

Pieces that are written one after the other, with one character between neighbours, have
that character at known positions (`gapsFrom`). The pieces of a list are such pieces: the
positions between them are those at which the separator stands in code outside brackets
(`topPositions_eq_gapsFrom`).

The same can be said of two runs over the code of a text, each of which follows the depth of the
brackets by itself. One slices the text (`slices`) and the other lists offsets (`topOffsets`).
Neither sees a separator that the other does not see, whatever brackets and literals are left
open (`list_cut_exactly`).
-/

namespace PyxProject.Text

/-- The positions between pieces that are written with one character between neighbours, the
first of them from a given position on. -/
def gapsFrom (start : Nat) : List Text → List Nat
  | piece :: next :: rest =>
    (start + piece.length) :: gapsFrom (start + piece.length + 1) (next :: rest)
  | _ => []

/-- A piece that starts one character earlier ends in the same place. -/
theorem gapsFrom_cons_char (start : Nat) (char : Char) (piece : Text) (pieces : List Text) :
    gapsFrom start ((char :: piece) :: pieces) = gapsFrom (start + 1) (piece :: pieces) := by
  cases pieces with
  | nil => rfl
  | cons next rest =>
    have ends : start + (char :: piece).length = start + 1 + piece.length := by
      rw [List.length_cons]
      omega
    rw [gapsFrom, gapsFrom, ends]

/-- The separator stands outside brackets exactly between the pieces. The induction moves the
start, since the first piece may begin in front of the places. -/
theorem topPositions_eq_gapsFrom (separator : Char) (text : Text) :
    topPositions separator text = gapsFrom 0 (splitTop separator text) := by
  have listed (places : List Placed) (start : Nat) :
      (places.zipIdx start).filterMap (fun entry =>
          if entry.1.isTop separator then some entry.2 else none) =
        gapsFrom start ((List.splitOnP (fun place => place.isTop separator) places).map unplace) := by
    induction places generalizing start with
    | nil => rfl
    | cons place places inductionHypothesis =>
      have later := inductionHypothesis (start + 1)
      obtain ⟨piece, pieces, found⟩ := List.exists_cons_of_ne_nil
        (List.splitOnP_ne_nil (fun place : Placed => place.isTop separator) places)
      rw [found] at later
      rw [List.zipIdx_cons, List.filterMap_cons, later]
      by_cases top : place.isTop separator
      · rw [splitOnP_cons_of (fun place => Placed.isTop place separator) top, found]
        simp only [top, if_true]
        rfl
      · have apart : List.splitOnP (fun place => place.isTop separator) (place :: places) =
            (place :: piece) :: pieces := splitOnP_cons_of_not (by simpa using top) found
        rw [apart]
        simp only [top]
        exact (gapsFrom_cons_char start place.char (unplace piece) (pieces.map unplace)).symm
  exact listed (placed text) 0

/-- One run over code, which follows the depth of the brackets and never below zero, and lists the
offsets at which a character stands outside them. -/
def topOffsetsFrom (char : Char) (depth : Nat) : List (Nat × Char) → List Nat
  | [] => []
  | (offset, found) :: rest =>
    if isOpening found then topOffsetsFrom char (depth + 1) rest
    else if isClosing found then topOffsetsFrom char (depth - 1) rest
    else if found = char ∧ depth = 0 then offset :: topOffsetsFrom char depth rest
    else topOffsetsFrom char depth rest

/-- The offsets at which a character stands in code outside brackets. -/
def topOffsets (char : Char) (text : Text) : List Nat := topOffsetsFrom char 0 (scanCode text)

/-- Another run over the code of a text, which follows the depth by itself and slices the text at
a separator outside brackets, from a given offset on. -/
def slicesFrom (separator : Char) (text : Text) (start depth : Nat) : List (Nat × Char) → List Text
  | [] => [dropBytes start text]
  | (offset, found) :: rest =>
    if isOpening found then slicesFrom separator text start (depth + 1) rest
    else if isClosing found then slicesFrom separator text start (depth - 1) rest
    else if found = separator ∧ depth = 0 then
      takeBytes (offset - start) (dropBytes start text) ::
        slicesFrom separator text (offset + found.utf8Size) depth rest
    else slicesFrom separator text start depth rest

/-- The slices of a text between separators that stand in code outside brackets. -/
def slices (separator : Char) (text : Text) : List Text :=
  slicesFrom separator text 0 0 (scanCode text)

/-- The offsets of the gaps between pieces that are written with one character between
neighbours, the first of them from a given offset on. -/
def gapOffsetsFrom (separator : Char) (start : Nat) : List Text → List Nat
  | piece :: next :: rest =>
    (start + size piece) ::
      gapOffsetsFrom separator (start + size piece + separator.utf8Size) (next :: rest)
  | _ => []

/-- One more character in the first piece moves all offsets by its size. -/
theorem gapOffsetsFrom_cons_char (separator : Char) (start : Nat) (char : Char) (piece : Text)
    (pieces : List Text) :
    gapOffsetsFrom separator start ((char :: piece) :: pieces) =
      gapOffsetsFrom separator (start + char.utf8Size) (piece :: pieces) := by
  cases pieces with
  | nil => rfl
  | cons next rest => simp only [gapOffsetsFrom, size, Nat.add_assoc]

section Runs

variable {separator : Char} (neutral : isNeutral separator)
include neutral

/-- A mark is a cut, or moves the depth, by what it is in code. -/
theorem isTop_of_code {mark : Mark} (code : mark.code = true) (depth : Nat) :
    (Placed.mk mark depth).isTop separator ↔ ¬isOpening mark.char ∧ ¬isClosing mark.char ∧
      mark.char = separator ∧ depth = 0 := by
  obtain ⟨-, -, noOpening, noClosing⟩ := isNeutral_iff.mp neutral
  rw [isTop_iff]
  constructor
  · rintro ⟨⟨-, rfl⟩, outside⟩
    exact ⟨by simp [noOpening], by simp [noClosing], rfl, outside⟩
  · rintro ⟨-, -, same, outside⟩
    exact ⟨⟨code, same⟩, outside⟩

/-- The run that lists offsets goes from mark to mark with the depth, and lists the cuts. -/
theorem topOffsetsFrom_mark (offset depth : Nat) (mark : Mark) (rest : List Mark) :
    topOffsetsFrom separator depth (codePlaces offset (mark :: rest)) =
      (if (Placed.mk mark depth).isTop separator then [offset] else []) ++
        topOffsetsFrom separator (mark.depthAfter depth)
          (codePlaces (offset + mark.char.utf8Size) rest) := by
  cases code : mark.code with
  | false => simp [codePlaces, Placed.isTop, Mark.is, Mark.depthAfter, code]
  | true =>
    have isTop := isTop_of_code neutral code depth
    by_cases opening : isOpening mark.char
    · simp [codePlaces, topOffsetsFrom, Mark.depthAfter, code, isTop, opening]
    · by_cases closing : isClosing mark.char
      · simp [codePlaces, topOffsetsFrom, Mark.depthAfter, code, isTop, opening, closing]
      · simp only [codePlaces, topOffsetsFrom, Mark.depthAfter, code, isTop, opening, closing,
          if_true, Bool.true_and, if_false, Bool.false_eq_true, not_false_eq_true, true_and]
        split
        · rfl
        · rfl

/-- The run that slices goes from mark to mark with the depth, and slices at the cuts. -/
theorem slicesFrom_mark (text : Text) (start offset depth : Nat) (mark : Mark) (rest : List Mark) :
    slicesFrom separator text start depth (codePlaces offset (mark :: rest)) =
      if (Placed.mk mark depth).isTop separator then
        takeBytes (offset - start) (dropBytes start text) ::
          slicesFrom separator text (offset + mark.char.utf8Size) (mark.depthAfter depth)
            (codePlaces (offset + mark.char.utf8Size) rest)
      else slicesFrom separator text start (mark.depthAfter depth)
        (codePlaces (offset + mark.char.utf8Size) rest) := by
  cases code : mark.code with
  | false => simp [codePlaces, Placed.isTop, Mark.is, Mark.depthAfter, code]
  | true =>
    have isTop := isTop_of_code neutral code depth
    by_cases opening : isOpening mark.char
    · simp [codePlaces, slicesFrom, Mark.depthAfter, code, isTop, opening]
    · by_cases closing : isClosing mark.char
      · simp [codePlaces, slicesFrom, Mark.depthAfter, code, isTop, opening, closing]
      · simp [codePlaces, slicesFrom, Mark.depthAfter, code, isTop, opening, closing]

/-- The listed offsets are those of the gaps between the pieces. -/
theorem topOffsetsFrom_eq_gapOffsets (offset depth : Nat) (marked : List Mark) :
    topOffsetsFrom separator depth (codePlaces offset marked) =
      gapOffsetsFrom separator offset
        ((List.splitOnP (fun place => place.isTop separator) (placeFrom depth marked)).map unplace) := by
  induction marked generalizing offset depth with
  | nil => rfl
  | cons mark marked inductionHypothesis =>
    have later := inductionHypothesis (offset + mark.char.utf8Size) (mark.depthAfter depth)
    obtain ⟨piece, pieces, found⟩ := List.exists_cons_of_ne_nil
      (List.splitOnP_ne_nil (fun place : Placed => place.isTop separator)
        (placeFrom (mark.depthAfter depth) marked))
    rw [topOffsetsFrom_mark neutral, later, placeFrom, found]
    by_cases top : (Placed.mk mark depth).isTop separator
    · have same : mark.char = separator := (isTop_iff.mp top).1.2
      rw [if_pos top, splitOnP_cons_of (fun place => Placed.isTop place separator) top, found, same]
      rfl
    · rw [if_neg top, splitOnP_cons_of_not (by simpa using top) found]
      exact (gapOffsetsFrom_cons_char separator offset mark.char (unplace piece)
        (pieces.map unplace)).symm

/-- The slices are the pieces, the first of them behind what was passed since the last cut. At a
cut, what was passed is sliced off, and nothing is passed since then. -/
theorem slicesFrom_eq_pieces (before passed : Text) (depth : Nat) (marked : List Mark) :
    ∃ piece pieces,
      (List.splitOnP (fun place => place.isTop separator) (placeFrom depth marked)).map unplace =
        piece :: pieces ∧
      slicesFrom separator (before ++ passed ++ unmark marked) (size before) depth
        (codePlaces (size (before ++ passed)) marked) = (passed ++ piece) :: pieces := by
  induction marked generalizing before passed depth with
  | nil =>
    refine ⟨[], [], rfl, ?_⟩
    have kept := (bytes_append before passed).2
    simp [slicesFrom, codePlaces, unmark, kept]
  | cons mark marked inductionHypothesis =>
    rw [slicesFrom_mark neutral, placeFrom, ← size_concat]
    have whole : before ++ passed ++ unmark (mark :: marked) =
        before ++ passed ++ [mark.char] ++ unmark marked := by
      simp [unmark]
    by_cases top : (Placed.mk mark depth).isTop separator
    · obtain ⟨piece, pieces, found, sliced⟩ :=
        inductionHypothesis (before ++ passed ++ [mark.char]) [] (mark.depthAfter depth)
      rw [List.append_nil, ← whole] at sliced
      have slice : takeBytes (size (before ++ passed) - size before)
          (dropBytes (size before) (before ++ passed ++ unmark (mark :: marked))) = passed := by
        rw [size_append, Nat.add_sub_cancel_left, List.append_assoc, (bytes_append before _).2,
          (bytes_append passed _).1]
      refine ⟨[], piece :: pieces, ?_, ?_⟩
      · rw [splitOnP_cons_of (fun place => Placed.isTop place separator) top, List.map_cons, found]
        rfl
      · rw [if_pos top, slice, sliced, List.append_nil]
        rfl
    · obtain ⟨piece, pieces, found, sliced⟩ :=
        inductionHypothesis before (passed ++ [mark.char]) (mark.depthAfter depth)
      rw [← List.append_assoc, ← whole] at sliced
      obtain ⟨head, tail, cut⟩ := List.exists_cons_of_ne_nil
        (List.splitOnP_ne_nil (fun place : Placed => place.isTop separator)
          (placeFrom (mark.depthAfter depth) marked))
      rw [cut, List.map_cons, List.cons.injEq] at found
      obtain ⟨rfl, rfl⟩ := found
      refine ⟨mark.char :: unplace head, tail.map unplace, ?_, ?_⟩
      · rw [splitOnP_cons_of_not (by simpa using top) cut]
        rfl
      · rw [if_neg top, sliced, List.append_assoc]
        rfl

/-- A text is cut into the slices of the one run. -/
theorem splitTop_eq_slices (text : Text) : splitTop separator text = slices separator text := by
  obtain ⟨piece, pieces, found, sliced⟩ := slicesFrom_eq_pieces neutral [] [] 0 (marks text)
  rw [splitTop, slices, scanCode_eq_codePlaces, placed, found]
  simpa [size] using sliced.symm

/-- The offsets of the other run are those between the pieces. -/
theorem topOffsets_eq_gapOffsets (text : Text) :
    topOffsets separator text = gapOffsetsFrom separator 0 (splitTop separator text) := by
  rw [topOffsets, scanCode_eq_codePlaces]
  exact topOffsetsFrom_eq_gapOffsets neutral 0 0 (marks text)

end Runs

/-- Cutting a text at its commas loses nothing and leaves no piece to be cut, and it is cut
exactly where a comma stands in code outside brackets. The pieces are what one run over the code
slices, and the offsets between them are what the other run lists. -/
theorem list_cut_exactly (text : Text) :
    join [','] (splitTop ',' text) = text ∧
      (∀ piece ∈ splitTop ',' text, splitTop ',' piece = [piece]) ∧
      gapsFrom 0 (splitTop ',' text) = topPositions ',' text ∧
      splitTop ',' text = slices ',' text ∧
      gapOffsetsFrom ',' 0 (slices ',' text) = topOffsets ',' text := by
  have neutral : isNeutral ',' := by decide
  have sliced := splitTop_eq_slices neutral text
  refine ⟨join_splitTop ',' text, ?_, (topPositions_eq_gapsFrom ',' text).symm, sliced, ?_⟩
  · intro piece member
    exact splitTop_of_avoids (avoids_of_mem_splitTop neutral member)
  · rw [← sliced, topOffsets_eq_gapOffsets neutral]

/-- A text with a bracket that closes too early, one that stays open, and an open literal. -/
theorem list_cut_exactly_malformed :
    "b['x,y".toList ∈ splitTop ',' "a),b['x,y" ∧ splitTop ',' "b['x,y" = ["b['x,y".toList] ∧
      topPositions ',' "a),b['x,y" = [2] := by
  have member : "b['x,y".toList ∈ splitTop ',' "a),b['x,y" := by decide
  exact ⟨member, (list_cut_exactly "a),b['x,y").2.1 _ member, by decide⟩

end PyxProject.Text
