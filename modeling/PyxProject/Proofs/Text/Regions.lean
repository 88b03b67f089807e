import Mathlib.Data.List.TakeWhile
import PyxProject.Text.Literal

/-!
# Regions of a text

The scanner for literals is carried over a text by the region it is in. Marking a text
is marking its parts, each from the region that the part before it leaves
(`marksFrom_append`). Blanks neither open nor close a literal, so a run of them leaves
the scanner in code if it was in code.
-/

namespace PyxProject.Text

/-- The region after a text. -/
def regionAfter (region : Region) (text : Text) : Region := text.foldl Region.next region

/-- An empty text leaves the region as it is. -/
@[simp]
theorem regionAfter_nil (region : Region) : regionAfter region [] = region := rfl

/-- The region after a text is reached through the one after its first character. -/
@[simp]
theorem regionAfter_cons (region : Region) (char : Char) (text : Text) :
    regionAfter region (char :: text) = regionAfter (region.next char) text := rfl

/-- The region after two texts is the one that the second leaves behind the first. -/
@[simp]
theorem regionAfter_append (region : Region) (first second : Text) :
    regionAfter region (first ++ second) = regionAfter (regionAfter region first) second :=
  List.foldl_append

/-- The second part of a text is marked from the region after the first. -/
theorem marksFrom_append (region : Region) (first second : Text) :
    marksFrom region (first ++ second) =
      marksFrom region first ++ marksFrom (regionAfter region first) second := by
  induction first generalizing region with
  | nil => rfl
  | cons char first inductionHypothesis =>
    simp only [List.cons_append, marksFrom, inductionHypothesis, regionAfter_cons]

/-- A text has one mark for each character. -/
@[simp]
theorem length_marksFrom (region : Region) (text : Text) :
    (marksFrom region text).length = text.length := by
  have same := congrArg List.length (unmark_marksFrom region text)
  simpa [unmark] using same

/-- What holds of the characters of a text holds of the characters of its marks. -/
theorem forall_marksFrom {property : Char → Prop} {text : Text} (holds : ∀ char ∈ text, property char)
    (region : Region) : ∀ mark ∈ marksFrom region text, property mark.char := by
  intro mark member
  apply holds
  rw [← unmark_marksFrom region text]
  exact List.mem_map_of_mem member

/-- A text is kept whole exactly if no number sign stands in its code. -/
theorem withoutComment_eq_self_iff (text : Text) :
    withoutComment text = text ↔ ∀ mark ∈ marks text, mark.is '#' = false := by
  constructor
  · intro whole
    have passed : (marks text).takeWhile (fun mark => !mark.is '#') = marks text := by
      apply (List.takeWhile_prefix _).eq_of_length
      have lengths := congrArg List.length (whole.trans (unmark_marks text).symm)
      simpa only [withoutComment, unmark, List.length_map] using lengths
    simpa using List.takeWhile_eq_self_iff.mp passed
  · intro code
    rw [withoutComment, List.takeWhile_eq_self_iff.mpr (by simpa using code), unmark_marks]

/-- A text without the character that starts a comment is kept whole. -/
theorem withoutComment_of_absent {text : Text} (absent : '#' ∉ text) : withoutComment text = text := by
  rw [withoutComment_eq_self_iff]
  intro mark member
  have other : mark.char ≠ '#' := by
    rintro same
    apply absent
    rw [← unmark_marks text, ← same]
    exact List.mem_map_of_mem member
  simp [Mark.is, other]

/-- The first marks of a text are the marks of its beginning. -/
theorem marks_of_append {text : Text} {first second : List Mark}
    (whole : marks text = first ++ second) : marks (unmark first) = first := by
  have parts : text = unmark first ++ unmark second := by
    rw [← unmark_marks text, whole, unmark, List.map_append]
    rfl
  have marked := whole
  rw [parts, marks, marksFrom_append] at marked
  have length : (marksFrom .code (unmark first)).length = first.length := by simp [unmark]
  exact (List.append_inj marked length).1

/-- The sum of the weights of marks. -/
def total (weight : Mark → Int) : List Mark → Int
  | [] => 0
  | mark :: rest => weight mark + total weight rest

/-- Weights are added up part by part. -/
theorem total_append (weight : Mark → Int) (first second : List Mark) :
    total weight (first ++ second) = total weight first + total weight second := by
  induction first with
  | nil => exact (Int.zero_add _).symm
  | cons mark first inductionHypothesis =>
    rw [List.cons_append, total, total, inductionHypothesis, Int.add_assoc]

/-- A character that is not blank differs from one that is. -/
theorem ne_of_isBlank {blank : Char} (isBlank : isBlank blank) (char : Char)
    (letter : Text.isBlank char = false) : blank ≠ char := by
  rintro rfl
  rw [isBlank] at letter
  cases letter

/-- A blank opens no literal. -/
theorem isDelimiter_of_isBlank {blank : Char} (isBlank : isBlank blank) :
    isDelimiter blank = false := by
  have apostrophe : blank ≠ '\'' := ne_of_isBlank isBlank '\'' (by decide)
  have quote : blank ≠ '"' := ne_of_isBlank isBlank '"' (by decide)
  simp [isDelimiter, apostrophe, quote]

/-- A blank in code leaves the scanner in code. -/
theorem next_code_of_isBlank {blank : Char} (isBlank : isBlank blank) :
    Region.code.next blank = .code := by
  simp [Region.next, isDelimiter_of_isBlank isBlank]

/-- A run of blanks in code leaves the scanner in code. -/
theorem regionAfter_blanks {blanks : Text} (allBlank : ∀ char ∈ blanks, isBlank char) :
    regionAfter .code blanks = .code := by
  induction blanks with
  | nil => rfl
  | cons blank blanks inductionHypothesis =>
    obtain ⟨isBlank, allBlank⟩ := List.forall_mem_cons.mp allBlank
    rw [regionAfter_cons, next_code_of_isBlank isBlank, inductionHypothesis allBlank]

/-- Only in code a character is code. -/
theorem region_of_isCode {region : Region} {char : Char} (code : region.isCode char) :
    region = .code := by
  cases region with
  | code => rfl
  | literal delimiter => cases code
  | escape delimiter => cases code

/-- A blank in code is code. -/
theorem isCode_of_isBlank {blank : Char} (isBlank : isBlank blank) :
    Region.code.isCode blank = true := by
  simp [Region.isCode, isDelimiter_of_isBlank isBlank]

/-- The marks of a run of blanks in code are blanks in code. -/
theorem marksFrom_blanks {blanks : Text} (allBlank : ∀ char ∈ blanks, isBlank char) :
    ∀ mark ∈ marksFrom .code blanks, mark.code ∧ isBlank mark.char := by
  induction blanks with
  | nil => exact List.forall_mem_nil _
  | cons blank blanks inductionHypothesis =>
    obtain ⟨isBlank, allBlank⟩ := List.forall_mem_cons.mp allBlank
    rw [marksFrom, next_code_of_isBlank isBlank]
    exact List.forall_mem_cons.mpr
      ⟨⟨isCode_of_isBlank isBlank, isBlank⟩, inductionHypothesis allBlank⟩

end PyxProject.Text
