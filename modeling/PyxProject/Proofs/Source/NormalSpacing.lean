import Mathlib.Data.List.Chain
import PyxProject.Proofs.Source.Squeezed
import PyxProject.Proofs.Text.Spacing

/-!
# Texts with normal spacing

A squeezed text has normal spacing: no blanks at its ends, and outside literals no blank but
single spaces (`SingleSpaced`). Squeezing writes nothing but what the trimmed text holds
besides blanks in code (`inked_squeezedMarks`), and a literal is never torn apart or put
together with another (`literalRunsFrom_squeezedMarks`). What is squeezed again stays as it is, and
a line is read as it was before, by its role and by its header (`squeeze_normalizes`).
-/

namespace PyxProject.Text

/-- Whether a mark is a blank in code. -/
def Mark.isGap (mark : Mark) : Bool := mark.code && isBlank mark.char

/-- Marks whose blanks in code are single spaces. -/
structure SingleSpaced (marked : List Mark) : Prop where
  /-- No blank in code is anything but a space. -/
  spaces : ∀ mark ∈ marked, mark.isGap → mark.char = ' '
  /-- No two blanks in code come in a row. -/
  apart : marked.IsChain fun mark next => ¬(mark.isGap ∧ next.isGap)

/-- The marks that are no blanks in code. -/
def inked (marked : List Mark) : List Mark := marked.filter fun mark => !mark.isGap

/-- A run of characters that has come to its end, if it has any. -/
def closed (run : Text) : List Text := if run.isEmpty then [] else [run]

/-- The longest runs of characters that stand in literals, where one run has been begun. -/
def literalRunsFrom (run : Text) : List Mark → List Text
  | [] => closed run
  | mark :: rest =>
    if mark.code then closed run ++ literalRunsFrom [] rest
    else literalRunsFrom (run ++ [mark.char]) rest

/-- The longest runs of characters of a text that stand in literals. -/
def literalRuns (text : Text) : List Text := literalRunsFrom [] (marks text)

/-- A mark that is no blank in code may stand before single spaced marks. -/
theorem SingleSpaced.cons {mark : Mark} {marked : List Mark} (ink : mark.isGap = false)
    (later : SingleSpaced marked) : SingleSpaced (mark :: marked) := by
  constructor
  · intro other member gap
    rcases List.mem_cons.mp member with rfl | member
    · rw [ink] at gap
      cases gap
    · exact later.spaces other member gap
  · refine List.isChain_cons.mpr ⟨?_, later.apart⟩
    intro next _ gaps
    rw [ink] at gaps
    cases gaps.1

/-- A space may stand before a mark that is no blank in code. -/
theorem SingleSpaced.cons_space {mark : Mark} {marked : List Mark} (ink : mark.isGap = false)
    (later : SingleSpaced (mark :: marked)) : SingleSpaced (⟨' ', true⟩ :: mark :: marked) := by
  constructor
  · intro other member gap
    rcases List.mem_cons.mp member with rfl | member
    · rfl
    · exact later.spaces other member gap
  · refine List.isChain_cons_cons.mpr ⟨?_, later.apart⟩
    intro gaps
    rw [ink] at gaps
    cases gaps.2

/-- Squeezed marks are single spaced. -/
theorem singleSpaced_squeezedMarks (pending : Bool) (marked : List Mark) :
    SingleSpaced (squeezedMarks pending marked) := by
  induction marked generalizing pending with
  | nil => exact ⟨List.forall_mem_nil _, List.IsChain.nil⟩
  | cons mark marked inductionHypothesis =>
    by_cases gap : mark.isGap
    · have run : (mark.code && isBlank mark.char) = true := gap
      simpa only [squeezedMarks, run, if_true] using inductionHypothesis true
    · have ink : mark.isGap = false := Bool.eq_false_iff.mpr gap
      have run : (mark.code && isBlank mark.char) = false := ink
      have later := (inductionHypothesis false).cons ink
      cases pending with
      | false => simpa only [squeezedMarks, run, Bool.false_eq_true, if_false] using later
      | true =>
        simpa only [squeezedMarks, run, Bool.false_eq_true, if_false, if_true]
          using later.cons_space ink

/-- Squeezing keeps every mark that is no blank in code, and adds none. -/
theorem inked_squeezedMarks (pending : Bool) (marked : List Mark) :
    inked (squeezedMarks pending marked) = inked marked := by
  have space : Mark.isGap ⟨' ', true⟩ = true := rfl
  induction marked generalizing pending with
  | nil => rfl
  | cons mark marked inductionHypothesis =>
    by_cases gap : mark.isGap
    · have run : (mark.code && isBlank mark.char) = true := gap
      have passed := inductionHypothesis true
      simp only [inked] at passed ⊢
      simp only [squeezedMarks, run, if_true, passed, List.filter_cons, gap, Bool.not_true,
        Bool.false_eq_true, if_false]
    · have ink : mark.isGap = false := Bool.eq_false_iff.mpr gap
      have run : (mark.code && isBlank mark.char) = false := ink
      have kept := inductionHypothesis false
      simp only [inked] at kept ⊢
      cases pending <;>
        simp only [squeezedMarks, run, Bool.false_eq_true, if_false, if_true, List.filter_cons, ink,
          space, Bool.not_true, Bool.not_false, kept]

/-- Squeezing keeps every literal. A run of blanks ends the literal before it, and so does the
space that is written for it. -/
theorem literalRunsFrom_squeezedMarks (pending : Bool) (marked : List Mark) (run : Text) :
    literalRunsFrom run (squeezedMarks pending marked) =
      if pending then closed run ++ literalRunsFrom [] marked else literalRunsFrom run marked := by
  induction marked generalizing pending run with
  | nil => cases pending <;> simp [squeezedMarks, literalRunsFrom, closed]
  | cons mark marked inductionHypothesis =>
    by_cases gap : mark.isGap
    · obtain ⟨code, blank⟩ := Bool.and_eq_true_iff.mp gap
      have passed := inductionHypothesis true run
      cases pending <;> simpa [squeezedMarks, code, blank, literalRunsFrom, closed] using passed
    · have ink : (mark.code && isBlank mark.char) = false := Bool.eq_false_iff.mpr gap
      have kept (run : Text) : literalRunsFrom run (mark :: squeezedMarks false marked) =
          literalRunsFrom run (mark :: marked) := by
        have later (run : Text) := inductionHypothesis false run
        simp only [Bool.false_eq_true, if_false] at later
        simp only [literalRunsFrom, later]
      cases pending with
      | false => simpa only [squeezedMarks, ink, Bool.false_eq_true, if_false] using kept run
      | true =>
        simp only [squeezedMarks, ink, Bool.false_eq_true, if_false, if_true, ← kept]
        rfl

/-- What is squeezed again stays as it is. -/
theorem squeeze_idempotent (text : Text) : squeeze (squeeze text) = squeeze text := by
  rcases tight_trim text with empty | tight
  · have nothing : squeeze text = [] := (squeeze_eq_nil_iff text).mpr empty
    rw [nothing]
    rfl
  · rw [← squeeze_trim text]
    exact squeeze_squeeze tight

end PyxProject.Text

namespace PyxProject.Source

/-- Squeezing gives a text normal spacing and changes nothing else. Squeezed again it stays as
it is. It has no blanks at its ends and no blanks in code but single spaces. Without blanks in
code it is what the trimmed text is without them, with the same literals. A trimmed line keeps
its role, whatever names the file binds, and its header is squeezed with it. -/
theorem squeeze_normalizes (text : Text) :
    Text.squeeze (Text.squeeze text) = Text.squeeze text ∧
      Text.trim (Text.squeeze text) = Text.squeeze text ∧
      Text.SingleSpaced (Text.marks (Text.squeeze text)) ∧
      Text.inked (Text.marks (Text.squeeze text)) = Text.inked (Text.marks (Text.trim text)) ∧
      Text.literalRuns (Text.squeeze text) = Text.literalRuns (Text.trim text) ∧
      (Text.trim text = text → ∀ lines,
        LineRole.of (.ofLines lines) (Text.squeeze text) = LineRole.of (.ofLines lines) text ∧
          headerOf (Text.squeeze text) = Text.squeeze (headerOf text)) := by
  refine ⟨Text.squeeze_idempotent text, Text.trim_squeeze text, ?_, ?_, ?_, ?_⟩
  · rw [Text.marks_squeeze]
    exact Text.singleSpaced_squeezedMarks false _
  · rw [Text.marks_squeeze]
    exact Text.inked_squeezedMarks false _
  · rw [Text.literalRuns, Text.marks_squeeze]
    exact Text.literalRunsFrom_squeezedMarks false _ []
  · intro trimmed lines
    rcases Text.tight_trim text with empty | tight
    · obtain rfl : text = [] := trimmed.symm.trans empty
      exact ⟨rfl, rfl⟩
    · rw [trimmed] at tight
      exact ⟨role_squeeze (areWords_ofLines lines) tight, (headerOf_squeeze tight).1⟩

/-- A definition with its body on the same line, with wide blanks in code and in a literal. -/
theorem squeeze_normalizes_definition :
    Text.trim "cdef  int f(s =\t'a  b'):  pass" = "cdef  int f(s =\t'a  b'):  pass".toList ∧
      LineRole.of (.ofLines []) (Text.squeeze "cdef  int f(s =\t'a  b'):  pass") =
        LineRole.of (.ofLines []) "cdef  int f(s =\t'a  b'):  pass" ∧
      headerOf (Text.squeeze "cdef  int f(s =\t'a  b'):  pass") =
        "cdef int f(s = 'a  b'):".toList := by
  have trimmed : Text.trim "cdef  int f(s =\t'a  b'):  pass" =
      "cdef  int f(s =\t'a  b'):  pass".toList := by decide
  obtain ⟨role, header⟩ :=
    (squeeze_normalizes "cdef  int f(s =\t'a  b'):  pass").2.2.2.2.2 trimmed []
  exact ⟨trimmed, role, header.trans (by decide)⟩

end PyxProject.Source
