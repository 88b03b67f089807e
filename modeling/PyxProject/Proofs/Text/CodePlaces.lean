import PyxProject.Proofs.Text.Regions

/-!
# The code of a text by offsets

A literal starts at a delimiter and ends at the next one of its kind that no backslash
precedes. What stands outside literals is listed with its offset in bytes (`scanCode`), without
marks and without the scanner that makes them. The list holds the places of the marks that are
code (`scanCode_eq_codePlaces`), so a proof about what it shows can go along the marks.
-/

namespace PyxProject.Text

/-- The characters outside literals with their offsets in bytes, of a text that starts at a
given offset, in code or in a literal with the given delimiter. -/
def scanCodeFrom (offset : Nat) : Option Char → Text → List (Nat × Char)
  | _, [] => []
  | none, char :: rest =>
    if isDelimiter char then scanCodeFrom (offset + char.utf8Size) (some char) rest
    else (offset, char) :: scanCodeFrom (offset + char.utf8Size) none rest
  | some delimiter, '\\' :: escaped :: rest =>
    scanCodeFrom (offset + '\\'.utf8Size + escaped.utf8Size) (some delimiter) rest
  | some delimiter, char :: rest =>
    scanCodeFrom (offset + char.utf8Size) (if char = delimiter then none else some delimiter) rest

/-- The characters of a text outside literals, with their offsets in bytes. -/
def scanCode (text : Text) : List (Nat × Char) := scanCodeFrom 0 none text

/-- The number of bytes of a text. -/
def size : Text → Nat
  | [] => 0
  | char :: rest => char.utf8Size + size rest

/-- The characters that start before an offset. -/
def takeBytes (offset : Nat) : Text → Text
  | [] => []
  | char :: rest => if offset = 0 then [] else char :: takeBytes (offset - char.utf8Size) rest

/-- The characters that do not start before an offset. -/
def dropBytes (offset : Nat) : Text → Text
  | [] => []
  | char :: rest => if offset = 0 then char :: rest else dropBytes (offset - char.utf8Size) rest

/-- The places of the marks that are code, if the first mark has the given offset. -/
def codePlaces (offset : Nat) : List Mark → List (Nat × Char)
  | [] => []
  | mark :: rest =>
    let later := codePlaces (offset + mark.char.utf8Size) rest
    if mark.code then (offset, mark.char) :: later else later

/-- The region of a text that is in code, or in a literal with the given delimiter. -/
def Region.within : Option Char → Region
  | none => .code
  | some delimiter => .literal delimiter

/-- What stands outside literals is what the scanner marks as code. A backslash that escapes
nothing ends the text. -/
theorem scanCodeFrom_eq_codePlaces (offset : Nat) (open? : Option Char)
    (delimiters : ∀ delimiter ∈ open?, isDelimiter delimiter) (text : Text) :
    scanCodeFrom offset open? text = codePlaces offset (marksFrom (.within open?) text) := by
  fun_induction scanCodeFrom offset open? text with
  | case1 offset open? => rfl
  | case2 offset char rest opens inductionHypothesis =>
    have later := inductionHypothesis (by simpa using opens)
    simpa [Region.within, marksFrom, codePlaces, Region.isCode, Region.next, opens] using later
  | case3 offset char rest plain inductionHypothesis =>
    have later := inductionHypothesis (by simp)
    simpa [Region.within, marksFrom, codePlaces, Region.isCode, Region.next, plain] using later
  | case4 offset delimiter escaped rest inductionHypothesis =>
    have later := inductionHypothesis delimiters
    simpa [Region.within, marksFrom, codePlaces, Region.isCode, Region.next] using later
  | case5 offset delimiter char rest single inductionHypothesis =>
    by_cases backslash : char = '\\'
    · cases rest with
      | nil => simp [scanCodeFrom, Region.within, marksFrom, codePlaces, Region.isCode]
      | cons escaped rest => exact absurd rfl (single escaped rest backslash)
    · by_cases closes : char = delimiter
      · subst closes
        have later := inductionHypothesis (by simp)
        simpa [Region.within, marksFrom, codePlaces, Region.isCode, Region.next, backslash]
          using later
      · have later := inductionHypothesis (by simpa [closes] using delimiters)
        simpa [Region.within, marksFrom, codePlaces, Region.isCode, Region.next, backslash, closes]
          using later

/-- The places of code are those of the marks that are code. -/
theorem scanCode_eq_codePlaces (text : Text) : scanCode text = codePlaces 0 (marks text) :=
  scanCodeFrom_eq_codePlaces 0 none (by simp) text

/-- A text is cut where its first part ends. -/
theorem bytes_append (first second : Text) :
    takeBytes (size first) (first ++ second) = first ∧
      dropBytes (size first) (first ++ second) = second := by
  induction first with
  | nil => cases second <;> simp [size, takeBytes, dropBytes]
  | cons char first inductionHypothesis =>
    have positive : size (char :: first) ≠ 0 := by
      have := char.utf8Size_pos
      simp [size]
      omega
    have rest : size (char :: first) - char.utf8Size = size first := by
      simp [size]
    rw [List.cons_append, takeBytes, dropBytes, if_neg positive, if_neg positive, rest,
      inductionHypothesis.1, inductionHypothesis.2]
    exact ⟨rfl, rfl⟩

/-- The bytes of two texts add up. -/
theorem size_append (first second : Text) : size (first ++ second) = size first + size second := by
  induction first with
  | nil => simp [size]
  | cons char first inductionHypothesis =>
    rw [List.cons_append, size, size, inductionHypothesis, Nat.add_assoc]

/-- A text with one more character has that many more bytes. -/
theorem size_concat (before : Text) (char : Char) :
    size (before ++ [char]) = size before + char.utf8Size := by
  simp [size_append, size]

end PyxProject.Text
