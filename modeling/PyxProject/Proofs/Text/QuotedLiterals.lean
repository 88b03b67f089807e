import Mathlib.Tactic.IntervalCases
import PyxProject.Proofs.Text.Lines
import PyxProject.Text.Quoted

/-!
# Reading double-quoted literals

The literals of a line are read from left to right. Outside a literal nothing but a double
quote has a meaning; inside, a backslash starts an escape and a double quote ends the literal
(`literals`). A literal that quotes a text is read as that text, whatever stands in the text
and after the literal (`literalsFrom_quote`), and so are literals in a row
(`literalsFrom_join`). No quoted text breaks its line (`oneLine_quote`).
-/

namespace PyxProject.Text

/-- The value of a digit of base sixteen, in either case. -/
def hexValue? (digit : Char) : Option Nat :=
  if '0' ≤ digit ∧ digit ≤ '9' then some (digit.toNat - '0'.toNat)
  else if 'a' ≤ digit ∧ digit ≤ 'f' then some (digit.toNat - 'a'.toNat + 10)
  else if 'A' ≤ digit ∧ digit ≤ 'F' then some (digit.toNat - 'A'.toNat + 10)
  else none

/-- The character whose code point four digits of base sixteen give. Half of a surrogate pair
is no character. -/
def codedChar? (first second third fourth : Char) : Option Char := do
  let code := ((16 * (← hexValue? first) + (← hexValue? second)) * 16 + (← hexValue? third)) * 16 +
    (← hexValue? fourth)
  if code.isValidChar then some (Char.ofNat code) else none

/-- The character that a letter after a backslash stands for. -/
def escapedChar? : Char → Option Char
  | '"' => some '"'
  | '\\' => some '\\'
  | 'b' => some (Char.ofNat 0x08)
  | 't' => some '\t'
  | 'n' => some '\n'
  | 'f' => some (Char.ofNat 0x0C)
  | 'r' => some '\r'
  | _ => none

/-- The literals in the rest of a line. If a literal is open, what has been read of it is
given. A literal that is not closed, or that holds an escape of another kind, is refused. -/
def literalsFrom : Option Text → Text → Option (List Text)
  | none, [] => some []
  | some _, [] => none
  | none, '"' :: rest => literalsFrom (some []) rest
  | none, _ :: rest => literalsFrom none rest
  | some content, '"' :: rest => (literalsFrom none rest).map (content :: ·)
  | some content, '\\' :: 'u' :: first :: second :: third :: fourth :: rest =>
    (codedChar? first second third fourth).bind fun char =>
      literalsFrom (some (content ++ [char])) rest
  | some content, '\\' :: letter :: rest =>
    (escapedChar? letter).bind fun char => literalsFrom (some (content ++ [char])) rest
  | some content, char :: rest => literalsFrom (some (content ++ [char])) rest

/-- The double-quoted literals of a line, from left to right. -/
def literals (line : Text) : Option (List Text) := literalsFrom none line

/-- A character below the space is one of the first 32. -/
theorem exists_control {char : Char} (control : ¬0x20 ≤ char.toNat) :
    ∃ code < 32, char = Char.ofNat code :=
  ⟨char.toNat, by omega, (Char.ofNat_toNat char).symm⟩

/-- A character is read as it was escaped. -/
theorem literalsFrom_escapeChar (content : Text) (char : Char) (rest : Text) :
    literalsFrom (some content) (escapeChar char ++ rest) =
      literalsFrom (some (content ++ [char])) rest := by
  by_cases quote : char = '"'
  · subst quote
    rfl
  by_cases backslash : char = '\\'
  · subst backslash
    rfl
  by_cases printed : 0x20 ≤ char.toNat
  · have plain : escapeChar char = [char] := by
      simp only [escapeChar, quote, backslash, printed, if_false, if_true]
    rw [plain, List.singleton_append, literalsFrom]
    · simpa using quote
    · simp [backslash]
    · simp [backslash]
  · obtain ⟨code, bound, rfl⟩ := exists_control printed
    interval_cases code <;> rfl

/-- A text is read as it was escaped, character by character. -/
theorem literalsFrom_flatMap_escapeChar (content text rest : Text) :
    literalsFrom (some content) (text.flatMap escapeChar ++ rest) =
      literalsFrom (some (content ++ text)) rest := by
  induction text generalizing content with
  | nil => simp
  | cons char text inductionHypothesis =>
    rw [List.flatMap_cons, List.append_assoc, literalsFrom_escapeChar, inductionHypothesis,
      List.append_assoc, List.singleton_append]

/-- A quoted text is read as one literal, with that content. -/
theorem literalsFrom_quote (text rest : Text) :
    literalsFrom none (quote text ++ rest) = (literalsFrom none rest).map (text :: ·) := by
  have opened : quote text ++ rest = '"' :: (text.flatMap escapeChar ++ '"' :: rest) := by
    simp [quote]
  rw [opened, literalsFrom, literalsFrom_flatMap_escapeChar, List.nil_append, literalsFrom]

/-- Where no quote stands there is no literal. -/
theorem literalsFrom_plain {text : Text} (plain : '"' ∉ text) (rest : Text) :
    literalsFrom none (text ++ rest) = literalsFrom none rest := by
  induction text with
  | nil => rfl
  | cons char text inductionHypothesis =>
    obtain ⟨different, absent⟩ : '"' ≠ char ∧ '"' ∉ text := by simpa using plain
    rw [List.cons_append, literalsFrom]
    · exact inductionHypothesis absent
    · simpa using Ne.symm different

/-- A text without quotes holds no literals. -/
theorem literalsFrom_of_plain {text : Text} (plain : '"' ∉ text) :
    literalsFrom none text = some [] := by
  have alone := literalsFrom_plain plain []
  rwa [List.append_nil, literalsFrom] at alone

/-- Quoted texts in a row are read as their literals, whatever they hold. -/
theorem literalsFrom_join {separator : Text} (plain : '"' ∉ separator) (texts : List Text)
    (rest : Text) :
    literalsFrom none (join separator (texts.map quote) ++ rest) =
      (literalsFrom none rest).map (texts ++ ·) := by
  induction texts with
  | nil => simp [join]
  | cons text others inductionHypothesis =>
    cases others with
    | nil =>
      rw [List.map_singleton, join, List.intercalate_singleton, literalsFrom_quote]
      rfl
    | cons next others =>
      rw [List.map_cons, List.map_cons, join, List.intercalate_cons_cons, ← List.map_cons, ← join,
        List.append_assoc, List.append_assoc, literalsFrom_quote, literalsFrom_plain plain,
        inductionHypothesis, Option.map_map]
      rfl

/-- A character is escaped without control characters. -/
theorem printed_of_mem_escapeChar {char written : Char} (member : written ∈ escapeChar char) :
    0x20 ≤ written.toNat := by
  by_cases quote : char = '"'
  · subst quote
    revert written
    decide
  by_cases backslash : char = '\\'
  · subst backslash
    revert written
    decide
  by_cases printed : 0x20 ≤ char.toNat
  · simp only [escapeChar, quote, backslash, printed, if_false, if_true] at member
    exact List.mem_singleton.mp member ▸ printed
  · obtain ⟨code, bound, rfl⟩ := exists_control printed
    revert written
    interval_cases code <;> decide

/-- A quoted text stays on its line. -/
theorem oneLine_quote {text : Text} {written : Char} (member : written ∈ quote text) :
    written ≠ '\n' ∧ written ≠ '\r' := by
  have printed : 0x20 ≤ written.toNat := by
    simp only [quote, List.cons_append, List.mem_cons, List.mem_append, List.mem_flatMap,
      List.not_mem_nil, or_false] at member
    rcases member with rfl | ⟨char, -, escaped⟩ | rfl
    · decide
    · exact printed_of_mem_escapeChar escaped
    · decide
  constructor <;> rintro rfl <;> exact absurd printed (by decide)

end PyxProject.Text
