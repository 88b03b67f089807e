import PyxProject.Proofs.Source.Lines
import PyxProject.Proofs.Source.Squeezed
import PyxProject.Proofs.Stub.Contributions
import PyxProject.Proofs.Stub.Signatures

/-!
# Lines that end inside a bracket

A construct that goes on in the next line must not appear in a stub with its first line
only. For definitions this is watched: a line that leaves a signature open ends the
reading. Nothing watches the other lines of the interface, nor brackets other than
parentheses.

What a written line leaves open is followed here through every form of rewriting, and is
the same as what the source line leaves open in the part that is kept
(`openBrackets_shownText`). A stub therefore has a half line exactly if such a part of a
contributing line is one (`half_lines_of_generate`), and there are stubs that have
(`half_lines_are_written`).
-/

namespace PyxProject.Stub

open Source

/-- An import in a stub leaves open what the import leaves open. -/
theorem openBrackets_importInStub {text : Text} (tight : Text.Tight text) :
    Text.openBrackets (importInStub text) = Text.openBrackets text := by
  have keyword (word : Text) : Text.ReadsAlike (plainImport word) word := by
    rw [plainImport]
    split
    · rename_i native
      rw [native]
      exact Text.readsAlike_of_neutral (by decide) (by decide) (by decide) (by decide)
    · exact .refl word
  have same (words : List Text) : List.Forall₂ Text.ReadsAlike words words :=
    List.forall₂_same.mpr fun word _ => .refl word
  have alike : Text.ReadsAlike (importInStub text) (Text.join " " (Text.words text)) := by
    rw [importInStub]
    apply Text.readsAlike_join
    rcases Text.words text with _ | ⟨first, _ | ⟨second, _ | ⟨third, rest⟩⟩⟩
    · exact .nil
    · exact .cons (keyword first) .nil
    · exact .cons (keyword first) (same _)
    · dsimp only
      split
      · exact .cons (.refl _) (.cons (.refl _) (.cons (keyword third) (same _)))
      · exact .cons (keyword first) (same _)
  exact (alike.trans (Text.readsAlike_join_words tight)).openBrackets_eq

/-- Replacing keywords leaves as many brackets open. -/
theorem openBrackets_replaceKeywords (text : Text) :
    Text.openBrackets (replaceKeywords text) = Text.openBrackets text := by
  have keyword (word : Text) :
      Text.ReadsAlike (if nativeKeywords.contains word then plainKeyword else word) word := by
    split
    · rename_i native
      rcases native_cases (List.contains_iff_mem.mp native) with rfl | rfl <;>
        exact Text.readsAlike_of_neutral (by decide) (by decide) (by decide) (by decide)
    · exact .refl word
  have alike : Text.ReadsAlike (replaceKeywords text)
      (Text.join " " (text.splitOn ' ')) := by
    apply Text.readsAlike_join
    rw [List.forall₂_map_left_iff]
    exact List.forall₂_same.mpr fun word _ => keyword word
  rw [alike.openBrackets_eq]
  exact congrArg Text.openBrackets (List.intercalate_splitOn ' ')

/-- An enumeration in a stub leaves open what its name leaves open. The base class behind
the name is balanced in code, and nothing in a literal. -/
theorem openBrackets_enumInStub (text : Text) :
    Text.openBrackets (enumInStub text) = Text.openBrackets ((Text.words text)[2]?.getD []) := by
  have keyword : Text.Balanced "class ".toList := Text.balanced_of_neutral (by decide)
  have base (region : Text.Region) (proper : region.IsProper) :
      Text.openBracketsFrom region "(Enum):".toList = 0 := by
    cases region with
    | code => decide
    | literal delimiter | escape delimiter =>
      have opens : Text.isDelimiter delimiter := proper
      simp only [Text.isDelimiter, Bool.or_eq_true, beq_iff_eq] at opens
      rcases opens with rfl | rfl <;> decide
  unfold enumInStub
  generalize (Text.words text)[2]?.getD [] = word
  have name : Text.openBrackets (dropColons word) = Text.openBrackets word := by
    refine Text.openBrackets_rdropWhile (fun char colon => ?_) word
    obtain rfl : char = ':' := by simpa using colon
    decide
  rw [List.append_assoc, keyword.literals.openBrackets_append, keyword.brackets, ← name,
    Text.openBrackets, Text.openBracketsFrom_append,
    base _ (Text.isProper_code.after (dropColons word)), Int.zero_add, Int.add_zero]
  rfl

/-- The header of a class from the word `class` on. -/
def fromClass (text : Text) : Text :=
  match ((Text.squeeze text).splitOn ' ').dropWhile fun word => word != "class".toList with
  | [] => Text.squeeze text
  | kept => Text.join " " kept

/-- What a stub keeps of the header of a class: from the word `class` on, and up to the
last square bracket if one ends the header. -/
def keptOfClass (text : Text) : Text :=
  let signature := Text.trimEnd (dropColons (fromClass text))
  if signature.getLast? = some ']' then (beforeLastBracket? signature).getD (fromClass text)
  else fromClass text

/-- A class in a stub leaves open what the part that is kept of its header leaves open. -/
theorem openBrackets_classInStub (text : Text) :
    Text.openBrackets (classInStub text) = Text.openBrackets (keptOfClass text) := by
  unfold classInStub
  extract_lets pieces header signature
  have sameHeader : fromClass text = header := by
    unfold fromClass
    cases found : pieces.dropWhile (fun word => word != ("class" : Text)) with
    | nil => simp only [pieces, header, found]
    | cons piece others => simp only [pieces, header, found]
  have kept_eq : keptOfClass text =
      if signature.getLast? = some ']' then (beforeLastBracket? signature).getD header
      else header := by
    rw [keptOfClass, sameHeader]
  rw [kept_eq]
  clear_value signature
  split
  · cases beforeLastBracket? signature with
    | none => rfl
    | some kept =>
      have trimmed : Text.openBrackets (Text.trimEnd kept) = Text.openBrackets kept :=
        Text.openBrackets_rdropWhile (fun _ => Text.isNeutral_of_isBlank) kept
      rw [Option.getD_some, ← trimmed]
      exact (Text.reading_append_neutral (by decide) _).1
  · rfl

/-- What a native header leaves open in a stub, by how it can be read. -/
def nativeLeftOpen (header : Text) : Int :=
  match NativeHeader.read (Text.squeeze header) with
  | .signature signature =>
    Text.openBrackets signature.name + Text.openBrackets (signature.returns?.getD [])
  | .noArguments | .noName => Text.openBrackets header

/-- What a line leaves open in the part that a stub keeps of it. An import, a decorator and
a statement are kept as a whole, and a function up to the end of its header. Of a native
signature the name and the return type count, since its argument list is closed. -/
def leftOpen (text : Text) : LineRole → Int
  | .importStatement | .decorator | .directive | .blockHeader | .statement => Text.openBrackets text
  | .classHeader => Text.openBrackets (keptOfClass text)
  | .enumHeader => Text.openBrackets ((Text.words text)[2]?.getD [])
  | .functionHeader false => Text.openBrackets (headerOf text)
  | .functionHeader true => nativeLeftOpen (headerOf text)

/-- The literals of a native header stand in annotations and defaults. Nothing is asked of
any other line. -/
def LiteralsKept (text : Text) (role : LineRole) : Prop :=
  role = .functionHeader true → LiteralsInside (Text.squeeze (headerOf text))

instance (text : Text) (role : LineRole) : Decidable (LiteralsKept text role) :=
  inferInstanceAs (Decidable (_ → _))

/-- A line in a stub leaves open what the part of the source line that is kept leaves open. -/
theorem openBrackets_shownText {text : Text} (tight : Text.Tight text) {role : LineRole}
    (literals : LiteralsKept text role) :
    Text.openBrackets (shownText role text) = leftOpen text role := by
  have header := Text.openBrackets_squeeze (tight_headerOf tight)
  cases role with
  | importStatement => exact openBrackets_importInStub tight
  | classHeader => exact openBrackets_classInStub text
  | enumHeader => exact openBrackets_enumInStub text
  | functionHeader native =>
    cases native with
    | false => exact header
    | true =>
      simp only [shownText, functionInStub, if_true, leftOpen, nativeLeftOpen]
      cases read : NativeHeader.read (Text.squeeze (headerOf text)) with
      | signature signature => exact openBrackets_write read (literals rfl)
      | noArguments | noName => exact (openBrackets_replaceKeywords _).trans header
  | decorator | directive | blockHeader | statement => exact Text.openBrackets_squeeze tight

/-- Indentation leaves no bracket open. -/
theorem openBrackets_indented (spaces : Nat) (text : Text) :
    Text.openBrackets (List.replicate spaces ' ' ++ text) = Text.openBrackets text := by
  have blanks : Text.Balanced (List.replicate spaces ' ') := by
    apply Text.balanced_of_neutral
    intro char member
    rw [List.eq_of_mem_replicate member]
    decide
  rw [blanks.literals.openBrackets_append, blanks.brackets, Int.zero_add]

/-- A contributing line writes a half line exactly if the part that is kept of it is one. -/
theorem half_line_of_writtenLines (step : Nat) {line : Source.Line} (tight : Text.Tight line.text)
    {role : LineRole} (literals : LiteralsKept line.text role) :
    (∃ written ∈ writtenLines step line role, 0 < Text.openBrackets written) ↔
      0 < leftOpen line.text role := by
  have header := openBrackets_indented line.spaces (shownText role line.text)
  rw [openBrackets_shownText tight literals] at header
  have body : Text.openBrackets (List.replicate (line.spaces + step) ' ' ++ ellipsis) = 0 := by
    rw [openBrackets_indented]
    decide
  cases role <;> simp [writtenLines, header, body]

/-- A half line of a stub is written by a contributing line. -/
theorem half_line_of_nestingStub (lines : List Source.Line) (indentation : Indentation) :
    (∃ line ∈ nestingStub lines indentation, 0 < Text.openBrackets line) ↔
      ∃ entry ∈ contributions lines indentation,
        ∃ line ∈ writtenLines indentation.step entry.1 entry.2, 0 < Text.openBrackets line := by
  have noHeading : ∀ line ∈ heading lines, ¬ 0 < Text.openBrackets line := by
    rw [heading]
    split <;> decide
  simp only [nestingStub, List.mem_append, List.mem_flatMap]
  constructor
  · rintro ⟨line, inHeading | ⟨entry, member, inside⟩, isOpen⟩
    · exact absurd isOpen (noHeading line inHeading)
    · exact ⟨entry, member, line, inside, isOpen⟩
  · rintro ⟨entry, member, line, inside, isOpen⟩
    exact ⟨line, .inr ⟨entry, member, inside⟩, isOpen⟩

/-- A stub has a line that ends inside a bracket exactly if a contributing line ends inside
a bracket in the part that is kept of it. That part is no definition with an open
parenthesis: a file with a line of that kind has no stub. -/
theorem half_lines_of_generate {content : Text} {indentation : Indentation} {stub : List Text}
    (accepted : Indentation.infer (readLines content) = .ok indentation)
    (generated : generate content = .ok stub)
    (literals : ∀ entry ∈ contributions (readLines content) indentation,
      LiteralsKept entry.1.text entry.2) :
    ((∃ line ∈ stub, 0 < Text.openBrackets line) ↔
      ∃ entry ∈ contributions (readLines content) indentation, 0 < leftOpen entry.1.text entry.2) ∧
    ∀ line ∈ readLines content, opensDefinition line.text →
      '=' ∉ line.text.takeWhile (· != '(') → Text.openParentheses (headerOf line.text) ≤ 0 := by
  obtain ⟨other, inferred, closed, rfl⟩ := (generate_eq_ok_iff content stub).mp generated
  obtain rfl : indentation = other := Except.ok.inj (accepted.symm.trans inferred)
  constructor
  · rw [half_line_of_nestingStub]
    refine exists_congr fun entry => and_congr_right fun member => ?_
    obtain ⟨inside, _⟩ := role_of_mem_contributions member
    exact half_line_of_writtenLines _ (tight_of_mem_readLines inside) (literals entry member)
  · intro line member opens noAssignment
    by_contra isOpen
    have left := (opensSignature_iff line.text).mpr ⟨opens, noAssignment, Int.not_le.mp isOpen⟩
    rw [closed line member] at left
    cases left

/-- A file with an import and an attribute that go on in later lines, and a native method
whose default is a bracket in a literal: the first two are written as half lines. -/
theorem open_import_and_attribute :
    let content : Text := "from os import (\n    path,\n)\nclass A:\n    x = [\n        1,\n    ]\n" ++
      "    cdef int f(self, str s='('):\n        pass\n"
    let stub : List Text := ["from os import (", "class A:", "    x = [", "    ]",
      "    def f(self, s:str='(') -> int:", "        ..."]
    Indentation.infer (readLines content) = .ok ⟨some 4⟩ ∧ generate content = .ok stub ∧
      (∀ entry ∈ contributions (readLines content) ⟨some 4⟩, LiteralsKept entry.1.text entry.2) ∧
      ((∃ line ∈ stub, 0 < Text.openBrackets line) ↔
        ∃ entry ∈ contributions (readLines content) ⟨some 4⟩, 0 < leftOpen entry.1.text entry.2) ∧
      ∀ line ∈ readLines content, opensDefinition line.text →
        '=' ∉ line.text.takeWhile (· != '(') → Text.openParentheses (headerOf line.text) ≤ 0 := by
  intro content stub
  have accepted : Indentation.infer (readLines content) = .ok ⟨some 4⟩ := rfl
  have generated : generate content = .ok stub := rfl
  have literals : ∀ entry ∈ contributions (readLines content) ⟨some 4⟩,
      LiteralsKept entry.1.text entry.2 := by decide
  exact ⟨accepted, generated, literals, half_lines_of_generate accepted generated literals⟩

/-- Stubs hold half lines: of an import in parentheses and of an attribute with a list, which
go on in later lines, and of a class header that is complete in its line and is cut at the
last of its brackets. -/
theorem half_lines_are_written :
    (generate "from os import (\n    path,\n)\n" = .ok ["from os import ("] ∧
      Text.openBrackets "from os import (" = 1) ∧
    (generate "class A:\n    x = [\n        1,\n    ]\n" = .ok ["class A:", "    x = [", "    ]"] ∧
      Text.openBrackets "    x = [" = 1) ∧
    generate "class Box[T: list[int]]:\n" = .ok ["class Box[T: list:"] ∧
      Text.openBrackets "class Box[T: list[int]]:" = 0 ∧
      Text.openBrackets "class Box[T: list:" = 1 :=
  ⟨⟨rfl, rfl⟩, ⟨rfl, rfl⟩, rfl, rfl, rfl⟩

end PyxProject.Stub
