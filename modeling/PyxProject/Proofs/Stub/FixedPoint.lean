import PyxProject.Proofs.Source.Lines
import PyxProject.Proofs.Stub.Contributions
import PyxProject.Proofs.Text.Squeeze

/-!
# Files that are their own stub

A file that has the shape of a stub already is left as it is, but for its comments
and blank lines. Having that shape means that every line is written the way the stub
would write it, and that each function has the ellipsis for its body. The ellipsis
of the file is dropped as the statement that it is, and written anew at the same
place.
-/

namespace PyxProject.Stub

open Source

/-- Whether the words of an import hold the native keyword where the keyword stands:
first, or third after `from`. -/
def UsesNativeKeyword (words : List Text) : Prop :=
  words[0]? = some "cimport".toList ∨
    words[0]? = some "from".toList ∧ words[2]? = some "cimport".toList

instance (words : List Text) : Decidable (UsesNativeKeyword words) :=
  inferInstanceAs (Decidable (_ ∨ _))

/-- A line that is written as it stands, on its own. An import has single spaces and
no native keyword, a class starts with its keyword and has no extension clause, a
statement stands directly in the body of a class. -/
def IsStubLine (lines : List Source.Line) (indentation : Indentation) (position : Nat)
    (text : Text) : Prop :=
  match roleAt lines position with
  | .importStatement =>
    Text.join " " (Text.words text) = text ∧ ¬ UsesNativeKeyword (Text.words text)
  | .classHeader =>
    (Text.words text).head? = some "class".toList ∧
      (Text.trimEnd (dropColons text)).getLast? ≠ some ']'
  | .decorator => True
  | .statement => InClassBody (roleAt lines) (levelAt lines indentation) position
  | .enumHeader | .functionHeader _ | .directive | .blockHeader => False

/-- The lines of a file from a position on have the shape of a stub: every line is a
stub line on its own, or the header of a plain function that is followed at once by
the ellipsis, exactly one unit deeper. -/
inductive StubShaped (lines : List Source.Line) (indentation : Indentation) :
    Nat → List Source.Line → Prop
  | done (position : Nat) : StubShaped lines indentation position []
  | single (position : Nat) (line : Source.Line) (rest : List Source.Line)
      (shape : IsStubLine lines indentation position line.text)
      (later : StubShaped lines indentation (position + 1) rest) :
      StubShaped lines indentation position (line :: rest)
  | function (position unit : Nat) (line body : Source.Line) (rest : List Source.Line)
      (role : roleAt lines position = .functionHeader false)
      (whole : headerOf line.text = line.text)
      (dots : body.text = ellipsis) (indented : indentation.unit = some unit)
      (deeper : body.spaces = line.spaces + unit)
      (later : StubShaped lines indentation (position + 2) rest) :
      StubShaped lines indentation position (line :: body :: rest)

/-- An import with single spaces and without the native keyword is written as it is. -/
theorem importInStub_eq_self {text : Text} (spaced : Text.join " " (Text.words text) = text)
    (plain : ¬ UsesNativeKeyword (Text.words text)) : importInStub text = text := by
  have keep {word : Text} (other : word ≠ "cimport".toList) : plainImport word = word := if_neg other
  obtain ⟨notFirst, notThird⟩ := not_or.mp plain
  rw [importInStub]
  cases words : Text.words text with
  | nil =>
    rw [words] at spaced
    exact spaced
  | cons first rest =>
    rw [words] at notFirst notThird spaced
    have firstKept : plainImport first = first := keep fun native => notFirst (congrArg some native)
    rcases rest with _ | ⟨second, _ | ⟨third, rest⟩⟩
    · simpa only [firstKept] using spaced
    · simpa only [firstKept] using spaced
    · by_cases isFrom : first = "from".toList
      · have thirdKept : plainImport third = third :=
          keep fun native => notThird ⟨congrArg some isFrom, congrArg some native⟩
        simpa only [isFrom, if_true, thirdKept] using spaced
      · simpa only [isFrom, if_false, firstKept] using spaced

/-- A squeezed class header that starts with its keyword and has no extension clause is written as
it is. The first piece between spaces is the keyword, so nothing is cut off before it. -/
theorem classInStub_eq_self {text : Text} (tight : Text.Tight text)
    (squeezed : Text.squeeze text = text)
    (keyword : (Text.words text).head? = some "class".toList)
    (noClause : (Text.trimEnd (dropColons text)).getLast? ≠ some ']') :
    classInStub text = text := by
  have plain : ∀ char ∈ "class".toList, Text.isDelimiter char = false :=
    Text.undelimited_of_all rfl
  have unspaced : List.splitOn ' ' "class".toList = ["class".toList] := by decide
  have pieces : ∃ later, text.splitOn ' ' = "class".toList :: later := by
    rcases Text.squeeze_of_first_word tight keyword plain with alone | ⟨rest, spaced⟩
    · rw [← squeezed, alone]
      exact ⟨[], unspaced⟩
    · rw [← squeezed, spaced, List.splitOn_append_cons_self, unspaced]
      exact ⟨_, rfl⟩
  obtain ⟨later, pieces⟩ := pieces
  have joined : Text.join " " ("class".toList :: later) = text := by
    rw [← pieces]
    exact List.intercalate_splitOn ' '
  simp only [classInStub, squeezed, pieces]
  rw [List.dropWhile_cons_of_neg (by decide)]
  simp only [joined, noClause, if_false]

/-- The ellipsis is a plain statement, whatever a file imports. -/
theorem role_ellipsis (names : CythonNames) : LineRole.of names ellipsis = .statement := rfl

/-- A stub line contributes, and its text is shown as it is. -/
theorem shown_of_isStubLine {lines : List Source.Line} {indentation : Indentation} {position : Nat}
    {line : Source.Line} (tight : Text.Tight line.text)
    (squeezed : Text.squeeze line.text = line.text)
    (shape : IsStubLine lines indentation position line.text) :
    Contributes (roleAt lines) (levelAt lines indentation) position ∧
      roleAt lines position ≠ .enumHeader ∧
      ∀ step, writtenLines step line (roleAt lines position) = [line.written] := by
  have written (role : LineRole) (single : role.isFunction = false)
      (shown : shownText role line.text = line.text) (step : Nat) :
      writtenLines step line role = [line.written] := by
    cases role <;> simp_all [writtenLines, LineRole.isFunction, Source.Line.written]
  unfold IsStubLine at shape
  cases role : roleAt lines position <;> rw [role] at shape <;> simp only at shape
  case importStatement =>
    have kept : importInStub line.text = line.text := importInStub_eq_self shape.1 shape.2
    exact ⟨.inl (by rw [role]; rfl), by decide, written _ rfl kept⟩
  case classHeader =>
    have kept : classInStub line.text = line.text :=
      classInStub_eq_self tight squeezed shape.1 shape.2
    exact ⟨.inl (by rw [role]; rfl), by decide, written _ rfl kept⟩
  case decorator => exact ⟨.inl (by rw [role]; rfl), by decide, written _ rfl squeezed⟩
  case statement => exact ⟨.inr ⟨role, shape⟩, by decide, written _ rfl squeezed⟩

/-- A line directly after a function header and deeper than it stands in no class body. -/
theorem not_inClassBody_of_function {role : Nat → LineRole} {level : Nat → Nat} {position : Nat}
    (function : (role position).isFunction) (deeper : level position < level (position + 1)) :
    ¬ InClassBody role level (position + 1) := by
  rintro ⟨outer, before, ⟨_, last⟩, kind, _⟩
  have header : (role position).isHeader := by
    cases kind : role position <;> simp_all [LineRole.isFunction, LineRole.isHeader]
  have encloses : Encloses role level position (position + 1) :=
    ⟨Nat.lt_succ_self position, header, deeper, fun between inside after => by omega⟩
  have same : outer = position := by
    have atLeast : position ≤ outer := last position (Nat.lt_succ_self position) encloses
    omega
  subst same
  rcases kind with kind | kind <;> simp [kind, LineRole.isFunction] at function

/-- The ellipsis below a function header does not contribute. -/
theorem ellipsis_hidden {lines : List Source.Line} {indentation : Indentation} {position unit : Nat}
    {line body : Source.Line} (accepted : Indentation.infer lines = .ok indentation)
    (located : lines[position]? = some line) (locatedBody : lines[position + 1]? = some body)
    (function : roleAt lines position = .functionHeader false) (dots : body.text = ellipsis)
    (indented : indentation.unit = some unit) (deeper : body.spaces = line.spaces + unit) :
    ¬ Contributes (roleAt lines) (levelAt lines indentation) (position + 1) := by
  have role : roleAt lines (position + 1) = .statement := by
    simp only [roleAt, locatedBody, dots]
    exact role_ellipsis _
  have positive : 0 < unit := unit_pos_of_infer accepted indented
  have nested : levelAt lines indentation position < levelAt lines indentation (position + 1) := by
    simp only [levelAt, located, locatedBody, Indentation.level, indented, deeper,
      Nat.add_div_right _ positive]
    exact Nat.lt_succ_self _
  rintro (definition | ⟨_, inClass⟩)
  · rw [role] at definition
    cases definition
  · exact not_inClassBody_of_function (by rw [function]; rfl) nested inClass

/-- What the lines of a stub-shaped file write, from a position on, is what they are.

A stub line writes itself. A function header writes itself and an ellipsis; the
ellipsis that follows it in the file stands in the body of the function, so it writes
nothing, and it is where the other one goes. -/
theorem writtenFrom_of_stubShaped {lines : List Source.Line} {indentation : Indentation}
    (accepted : Indentation.infer lines = .ok indentation)
    (tight : ∀ line ∈ lines, Text.Tight line.text)
    (squeezed : ∀ line ∈ lines, Text.squeeze line.text = line.text) {position : Nat}
    {rest : List Source.Line} (shaped : StubShaped lines indentation position rest)
    (remaining : lines.drop position = rest) :
    writtenFrom lines indentation position rest = rest.map Source.Line.written ∧
      ∀ line ∈ rest, LineRole.of (CythonNames.ofLines lines) line.text ≠ .enumHeader := by
  have first {position : Nat} {line : Source.Line} {rest : List Source.Line}
      (remaining : lines.drop position = line :: rest) :
      lines[position]? = some line ∧ lines.drop (position + 1) = rest := by
    rw [← List.head?_drop, ← List.drop_drop, remaining]
    exact ⟨rfl, rfl⟩
  induction shaped with
  | done position => exact ⟨rfl, by simp⟩
  | single position line rest shape later inductionHypothesis =>
    obtain ⟨located, remaining⟩ := first remaining
    have member : line ∈ lines := List.mem_of_getElem? located
    have role := roleAt_of_located located
    obtain ⟨contributes, noEnum, written⟩ :=
      shown_of_isStubLine (tight line member) (squeezed line member) shape
    obtain ⟨laterWritten, laterNoEnum⟩ := inductionHypothesis remaining
    refine ⟨?_, List.forall_mem_cons.mpr ⟨role ▸ noEnum, laterNoEnum⟩⟩
    rw [writtenFrom_of_contributes contributes, written, laterWritten]
    rfl
  | function position unit line body rest function whole dots indented deeper later
      inductionHypothesis =>
    obtain ⟨located, remainingBody⟩ := first remaining
    obtain ⟨locatedBody, remaining⟩ := first remainingBody
    have member : line ∈ lines := List.mem_of_getElem? located
    have role := roleAt_of_located located
    have contributes : Contributes (roleAt lines) (levelAt lines indentation) position :=
      .inl (by rw [function]; rfl)
    have hidden : ¬ Contributes (roleAt lines) (levelAt lines indentation) (position + 1) :=
      ellipsis_hidden accepted located locatedBody function dots indented deeper
    have written : writtenLines indentation.step line (.functionHeader false) =
        [line.written, body.written] := by
      have step : indentation.step = unit := by simp [Indentation.step, indented]
      simp only [writtenLines, shownText, functionInStub, whole, squeezed line member, step,
        Source.Line.written, deeper, dots, Bool.false_eq_true, if_false]
    obtain ⟨laterWritten, laterNoEnum⟩ := inductionHypothesis remaining
    refine ⟨?_, List.forall_mem_cons.mpr ⟨?_, List.forall_mem_cons.mpr ⟨?_, laterNoEnum⟩⟩⟩
    · rw [writtenFrom_of_contributes contributes, writtenFrom_of_hidden hidden, function, written,
        laterWritten]
      rfl
    · rw [← role, function]
      decide
    · rw [dots, role_ellipsis]
      decide

/-- A file in the shape of a stub is its own stub: the stub is the file without its
comments and blank lines, each line its indentation and its text. -/
theorem generate_of_stubShaped (content : Text) (indentation : Indentation)
    (accepted : Indentation.infer (readLines content) = .ok indentation)
    (closed : ∀ line ∈ readLines content, opensSignature line.text = false)
    (squeezed : ∀ line ∈ readLines content, Text.squeeze line.text = line.text)
    (shaped : StubShaped (readLines content) indentation 0 (readLines content)) :
    generate content = .ok ((readLines content).map Source.Line.written) ∧
      (readLines content).map Source.Line.written = codeLines content := by
  refine ⟨?_, written_readLines (untabbed_of_infer accepted)⟩
  obtain ⟨written, noEnum⟩ := writtenFrom_of_stubShaped accepted
    (fun line member => tight_of_mem_readLines member) squeezed shaped rfl
  refine (generate_eq_ok_iff content _).mpr ⟨indentation, accepted, closed, ?_⟩
  have noHeading : heading (readLines content) = [] := by
    apply if_neg
    rintro ⟨line, member, isEnum⟩
    exact noEnum line member isEnum
  rw [nestingStub, noHeading, List.nil_append, ← written]
  rfl

/-- An import with a comment, a blank line, and a class with an attribute and a method:
only the comment and the blank line are gone. -/
theorem class_with_method_is_its_own_stub :
    let content : Text := "import os # c\n\nclass A:\n  x: int\n  def f(self):\n    ...\n"
    generate content =
      .ok ["import os", "class A:", "  x: int", "  def f(self):", "    ..."] := by
  have read : readLines "import os # c\n\nclass A:\n  x: int\n  def f(self):\n    ...\n" =
      [⟨1, 0, false, "import os"⟩, ⟨3, 0, false, "class A:"⟩, ⟨4, 2, false, "x: int"⟩,
       ⟨5, 2, false, "def f(self):"⟩, ⟨6, 4, false, "..."⟩] := rfl
  have stub := generate_of_stubShaped "import os # c\n\nclass A:\n  x: int\n  def f(self):\n    ...\n"
    ⟨some 2⟩
  rw [read] at stub
  have squeezed : ∀ line ∈ ([⟨1, 0, false, "import os"⟩, ⟨3, 0, false, "class A:"⟩,
      ⟨4, 2, false, "x: int"⟩, ⟨5, 2, false, "def f(self):"⟩, ⟨6, 4, false, "..."⟩] :
        List Source.Line), Text.squeeze line.text = line.text := by decide +kernel
  refine (stub rfl (closed_of_all rfl) squeezed ?_).1
  refine .single _ _ _ ⟨rfl, by decide +kernel⟩ <| .single _ _ _ ⟨rfl, by decide +kernel⟩ <|
    .single _ _ _ ?_ <| .function _ 2 _ _ _ rfl rfl rfl rfl rfl <| .done _
  change InClassBody _ _ 2
  decide +kernel

end PyxProject.Stub
