import PyxProject.Proofs.Source.Roles
import PyxProject.Proofs.Stub.Contributions
import PyxProject.Proofs.Text.Squeeze

/-!
# What a line of a stub looks like

The role of a source line decides how its text in the stub starts and whether that
text is the header of a class or a function. The text never starts with a blank, so
the indentation of a stub line is the one it was given (`head_shownText`). Functions
and enumerations always become headers, and imports, decorators and statements never
do (`isHeaderLine_shownText`). A class becomes one as long as its keyword survives.
-/

namespace PyxProject.Stub

open Source

/-- Whether a line is the header of a class or a function: it starts with `class`,
`def` or `async def` and ends in a colon. -/
def isHeaderLine (line : Text) : Bool :=
  line.getLast? == some ':' && startsPlainBlock (Text.words line)

/-- Whether the text of a line in the stub is such a header, by the role of the line.
The rewriting of a class may lose its keyword: `class [x]:` becomes `class:`. -/
def opensBody (text : Text) : LineRole → Bool
  | .enumHeader | .functionHeader _ => true
  | .classHeader => isHeaderLine (classInStub text)
  | .importStatement | .decorator | .directive | .blockHeader | .statement => false

/-- A line that does not start with a letter of the three keywords is no header. -/
theorem isHeaderLine_of_head {line : Text} {char : Char} (starts : line.head? = some char)
    (letter : Text.isBlank char = false) (other : char ∉ ['c', 'd', 'a']) :
    isHeaderLine line = false := by
  cases words : Text.words line with
  | nil => simp [isHeaderLine, words, startsPlainBlock, startsPlain]
  | cons first rest =>
    have head : first.head? = some char := Text.head_of_words starts letter words
    have unplain : startsPlainBlock (first :: rest) = false := by
      apply Bool.eq_false_iff.mpr
      intro block
      apply other
      simp only [startsPlainBlock, startsPlain, List.head?_cons, Bool.or_eq_true, Bool.and_eq_true,
        beq_iff_eq, Option.some.injEq] at block
      rcases block with rfl | rfl | ⟨rfl, _⟩
      all_goals
        obtain rfl := Option.some.inj head
        decide
    rw [isHeaderLine, words, unplain, Bool.and_false]

/-- A line that starts with a keyword and a space and ends in a colon is a header. -/
theorem isHeaderLine_of_keyword {keyword rest : Text}
    (plain : keyword = "class".toList ∨ keyword = plainKeyword)
    (ends : (keyword ++ ' ' :: rest).getLast? = some ':') :
    isHeaderLine (keyword ++ ' ' :: rest) = true := by
  have alone : Text.words keyword = [keyword] := by
    rcases plain with rfl | rfl <;> decide
  have block : startsPlainBlock (keyword :: Text.words rest) = true := by
    rcases plain with rfl | rfl <;> rfl
  have words : Text.words (keyword ++ ' ' :: rest) = keyword :: Text.words rest := by
    rw [Text.words_append_blank (by decide), alone]
    rfl
  rw [isHeaderLine, ends, words, block]
  rfl

/-- Squeezing a tight line changes nothing about its being a header. -/
theorem isHeaderLine_squeeze {text : Text} (tight : Text.Tight text) :
    isHeaderLine (Text.squeeze text) = isHeaderLine text := by
  rw [isHeaderLine, isHeaderLine, Text.getLast_squeeze tight, Text.words_squeeze]

/-- An import is written from its keyword or from `from` on. -/
theorem head_importInStub {text : Text} (imports : formsImport (Text.words text)) :
    (importInStub text).head? = some 'i' ∨ (importInStub text).head? = some 'f' := by
  have keyword {word : Text} (isKeyword : isImportKeyword word) : plainImport word = "import".toList := by
    simp only [isImportKeyword, Bool.or_eq_true, beq_iff_eq] at isKeyword
    rcases isKeyword with rfl | rfl <;> rfl
  rw [importInStub]
  rcases words : Text.words text with _ | ⟨first, _ | ⟨second, _ | ⟨third, rest⟩⟩⟩
  · rw [words] at imports
    cases imports
  · rw [words] at imports
    cases imports
  · rw [words] at imports
    have isKeyword : isImportKeyword first := by simpa [formsImport] using imports
    simp only [keyword isKeyword]
    exact .inl (Text.head_join (by decide) _)
  · by_cases isFrom : first = "from".toList
    · simp only [isFrom, if_true]
      exact .inr (Text.head_join (by decide) _)
    · rw [words] at imports
      have isKeyword : isImportKeyword first := by
        simp only [formsImport, Bool.or_eq_true, Bool.and_eq_true, beq_iff_eq] at imports
        rcases imports with found | ⟨same, _⟩
        · exact found
        · exact absurd same isFrom
      simp only [isFrom, if_false, keyword isKeyword]
      exact .inl (Text.head_join (by decide) _)

/-- What stands before the last opening bracket is followed by that bracket. -/
theorem append_of_beforeLastBracket {text kept : Text}
    (found : beforeLastBracket? text = some kept) : ∃ rest, text = kept ++ '[' :: rest := by
  unfold beforeLastBracket? at found
  have split : text.reverse.takeWhile (· != '[') ++ text.reverse.dropWhile (· != '[') = text.reverse :=
    List.takeWhile_append_dropWhile
  have stops := List.head?_dropWhile_not (· != '[') text.reverse
  cases remaining : text.reverse.dropWhile (· != '[') with
  | nil =>
    rw [remaining] at found
    cases found
  | cons bracket rest =>
    rw [remaining] at found split stops
    obtain rfl : rest.reverse = kept := Option.some.inj found
    obtain rfl : bracket = '[' := by simpa using stops
    refine ⟨(text.reverse.takeWhile (· != '[')).reverse, ?_⟩
    have whole := congrArg List.reverse split
    simpa using whole.symm

/-- The header of a class is written with a `c` first, whether its keyword is found
among its pieces or not. -/
theorem head_classInStub {text word : Text} {rest : List Text} (tight : Text.Tight text)
    (words : Text.words text = word :: rest)
    (keyword : word = "class".toList ∨ word ∈ nativeKeywords) :
    (classInStub text).head? = some 'c' := by
  have first : word.head? = some 'c' := by
    rcases keyword with rfl | native
    · rfl
    · rcases native_cases native with rfl | rfl <;> rfl
  have squeezed : (Text.squeeze text).head? = some 'c' := by
    obtain ⟨char, starts, letter⟩ := tight.first
    have head := Text.head_of_words starts letter words
    rw [Text.head_squeeze tight, starts, ← head, first]
  have letter : Text.isBlank 'c' = false := by decide
  unfold classInStub
  extract_lets pieces header signature
  have header_head : header.head? = some 'c' := by
    have stops := List.head?_dropWhile_not (fun word => word != ("class" : Text)) pieces
    cases found : pieces.dropWhile (fun word => word != ("class" : Text)) with
    | nil =>
      simp only [header, found]
      exact squeezed
    | cons piece others =>
      rw [found] at stops
      obtain rfl : piece = "class".toList := by simpa using stops
      simp only [header, found]
      exact Text.head_join (by decide) others
  have signature_head : signature.head? = some 'c' :=
    Text.head_rdropWhile (Text.head_rdropWhile header_head (by decide)) letter
  split
  · split
    · rename_i kept found
      obtain ⟨clause, whole⟩ := append_of_beforeLastBracket found
      have kept_head : kept.head? = some 'c' := by
        cases kept with
        | nil =>
          rw [whole] at signature_head
          cases signature_head
        | cons char kept =>
          rw [whole] at signature_head
          exact signature_head
      have trimmed : (Text.trimEnd kept).head? = some 'c' := Text.head_rdropWhile kept_head letter
      rw [List.head?_append, trimmed]
      rfl
    · exact header_head
  · exact header_head

/-- Replacing keywords keeps the colon at the end of a text: the piece that holds it
is no keyword. -/
theorem getLast_replaceKeywords {text : Text} (ends : text.getLast? = some ':') :
    (replaceKeywords text).getLast? = some ':' := by
  obtain ⟨piece, final, pieceEnds⟩ := Text.getLast_splitOnP (· == ' ') ends (by decide)
  have other : nativeKeywords.contains piece = false := by
    apply Bool.eq_false_iff.mpr
    intro native
    have member : piece ∈ nativeKeywords := List.contains_iff_mem.mp native
    rcases native_cases member with rfl | rfl <;> exact absurd pieceEnds (by decide)
  refine Text.getLast_join ?_ pieceEnds
  rw [List.getLast?_map, List.splitOn_eq_splitOnP, final, Option.map_some, other]
  rfl

/-- A header whose first piece is a native keyword is written with the plain one. -/
theorem replaceKeywords_of_native {keyword : Text} (native : keyword ∈ nativeKeywords)
    (rest : Text) :
    replaceKeywords (keyword ++ ' ' :: rest) = plainKeyword ++ ' ' :: replaceKeywords rest := by
  have alone : keyword.splitOn ' ' = [keyword] := by
    rcases native_cases native with rfl | rfl <;> decide
  have later : (rest.splitOn ' ').map (fun word =>
      if nativeKeywords.contains word then plainKeyword else word) ≠ [] := by
    simp
  rw [replaceKeywords, List.splitOn_append_cons_self, alone, List.singleton_append,
    List.map_cons, if_pos (List.contains_iff_mem.mpr native), Text.join,
    List.intercalate_cons_of_ne_nil later, List.append_assoc]
  rfl

/-- An enumeration is written as the header of a class. -/
theorem isHeaderLine_enumInStub (text : Text) : isHeaderLine (enumInStub text) = true := by
  obtain ⟨rest, written, ends⟩ : ∃ rest, enumInStub text = "class".toList ++ ' ' :: rest ∧
      (enumInStub text).getLast? = some ':' := by
    unfold enumInStub
    extract_lets name
    exact ⟨name ++ "(Enum):".toList, by rw [List.append_assoc]; rfl,
      by rw [List.getLast?_append]; rfl⟩
  rw [written] at ends ⊢
  exact isHeaderLine_of_keyword (.inl rfl) ends

/-- A signature is written as a header. -/
theorem isHeaderLine_write (signature : Signature) :
    isHeaderLine signature.write = true ∧ signature.write.head? = some 'd' := by
  obtain ⟨rest, written, ends⟩ : ∃ rest, signature.write = plainKeyword ++ ' ' :: rest ∧
      signature.write.getLast? = some ':' := by
    unfold Signature.write
    extract_lets arguments returns
    exact ⟨signature.name ++ "(".toList ++ arguments ++ ")".toList ++ returns ++ ":".toList,
      by simp only [List.append_assoc]; rfl, by rw [List.getLast?_append]; rfl⟩
  rw [written] at ends ⊢
  exact ⟨isHeaderLine_of_keyword (.inr rfl) ends, rfl⟩

/-- The header of a function is written as a header. The keyword of a native header does not end
in the colon, so a space follows it. -/
theorem isHeaderLine_functionInStub {native : Bool} {text : Text} (tight : Text.Tight text)
    (fits : FitsRole text (.functionHeader native)) :
    isHeaderLine (functionInStub native text) = true ∧
      ∃ char, (functionInStub native text).head? = some char ∧ Text.isBlank char = false := by
  cases native with
  | false =>
    obtain ⟨ends, plain⟩ := fits
    refine ⟨?_, (Text.tight_squeeze tight).first⟩
    change isHeaderLine (Text.squeeze text) = true
    rw [isHeaderLine_squeeze tight, isHeaderLine, ends, startsPlainBlock, plain]
    simp
  | true =>
    obtain ⟨ends, word, rest, words, keyword⟩ := fits
    have replaced : isHeaderLine (replaceKeywords (Text.squeeze text)) = true ∧
        (replaceKeywords (Text.squeeze text)).head? = some 'd' := by
      have colon : (Text.squeeze text).getLast? = some ':' := by
        rw [Text.getLast_squeeze tight, ends]
      have starts : (Text.words text).head? = some word := by rw [words]; rfl
      have plain : ∀ char ∈ word, Text.isDelimiter char = false := by
        rcases native_cases keyword with rfl | rfl <;> exact Text.undelimited_of_all rfl
      have written := getLast_replaceKeywords colon
      rcases Text.squeeze_of_first_word tight starts plain with alone | ⟨later, spaced⟩
      · rw [alone] at colon
        rcases native_cases keyword with rfl | rfl <;> exact absurd colon (by decide)
      · rw [spaced, replaceKeywords_of_native keyword] at written ⊢
        exact ⟨isHeaderLine_of_keyword (.inr rfl) written, rfl⟩
    have letter : Text.isBlank 'd' = false := by decide
    simp only [functionInStub, if_true]
    split
    · rename_i signature _
      obtain ⟨header, head⟩ := isHeaderLine_write signature
      exact ⟨header, 'd', head, letter⟩
    · exact ⟨replaced.1, 'd', replaced.2, letter⟩
    · exact ⟨replaced.1, 'd', replaced.2, letter⟩

/-- The text of a line in the stub starts with no blank. -/
theorem head_shownText (names : CythonNames) {text : Text} (tight : Text.Tight text) :
    ∃ char, (shownText (LineRole.of names text) text).head? = some char ∧
      Text.isBlank char = false := by
  cases role : LineRole.of names text with
  | importStatement =>
    rcases head_importInStub (fitsRole_of_role role (by decide) (by simp)) with head | head
    · exact ⟨'i', head, by decide⟩
    · exact ⟨'f', head, by decide⟩
  | classHeader =>
    obtain ⟨_, word, rest, words, keyword⟩ := fitsRole_of_role role (by decide) (by simp)
    have head : (classInStub text).head? = some 'c' := head_classInStub tight words keyword
    exact ⟨'c', head, by decide⟩
  | enumHeader => exact ⟨'c', rfl, by decide⟩
  | functionHeader native =>
    exact (isHeaderLine_functionInStub (tight_headerOf tight) (fitsRole_headerOf role)).2
  | decorator | directive | blockHeader | statement => exact (Text.tight_squeeze tight).first

/-- The text of a line in the stub is a header exactly when its role opens a body. A squeezed line
whose words start no class or function is no header. -/
theorem isHeaderLine_shownText (names : CythonNames) {text : Text} (tight : Text.Tight text) :
    isHeaderLine (shownText (LineRole.of names text) text) =
      opensBody text (LineRole.of names text) := by
  have squeezed (unplain : text.getLast? = some ':' → startsPlainBlock (Text.words text) = false) :
      isHeaderLine (Text.squeeze text) = false := by
    rw [isHeaderLine_squeeze tight, isHeaderLine]
    by_cases ends : text.getLast? = some ':'
    · rw [unplain ends, Bool.and_false]
    · rw [beq_false_of_ne ends, Bool.false_and]
  have sign (head : text.head? = some '@') : isHeaderLine (Text.squeeze text) = false := by
    rw [isHeaderLine_squeeze tight]
    exact isHeaderLine_of_head head (by decide) (by decide)
  cases role : LineRole.of names text with
  | importStatement =>
    rcases head_importInStub (fitsRole_of_role role (by decide) (by simp)) with head | head
    · exact isHeaderLine_of_head head (by decide) (by decide)
    · exact isHeaderLine_of_head head (by decide) (by decide)
  | classHeader => rfl
  | enumHeader => exact isHeaderLine_enumInStub text
  | functionHeader native =>
    exact (isHeaderLine_functionInStub (tight_headerOf tight) (fitsRole_headerOf role)).1
  | decorator | directive => exact sign (fitsRole_of_role role (by decide) (by simp))
  | blockHeader => exact squeezed (fitsRole_of_role role (by decide) (by simp))
  | statement => exact squeezed (startsPlainBlock_of_statement role)

end PyxProject.Stub
