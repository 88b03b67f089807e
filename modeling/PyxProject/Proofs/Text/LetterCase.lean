import PyxProject.Proofs.Text.Words
import PyxProject.Text.Lowercase

/-!
# The case of ASCII letters

A capital of ASCII and its partner in lower case differ in nothing that a rule on whole texts asks
for: neither is blank, both have case, neither is passed over when the neighbours of a word are
looked for, and both have the same lower case (`class_toLower`). So changing the case of ASCII
letters changes the words of a text letter by letter (`words_map_toLower`), and does not show in
lower case at all (`lowercase_map_toLower`), not even in what becomes of a capital sigma beside them.
-/

namespace PyxProject.Text

/-- The capital letters of ASCII, by their place in the alphabet. -/
def capital (place : Nat) : Char := Char.ofNat ('A'.toNat + place)

/-- A character is its own lower case in ASCII or one of the capitals. -/
theorem toLower_cases (char : Char) : char.toLower = char ∨ ∃ place < 26, char = capital place := by
  by_cases capitals : 65 ≤ char.toNat ∧ char.toNat ≤ 90
  · refine .inr ⟨char.toNat - 65, by omega, ?_⟩
    have code : 'A'.toNat + (char.toNat - 65) = char.toNat := by
      change 65 + (char.toNat - 65) = char.toNat
      omega
    rw [capital, code, Char.ofNat_toNat]
  · refine .inl (dif_neg ?_)
    exact capitals

/-- No letter of ASCII is passed over when the neighbours of a word are looked for. -/
theorem not_ignorable {code : Nat} (letter : 65 ≤ code ∧ code ≤ 90 ∨ 97 ≤ code ∧ code ≤ 122) :
    inRanges caseIgnorableRanges code = false := by
  have apart : ∀ range ∈ caseIgnorableRanges,
      range.2 < 65 ∨ 90 < range.1 ∧ range.2 < 97 ∨ 122 < range.1 := by decide +kernel
  rw [inRanges, List.any_eq_false]
  rintro ⟨first, last⟩ member inside
  have outside := apart (first, last) member
  simp only [Bool.and_eq_true, decide_eq_true_eq] at inside outside
  omega

/-- What no rule on whole texts tells a character of ASCII from its lower case by. -/
theorem class_toLower (char : Char) :
    isBlank char.toLower = isBlank char ∧
      inRanges caseIgnorableRanges char.toLower.toNat = inRanges caseIgnorableRanges char.toNat ∧
      inRanges casedRanges char.toLower.toNat = inRanges casedRanges char.toNat ∧
      lowerChar char.toLower = lowerChar char := by
  rcases toLower_cases char with same | ⟨place, inAlphabet, rfl⟩
  · rw [same]
    exact ⟨rfl, rfl, rfl, rfl⟩
  · have letters : ∀ place < 26,
        isBlank (capital place).toLower = isBlank (capital place) ∧
          inRanges casedRanges (capital place).toLower.toNat =
            inRanges casedRanges (capital place).toNat ∧
          lowerChar (capital place).toLower = lowerChar (capital place) ∧
          (capital place).toNat = 65 + place ∧ (capital place).toLower.toNat = 97 + place := by
      decide +kernel
    obtain ⟨blank, cased, lower, code, lowerCode⟩ := letters place inAlphabet
    have passed : inRanges caseIgnorableRanges (capital place).toLower.toNat =
        inRanges caseIgnorableRanges (capital place).toNat := by
      rw [not_ignorable (by omega), not_ignorable (by omega)]
    exact ⟨blank, passed, cased, lower⟩

/-- Lower case makes no letter of what is neither a capital nor the partner of one. -/
theorem toLower_eq_iff (other : Char)
    (apart : ∀ place < 26, capital place ≠ other ∧ (capital place).toLower ≠ other) (char : Char) :
    char.toLower = other ↔ char = other := by
  rcases toLower_cases char with same | ⟨place, inAlphabet, rfl⟩
  · rw [same]
  · obtain ⟨upper, lower⟩ := apart place inAlphabet
    exact iff_of_false lower upper

/-- The words of a text in lower case of ASCII. -/
theorem words_map_toLower (text : Text) :
    words (text.map Char.toLower) = (words text).map (List.map Char.toLower) :=
  words_map (fun char => (class_toLower char).1) text

/-- Whether a letter with case comes first does not depend on its case. -/
theorem casedFirst_map_toLower (text : Text) :
    casedFirst (text.map Char.toLower) = casedFirst text := by
  have passed : ((fun char : Char => inRanges caseIgnorableRanges char.toNat) ∘ Char.toLower) =
      fun char => inRanges caseIgnorableRanges char.toNat :=
    funext fun char => (class_toLower char).2.1
  rw [casedFirst, casedFirst, List.dropWhile_map, passed]
  cases text.dropWhile fun char => inRanges caseIgnorableRanges char.toNat with
  | nil => rfl
  | cons char rest => exact (class_toLower char).2.2.1

/-- The case of ASCII letters does not show in lower case. What a sigma becomes depends on both
sides, so the induction changes the text before along with the rest. -/
theorem lowercase_map_toLower (text : Text) :
    lowercase (text.map Char.toLower) = lowercase text := by
  have sigma := toLower_eq_iff 'Σ' (by decide +kernel)
  have dotted := toLower_eq_iff 'İ' (by decide +kernel)
  have after (before : Text) :
      lowerAfter (before.map Char.toLower) (text.map Char.toLower) = lowerAfter before text := by
    induction text generalizing before with
    | nil => rfl
    | cons char rest inductionHypothesis =>
      have later := inductionHypothesis (char :: before)
      rw [List.map_cons] at later ⊢
      have lower := (class_toLower char).2.2.2
      simp only [lowerAfter, later, casedFirst_map_toLower, sigma, dotted, lower]
  exact after []

end PyxProject.Text
