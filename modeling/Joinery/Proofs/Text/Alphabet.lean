import Mathlib.Data.List.Basic
import Joinery.Text.UpperCase

/-
  Letters of the alphabet and decimal digits lie in narrow
  ranges, and the capitals of letters are letters again.

  Key theorems include:
    * `Text.digit_bounds`
    * `Text.letter_bounds`
    * `Text.word_bounds`
    * `Text.isAlpha_toUpper`
    * `Text.upperCase_ofList`
    * `Text.span_of_stops`
    * `Text.span_unique`
-/

namespace Joinery

namespace Text

------------------------------------------------------------
-- Ranges
------------------------------------------------------------

theorem digit_bounds
    {c : Char}
    (hDigit : c.isDigit = true) :
    48 ≤ c.toNat ∧ c.toNat ≤ 57 :=
  (Bool.and_eq_true_iff.mp hDigit).imp of_decide_eq_true
    of_decide_eq_true

/- A letter of the alphabet is a capital or a small one. -/
theorem letter_bounds
    {c : Char}
    (hLetter : c.isAlpha = true) :
    (65 ≤ c.toNat ∧ c.toNat ≤ 90) ∨ (97 ≤ c.toNat ∧ c.toNat ≤ 122) := by
  rcases Bool.or_eq_true_iff.mp hLetter with hCapital | hSmall
  · exact .inl (of_decide_eq_true hCapital)
  · exact .inr
      ((Bool.and_eq_true_iff.mp hSmall).imp of_decide_eq_true
        of_decide_eq_true)

/- Letters and digits are printable ASCII, and no blanks. -/
theorem word_bounds
    {c : Char}
    (hWord : c.isAlphanum = true) :
    48 ≤ c.toNat ∧ c.toNat ≤ 122 := by
  rcases Bool.or_eq_true_iff.mp hWord with hLetter | hDigit
  · have hRange := letter_bounds hLetter
    omega
  · have hRange := digit_bounds hDigit
    omega

------------------------------------------------------------
-- Capitals
------------------------------------------------------------

/- Capitals of letters are letters. -/
theorem isAlpha_toUpper
    {c : Char}
    (hLetter : c.isAlpha = true) :
    c.toUpper.isAlpha = true := by
  have hAscii :
      ∀ n : Fin 128,
        (Char.ofNat n).isAlpha = true →
          (Char.ofNat n).toUpper.isAlpha = true := by
    decide
  have hRange := letter_bounds hLetter
  rw [← Char.ofNat_toNat c] at hLetter ⊢
  exact hAscii ⟨c.toNat, by omega⟩ hLetter

/- Capitals of letters and digits are letters and digits. -/
theorem isAlphanum_toUpper
    {c : Char}
    (hWord : c.isAlphanum = true) :
    c.toUpper.isAlphanum = true := by
  have hAscii :
      ∀ n : Fin 128,
        (Char.ofNat n).isAlphanum = true →
          (Char.ofNat n).toUpper.isAlphanum = true := by
    decide
  have hRange := word_bounds hWord
  rw [← Char.ofNat_toNat c] at hWord ⊢
  exact hAscii ⟨c.toNat, by omega⟩ hWord

/- ASCII text is put in capitals one character at a time. -/
theorem upperCase_ofList
    {cs : List Char}
    (hAscii : ∀ c ∈ cs, c.toNat < 128) :
    (ofList cs).upperCase = ofList (cs.map Char.toUpper) := by
  have hCapitals : cs.flatMap capital = cs.map Char.toUpper := by
    rw [← List.flatMap_pure_eq_map]
    exact List.flatMap_congr fun c hMem => if_pos (hAscii c hMem)
  rw [upperCase, mapStrings, ofList, ofString, String.toList_ofList,
    hCapitals]
  rfl

------------------------------------------------------------
-- Runs Of A Class
------------------------------------------------------------

/- Characters of a class are taken up to where another one follows. -/
theorem span_of_stops
    {p : Char → Bool}
    {front rest : List Char}
    (hFront : ∀ c ∈ front, p c = true)
    (hStops : ∀ c others, rest = c :: others → p c = false) :
    (front ++ rest).takeWhile p = front ∧
      (front ++ rest).dropWhile p = rest := by
  rw [List.takeWhile_append_of_pos hFront,
    List.dropWhile_append_of_pos hFront]
  cases rest with
  | nil => exact ⟨List.append_nil front, rfl⟩
  | cons c others =>
      have hStop := hStops c others rfl
      rw [List.takeWhile_cons_of_neg (by simp [hStop]),
        List.dropWhile_cons_of_neg (by simp [hStop]), List.append_nil]
      exact ⟨rfl, rfl⟩

/- So there is one place only where they can end. -/
theorem span_unique
    {p : Char → Bool}
    {front rest front' rest' : List Char}
    (hFront : ∀ c ∈ front, p c = true)
    (hStops : ∀ c others, rest = c :: others → p c = false)
    (hFront' : ∀ c ∈ front', p c = true)
    (hStops' : ∀ c others, rest' = c :: others → p c = false)
    (hSame : front ++ rest = front' ++ rest') :
    front = front' ∧ rest = rest' := by
  rcases span_of_stops hFront hStops with ⟨hTake, hDrop⟩
  rcases span_of_stops hFront' hStops' with ⟨hTake', hDrop'⟩
  rw [hSame] at hTake hDrop
  exact ⟨hTake.symm.trans hTake', hDrop.symm.trans hDrop'⟩

end Text

end Joinery
