import Joinery.Proofs.Decimal.Numerals
import Joinery.Proofs.Text.Alphabet

/-
  Digits of any script are digits: they are no blanks and no
  letters, and a numeral that is written with them is read as
  the one with the same digits of the alphabet.

  Key definitions include:
    * `Decimal.AreFigures`

  Key theorems include:
    * `Text.figure_cases`
    * `Text.blank_of_figure`
    * `Text.letter_of_figure`
    * `Decimal.asciiForm_figure`
    * `Decimal.AreFigures.ascii`
    * `Decimal.naturalOf_asciiForm`
-/

namespace Joinery

------------------------------------------------------------
-- One Digit
------------------------------------------------------------

namespace Text

/- A digit is one of the alphabet, or one of ten behind a script's zero. -/
theorem figure_cases
    {c : Char}
    (hFigure : isDigit c = true) :
    Decimal.isAsciiDigit c = true ∨
      0x80 ≤ c.toNat ∧
        ∃ least ∈ scriptZeros, ∃ n < 10,
          c.toNat = least + n ∧ digitValue? c = some n := by
  unfold isDigit digitValue? at hFigure
  by_cases hAscii : c.toNat < 0x80
  · left
    by_contra hOther
    have hBounds : ¬ ('0' ≤ c ∧ c ≤ '9') := by
      simpa only [Decimal.isAsciiDigit, Bool.and_eq_true,
        decide_eq_true_eq] using hOther
    rw [if_pos hAscii, if_neg hBounds] at hFigure
    cases hFigure
  · right
    refine ⟨not_lt.mp hAscii, ?_⟩
    rw [if_neg hAscii, Option.isSome_map] at hFigure
    rcases Option.isSome_iff_exists.mp hFigure with ⟨least, hFound⟩
    have hMem := List.mem_of_find?_eq_some hFound
    have hInside := List.find?_some hFound
    rw [Bool.and_eq_true, decide_eq_true_eq, decide_eq_true_eq] at hInside
    refine ⟨least, hMem, c.toNat - least, by omega, by omega, ?_⟩
    rw [digitValue?, if_neg hAscii, hFound]
    rfl

/- No blank is a digit. -/
theorem blank_of_figure
    {c : Char}
    (hFigure : isDigit c = true) :
    isBlank c = false := by
  have hScripts :
      ∀ least ∈ scriptZeros, ∀ n < 10,
        isBlank (Char.ofNat (least + n)) = false := by
    decide +kernel
  have hAscii :
      ∀ n < 0x80, Decimal.isAsciiDigit (Char.ofNat n) = true →
        isBlank (Char.ofNat n) = false := by
    decide +kernel
  rw [← Char.ofNat_toNat c]
  rcases figure_cases hFigure with hDigit | ⟨-, least, hMem, n, hLess, hCode, -⟩
  · have hRange := digit_bounds ((Decimal.isAsciiDigit_iff c).mp hDigit)
    rw [← Char.ofNat_toNat c] at hDigit
    exact hAscii c.toNat (by omega) hDigit
  · rw [hCode]
    exact hScripts least hMem n hLess

/- No letter of the alphabet is a digit. -/
theorem letter_of_figure
    {c : Char}
    (hFigure : isDigit c = true) :
    c.isAlpha = false := by
  rw [Bool.eq_false_iff]
  intro hLetter
  have hLetterRange := letter_bounds hLetter
  rcases figure_cases hFigure with hDigit | ⟨hCode, -⟩
  · have hRange := digit_bounds ((Decimal.isAsciiDigit_iff c).mp hDigit)
    omega
  · omega

end Text

------------------------------------------------------------
-- Digits In A Row
------------------------------------------------------------

namespace Decimal

/- Characters that are digits of any script, one and all. -/
def AreFigures
    (cs : List Char) : Prop :=
  ∀ c ∈ cs, Text.isDigit c = true

theorem AreFigures.nil :
    AreFigures [] :=
  List.forall_mem_nil _

theorem AreFigures.append
    {front rest : List Char}
    (hFront : AreFigures front)
    (hRest : AreFigures rest) :
    AreFigures (front ++ rest) :=
  List.forall_mem_append.mpr ⟨hFront, hRest⟩

/- A digit of the alphabet is a digit. -/
theorem isDigit_of_isAsciiDigit
    {c : Char}
    (hDigit : isAsciiDigit c = true) :
    Text.isDigit c = true := by
  have hBounds : '0' ≤ c ∧ c ≤ '9' := by
    simpa only [isAsciiDigit, Bool.and_eq_true, decide_eq_true_eq]
      using hDigit
  have hRange := Text.digit_bounds ((isAsciiDigit_iff c).mp hDigit)
  rw [Text.isDigit, Text.digitValue?, if_pos (by omega), if_pos hBounds]
  rfl

theorem AreDigits.areFigures
    {cs : List Char}
    (hDigits : AreDigits cs) :
    AreFigures cs :=
  fun c hMem => isDigit_of_isAsciiDigit (hDigits c hMem)

/- The form of a digit in the alphabet is a digit with the same value. -/
theorem asciiForm_figure
    {c : Char}
    (hFigure : Text.isDigit c = true) :
    isAsciiDigit (asciiForm c) = true ∧
      Text.digitValue? (asciiForm c) = Text.digitValue? c := by
  have hForms :
      ∀ n < 10,
        isAsciiDigit (Char.ofNat ('0'.toNat + n)) = true ∧
          Text.digitValue? (Char.ofNat ('0'.toNat + n)) = some n := by
    decide
  rcases Text.figure_cases hFigure with
    hDigit | ⟨hCode, -, -, n, hLess, -, hValue⟩
  · have hRange := Text.digit_bounds ((isAsciiDigit_iff c).mp hDigit)
    have hForm : asciiForm c = c := if_pos (by omega)
    rw [hForm]
    exact ⟨hDigit, rfl⟩
  · have hForm : asciiForm c = Char.ofNat ('0'.toNat + n) := by
      rw [asciiForm, if_neg (not_lt.mpr hCode), Text.blank_of_figure hFigure,
        hValue]
      rfl
    rw [hForm, hValue]
    exact hForms n hLess

theorem AreFigures.ascii
    {cs : List Char}
    (hFigures : AreFigures cs) :
    AreDigits (cs.map asciiForm) := by
  intro d hMem
  rcases List.mem_map.mp hMem with ⟨c, hFrom, rfl⟩
  exact (asciiForm_figure (hFigures c hFrom)).1

/- So digits denote the same number in every script. -/
theorem naturalOf_asciiForm
    {cs : List Char}
    (hFigures : AreFigures cs) :
    naturalOf (cs.map asciiForm) = naturalOf cs := by
  unfold naturalOf
  rw [List.foldl_map]
  refine List.foldl_ext _ _ _ fun n c hMem => ?_
  rw [(asciiForm_figure (hFigures c hMem)).2]

end Decimal

end Joinery
