import Joinery.Proofs.Decimal.Spelling
import Joinery.Proofs.Gcode.Numerals

/-
  A numeral is the correct rounding of what a number is
  written as: whole numbers are written in full, and others
  are rounded from their shortest decimal to the nearest
  hundredth, a tie going away from zero.

  Key definitions include:
    * `Numeral.IsWhole`
    * `Numeral.IsHundredths`
    * `Numeral.IsNearestAway`

  Key theorems include:
    * `Decimal.roundMagnitude_away`
    * `Decimal.pointed_shape`
    * `Numeral.ofDecimal_rounds`
    * `Numeral.ofValue_rounds`
-/

namespace Joinery

------------------------------------------------------------
-- Rounding Away From Zero
------------------------------------------------------------

namespace Decimal

/- A half is rounded up, and what is less than a half down. -/
theorem roundMagnitude_away
    {q : Rat}
    (hNonneg : 0 ≤ q) :
    (roundMagnitude .awayFromZero q : Rat) - 1 / 2 ≤ q ∧
      q < roundMagnitude .awayFromZero q + 1 / 2 := by
  rcases toNat_floor_bounds hNonneg with ⟨hUnder, hOver⟩
  unfold roundMagnitude
  generalize q.floor.toNat = below at *
  simp only
  split
  · constructor <;> linarith
  · split
    · push_cast
      constructor <;> linarith
    · push_cast
      constructor <;> linarith

/-
  A count of small units has plain digits before the point,
  and as many after it as there are places.
-/
theorem pointed_shape
    {places : Nat}
    (hPlaces : places ≠ 0)
    (units : Nat) :
    ∃ whole fraction,
      pointed places units = whole ++ '.' :: fraction ∧
        IsPlain whole ∧
        AreDigits fraction ∧
        fraction.length = places ∧
        naturalOf (whole ++ fraction) = units := by
  have hPadded :
      AreDigits (padLeft (places + 1) (digits units)) :=
    (zeros_areDigits _).append (digits_areDigits units)
  have hLength := length_padLeft (places + 1) (digits units)
  have hWhole :
      IsPlain
        ((padLeft (places + 1) (digits units)).take
          ((padLeft (places + 1) (digits units)).length - places)) := by
    rcases Nat.lt_or_ge (digits units).length (places + 1) with
      hShort | hLong
    · -- there is one digit before the point, and it is padded
      have hOne :
          (padLeft (places + 1) (digits units)).length - places = 1 := by
        omega
      have hFirst :
          (padLeft (places + 1) (digits units)).take 1 = ['0'] := by
        rw [padLeft, zeros, ← Nat.succ_pred_eq_of_pos
          (show 0 < places + 1 - (digits units).length by omega)]
        rfl
      rw [hOne, hFirst]
      exact isPlain_singleton rfl
    · have hNone : padLeft (places + 1) (digits units) = digits units := by
        rw [padLeft, Nat.sub_eq_zero_of_le hLong]
        rfl
      rw [hNone]
      exact (digits_plain units).take (by omega) (by omega)
  refine ⟨_, _, if_neg hPlaces, hWhole, ?_, ?_, ?_⟩
  · exact fun c hMem => hPadded c (List.mem_of_mem_drop hMem)
  · rw [List.length_drop]
    omega
  · rw [List.take_append_drop, naturalOf_padLeft]

end Decimal

------------------------------------------------------------
-- The Form Of Numerals
------------------------------------------------------------

namespace Numeral

open Double
open Decimal (IsPlain AreDigits naturalOf withSign)

/- A whole number, written in full; zero has no sign. -/
def IsWhole
    (cs : List Char)
    (n : Int) : Prop :=
  ∃ ds, cs = withSign (n < 0) ds ∧ IsPlain ds ∧ naturalOf ds = n.natAbs

/-
  A count of hundredths, with two digits after the point.
  The sign is written also before a zero.
-/
def IsHundredths
    (cs : List Char)
    (negative : Bool)
    (units : Int) : Prop :=
  ∃ whole first second,
    cs = withSign negative (whole ++ ['.', first, second]) ∧
      IsPlain whole ∧
      AreDigits [first, second] ∧
      units =
        if negative then -(naturalOf (whole ++ [first, second]) : Int)
        else naturalOf (whole ++ [first, second])

/-
  A count of hundredths is nearer to a number than any other
  one; of two that are as near, it is the larger one, without
  the sign.
-/
def IsNearestAway
    (units : Int)
    (q : Rat) : Prop :=
  ∀ other : Int, other ≠ units →
    |(units : Rat) / 100 - q| < |(other : Rat) / 100 - q| ∨
      |(units : Rat) / 100 - q| = |(other : Rat) / 100 - q| ∧
        |other| < |units|

/- Opposite numbers have opposite nearest hundredths. -/
theorem IsNearestAway.neg
    {units : Int}
    {q : Rat}
    (hNearest : IsNearestAway units q) :
    IsNearestAway (-units) (-q) := by
  have hFlip :
      ∀ n : Int, |((-n : Int) : Rat) / 100 - -q| = |(n : Rat) / 100 - q| := by
    intro n
    rw [← abs_neg]
    congr 1
    push_cast
    ring
  intro other hOther
  have hSame := hNearest (-other) (by omega)
  rw [← hFlip units, ← hFlip (-other), neg_neg, abs_neg] at hSame
  rwa [abs_neg]

/- A magnitude has the hundredths nearest to it that it is rounded to. -/
theorem isNearestAway_natural
    {units : Nat}
    {q : Rat}
    (hNonneg : 0 ≤ q)
    (hLow : (units : Rat) - 1 / 2 ≤ q * 100)
    (hHigh : q * 100 < units + 1 / 2) :
    IsNearestAway units q := by
  intro other hOther
  have hClose : |((units : Int) : Rat) / 100 - q| ≤ 1 / 200 := by
    rw [abs_le, Int.cast_natCast]
    constructor <;> linarith
  rcases lt_or_gt_of_ne hOther with hBelow | hAbove
  · have hStep : (other : Rat) ≤ units - 1 := by
      have hInt : other ≤ units - 1 := by omega
      exact_mod_cast hInt
    have hFar : |(other : Rat) / 100 - q| = q - other / 100 := by
      rw [abs_of_nonpos (by linarith)]
      ring
    rw [hFar]
    by_cases hTie :
        q * 100 = units - 1 / 2 ∧ (other : Rat) = units - 1
    · refine Or.inr ⟨?_, ?_⟩
      · rw [Int.cast_natCast, abs_of_nonneg (by linarith [hTie.1])]
        linarith [hTie.1, hTie.2]
      · have hSame : other = units - 1 := by exact_mod_cast hTie.2
        have hSome : 0 < units := by
          have hHalf : (0 : Rat) < units := by linarith [hTie.1]
          exact_mod_cast hHalf
        rw [abs_of_nonneg (by omega), Nat.abs_cast]
        omega
    · left
      refine lt_of_le_of_lt hClose ?_
      rcases not_and_or.mp hTie with hHalf | hNext
      · have hStrict := lt_of_le_of_ne hLow (Ne.symm hHalf)
        linarith
      · have hStrict := lt_of_le_of_ne hStep hNext
        linarith
  · have hStep : (units : Rat) + 1 ≤ other := by exact_mod_cast hAbove
    left
    rw [abs_of_nonneg (by linarith : 0 ≤ (other : Rat) / 100 - q)]
    linarith

/- A decimal is rounded to the nearest hundredth, with its sign. -/
theorem ofDecimal_rounds
    {d : Decimal}
    (hFits : FitsPrecision d) :
    ∃ s units, ofDecimal d = .ok s ∧
      IsHundredths s.toList d.negative units ∧
      IsNearestAway units d.toRat := by
  have hNonneg : 0 ≤ d.magnitude * (10 : Rat) ^ places :=
    mul_nonneg d.magnitude_nonneg (pow_pos (by norm_num) places).le
  rcases Decimal.roundMagnitude_away hNonneg with ⟨hLow, hHigh⟩
  rw [pow_places] at hLow hHigh
  rcases Decimal.pointed_shape (show places ≠ 0 by decide)
      (Decimal.roundMagnitude .awayFromZero
        (d.magnitude * (10 : Rat) ^ places)) with
    ⟨whole, fraction, hText, hPlain, hDigits, hPlaces, hValue⟩
  rw [pow_places] at hText hValue
  rcases List.length_eq_two.mp hPlaces with ⟨first, second, rfl⟩
  have hNearest :=
    isNearestAway_natural d.magnitude_nonneg hLow hHigh
  refine ⟨_, _, ofDecimal_of_fits hFits,
    ⟨whole, first, second, ?_, hPlain, hDigits, rfl⟩, ?_⟩
  · rw [String.toList_ofList, Decimal.fixedText, pow_places, hText]
    rfl
  · rw [hValue, Decimal.toRat]
    split
    · exact hNearest.neg
    · exact hNearest

------------------------------------------------------------
-- Whole Numbers
------------------------------------------------------------

/- An integer that is not too long is written in full. -/
theorem ofInt_whole
    {n : Int}
    (hShort : Decimal.exceedsLimit n = false) :
    ∃ s, ofInt n = .ok s ∧ IsWhole s.toList n := by
  refine ⟨Decimal.integerText n, ?_, Decimal.digits n.natAbs, ?_,
    Decimal.digits_plain _, Decimal.naturalOf_digits _⟩
  · rw [ofInt, hShort]
    rfl
  · rw [Decimal.integerText_toList, withSign]
    simp only [decide_eq_true_eq]

------------------------------------------------------------
-- All Numbers
------------------------------------------------------------

/- A whole double is not too long. -/
theorem not_exceedsLimit_num
    {x : Float}
    {q : Rat}
    (hValue : Decimal.exactValue? x = some q)
    (hWhole : q.den = 1) :
    Decimal.exceedsLimit q.num = false := by
  apply not_exceedsLimit
  rw [Rat.coe_int_num_of_den_eq_one hWhole]
  exact (exactValue?_le hValue).trans
    (pow_le_pow_right₀ (by norm_num) (by norm_num))

/- So it is written in full. -/
theorem ofFloat_whole
    {x : Float}
    {q : Rat}
    (hValue : Decimal.exactValue? x = some q)
    (hWhole : q.den = 1) :
    ∃ s, ofFloat x = .ok s ∧ IsWhole s.toList q.num := by
  rcases ofInt_whole (not_exceedsLimit_num hValue hWhole) with
    ⟨s, hText, hForm⟩
  refine ⟨s, ?_, hForm⟩
  rw [ofFloat, hValue]
  simpa only [hWhole, if_true] using hText

/- A finite double that is not whole is rounded from its text. -/
theorem ofFloat_rounds
    {x : Float}
    {q : Rat}
    (hValue : Decimal.exactValue? x = some q)
    (hPart : q.den ≠ 1) :
    ∃ s d units, ofFloat x = .ok s ∧
      Decimal.ofNumeral? (Decimal.doubleText x).toList = some d ∧
      IsNearestAway units d.toRat ∧
      IsHundredths s.toList (q < 0) units := by
  have hSome : q ≠ 0 := by
    rintro rfl
    exact hPart rfl
  rcases Decimal.shortest?_parts hValue hSome with
    ⟨negative, m, e, hShortest, -, hNegative, -, -⟩
  have hFits := fits_of_not_whole hValue hPart hShortest
  rcases ofDecimal_rounds hFits with ⟨s, units, hText, hForm, hNearest⟩
  rcases Decimal.doubleText_reads hShortest with
    ⟨read, hRead, hSign, hMagnitude, -⟩
  have hSame : read.toRat = (Decimal.shortest negative m e).toRat := by
    rw [Decimal.toRat, Decimal.toRat, hSign, hMagnitude]
  rw [Decimal.shortest_negative, hNegative] at hForm
  refine ⟨s, read, units, ?_, hRead, ?_, hForm⟩
  · rw [ofFloat, hValue]
    simp only [hPart, if_false, hShortest, hText]
  · rwa [hSame]

/-
  Every integer that can be written, and every finite double,
  has a numeral. Whole numbers are written in full, and other
  numbers with two places: these are the hundredths nearest to
  what the text of the number denotes.
-/
theorem ofValue_rounds :
    (∀ n : Int, Decimal.digitCount n.natAbs ≤ 4300 →
      ∃ s, ofValue (.int n) = .ok s ∧ IsWhole s.toList n) ∧
    (∀ (x : Float) (q : Rat), Decimal.exactValue? x = some q →
      ∃ s, ofValue (.float x) = .ok s ∧
        (q.den = 1 → IsWhole s.toList q.num) ∧
        (q.den ≠ 1 →
          ∃ d units,
            Decimal.ofNumeral? (Decimal.doubleText x).toList = some d ∧
              IsNearestAway units d.toRat ∧
              IsHundredths s.toList (q < 0) units)) := by
  refine ⟨fun n hShort => ?_, fun x q hValue => ?_⟩
  · exact ofInt_whole ((Decimal.exceedsLimit_eq_false_iff n).mpr hShort)
  · by_cases hWhole : q.den = 1
    · rcases ofFloat_whole hValue hWhole with ⟨s, hText, hForm⟩
      exact ⟨s, hText, fun _ => hForm, fun hPart => absurd hWhole hPart⟩
    · rcases ofFloat_rounds hValue hWhole with
        ⟨s, d, units, hText, hRead, hNearest, hForm⟩
      exact ⟨s, hText, fun hInt => absurd hInt hWhole, fun _ =>
        ⟨d, units, hRead, hNearest, hForm⟩⟩

/-
  A double just below a tie is rounded up, as its text is a
  tie; a small one keeps its sign.
-/
theorem ofValue_rounds_ties :
    (∃ s, ofValue (.int (-300)) = .ok s ∧ IsWhole s.toList (-300)) ∧
    (∃ q, Decimal.exactValue? 3.005 = some q ∧ q < 3005 / 1000 ∧
      (ofValue (.float 3.005)).toOption = some "3.01" ∧
      ∃ s d units, ofValue (.float 3.005) = .ok s ∧
        Decimal.ofNumeral? (Decimal.doubleText 3.005).toList = some d ∧
        IsNearestAway units d.toRat ∧
        IsHundredths s.toList (q < 0) units) := by
  have hValue :
      Decimal.exactValue? 3.005 = some (3383329220062085 / 1125899906842624) := by
    decide +kernel
  refine ⟨ofValue_rounds.1 (-300) (by decide +kernel), _, hValue,
    by norm_num, by decide +kernel, ?_⟩
  rcases ofValue_rounds.2 3.005 _ hValue with ⟨s, hText, -, hRounds⟩
  rcases hRounds (by decide +kernel) with ⟨d, units, hRead, hNearest, hForm⟩
  exact ⟨s, d, units, hText, hRead, hNearest, hForm⟩

end Numeral

end Joinery
