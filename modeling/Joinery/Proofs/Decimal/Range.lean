import Joinery.Proofs.Decimal.RoundTrip
import Joinery.Proofs.Number.Signs

/-
  A decimal in the range of doubles is read as the double
  that it rounds to, and any other one as an infinity.

  Key theorems include:
    * `Double.RoundsTo.lt_rangeEnd`
    * `Decimal.toDouble_rounds`
    * `Decimal.isFinite_toDouble_iff`
-/

namespace Joinery

------------------------------------------------------------
-- The End Of The Range
------------------------------------------------------------

namespace Double

open Float.Model Float.Model.UnpackedFloat

/- The range reaches beyond one, and ends before a power of ten. -/
theorem rangeEnd_bounds :
    1 < rangeEnd ∧ rangeEnd < (10 : Rat) ^ 400 := by
  decide +kernel

/-
  What rounds to a double lies below the end of the range:
  the largest significand is odd, so the end itself rounds up.
-/
theorem RoundsTo.lt_rangeEnd
    {q : Rat}
    {m : Nat}
    {e : Int}
    (hRounds : RoundsTo q m e)
    (hRange : e ≤ 971) :
    q < rangeEnd := by
  rcases hRounds.exists_units with ⟨y, rfl, ⟨-, hHigh⟩, hOdd⟩
  have hUnit : (0 : Rat) < 2 ^ e := zpow_pos (by norm_num) e
  have hFits := hRounds.canonical.fits
  have hBelow : y < 2 ^ 53 - 1 / 2 := by
    rcases Nat.lt_or_ge (m + 1) (2 ^ 53) with hInside | hEdge
    · have hCast : (m : Rat) + 1 + 1 ≤ 2 ^ 53 := by exact_mod_cast hInside
      linarith
    · have hLast : m = 2 ^ 53 - 1 := by omega
      have hCast : (m : Rat) = 2 ^ 53 - 1 := by
        rw [hLast]
        norm_num
      linarith [(hOdd (by omega)).2]
  have hMost : (2 : Rat) ^ e ≤ 2 ^ 971 := by
    rw [← zpow_natCast]
    exact zpow_le_zpow_right₀ (by norm_num) hRange
  have hTop : (2 : Rat) ^ 1024 = 2 ^ 53 * 2 ^ 971 := pow_add 2 53 971
  have hStep : (2 : Rat) ^ 971 = 2 * 2 ^ 970 := by
    rw [mul_comm]
    exact pow_succ 2 970
  calc y * (2 : Rat) ^ e < (2 ^ 53 - 1 / 2) * 2 ^ e :=
        mul_lt_mul_of_pos_right hBelow hUnit
    _ ≤ (2 ^ 53 - 1 / 2) * 2 ^ 971 :=
        mul_le_mul_of_nonneg_left hMost (by norm_num)
    _ = rangeEnd := by
        rw [rangeEnd, hTop, hStep]
        generalize (2 : Rat) ^ 970 = step
        ring

/- Parts of a double make a finite one. -/
theorem exactValue?_ofSigned
    (negative : Bool)
    {m : Nat}
    {e : Int}
    (hParts : m = 0 ∨ IsCanonical m e ∧ e ≤ 971) :
    ∃ q, Decimal.exactValue? (ofSigned negative m e) = some q := by
  have hBack := unpack_ofSigned (signOf negative) hParts
  refine ⟨signed (signOf negative) (m * 2 ^ e), ?_⟩
  rw [exactValue?_eq]
  exact (congrArg valueOf? hBack).trans (valueOf?_ofParts _ m e)

/- A number beyond the range has an infinity as its nearest double. -/
theorem unpack_nearestDouble_of_le
    {q : Rat}
    (hBeyond : rangeEnd ≤ q) :
    (Decimal.nearestDouble q).toModel.unpack = .infinity .positive := by
  have hPos : 0 < q := by linarith [rangeEnd_bounds.1]
  rcases nearestDouble_parts hPos.ne' with ⟨m, e, hRounds, hNearest⟩
  rw [abs_of_pos hPos] at hRounds
  have hOver : 971 < e := by
    by_contra hFits
    exact absurd (hRounds.lt_rangeEnd (not_lt.mp hFits))
      (not_lt.mpr hBeyond)
  have hSome : 0 < m := by
    rcases hRounds.canonical.full with hFull | hLeast
    · omega
    · omega
  rw [hNearest, if_neg (not_lt.mpr hPos.le)]
  exact unpack_pack_overflow .positive hSome hOver

/- So is one divided by zero. -/
theorem unpack_one_div_zero :
    (1.0 / 0.0 : Float).toModel.unpack = .infinity .positive := by
  rfl

/- An infinity has no exact value. -/
theorem exactValue?_of_infinity
    {x : Float}
    {s : Sign}
    (hInfinity : x.toModel.unpack = .infinity s) :
    Decimal.exactValue? x = none := by
  rw [exactValue?_eq, hInfinity]
  rfl

end Double

------------------------------------------------------------
-- Decimals In Range
------------------------------------------------------------

namespace Decimal

open Double

/- A decimal in range is not huge. -/
theorem not_huge_of_lt
    {d : Decimal}
    (hSome : d.coefficient ≠ 0)
    (hRange : d.magnitude < rangeEnd) :
    ¬ d.exponent + digitCount d.coefficient > 400 := by
  intro hHuge
  have hPower :
      (10 : Rat) ^ 400 ≤
        10 ^ (d.exponent + digitCount d.coefficient - 1) := by
    rw [← zpow_natCast]
    exact zpow_le_zpow_right₀ (by norm_num) (by omega)
  have hBelow := (magnitude_digits hSome).1
  exact absurd (rangeEnd_bounds.2.trans_le (hPower.trans hBelow))
    (not_lt.mpr hRange.le)

/- A decimal beyond the range is not tiny. -/
theorem not_tiny_of_le
    {d : Decimal}
    (hSome : d.coefficient ≠ 0)
    (hBeyond : rangeEnd ≤ d.magnitude) :
    ¬ d.exponent + digitCount d.coefficient < -400 := by
  intro hTiny
  have hPower :
      (10 : Rat) ^ (d.exponent + digitCount d.coefficient) ≤ 1 :=
    zpow_le_one_of_nonpos₀ (by norm_num) (by omega)
  have hAbove := (magnitude_digits hSome).2
  exact absurd (hAbove.trans_le (hPower.trans rangeEnd_bounds.1.le))
    (not_lt.mpr hBeyond)

/- A decimal in range is read as the double that it rounds to. -/
theorem toDouble_rounds
    {d : Decimal}
    (hRange : d.magnitude < rangeEnd) :
    ∃ m e, RoundsTo d.magnitude m e ∧ e ≤ 971 ∧
      toDouble d = ofSigned d.negative m e := by
  by_cases hZero : d.magnitude = 0
  · refine ⟨0, -1074, ⟨⟨by norm_num, le_rfl, Or.inr rfl⟩, ?_⟩,
      by norm_num, toDouble_of_zero hZero _⟩
    rw [hZero]
    decide +kernel
  · rcases nearestDouble_parts hZero with ⟨m, e, hRounds, hNearest⟩
    rw [abs_of_nonneg d.magnitude_nonneg] at hRounds
    have hFits : e ≤ 971 := by
      by_contra hOver
      exact absurd (hRounds.rangeEnd_le (not_le.mp hOver))
        (not_le.mpr hRange)
    refine ⟨m, e, hRounds, hFits, ?_⟩
    rcases Nat.eq_zero_or_pos m with rfl | hPos
    · -- Nothing is left of the decimal, whichever branch reads it.
      have hSome : d.coefficient ≠ 0 := by
        intro hNone
        rw [magnitude, hNone, Nat.cast_zero, zero_mul] at hZero
        exact hZero rfl
      have hSize : nearestDouble d.magnitude = 0.0 := by
        rw [hNearest, if_neg (not_lt.mpr d.magnitude_nonneg)]
        rfl
      have hNotHuge := not_huge_of_lt hSome hRange
      rw [toDouble]
      simp only [hSome, hNotHuge, if_false, hSize, ite_self]
      cases d.negative <;> rfl
    · exact toDouble_of_roundsTo hPos hFits hRounds

/- A decimal is read as a finite double exactly if it is in range. -/
theorem isFinite_toDouble_iff
    (d : Decimal) :
    isFinite (toDouble d) = true ↔ d.magnitude < rangeEnd := by
  rw [Number.isFinite_iff]
  constructor
  · rintro ⟨q, hValue⟩
    by_contra hBeyond
    rw [not_lt] at hBeyond
    have hSome : d.coefficient ≠ 0 := by
      intro hNone
      rw [magnitude, hNone, Nat.cast_zero, zero_mul] at hBeyond
      linarith [rangeEnd_bounds.1]
    have hSize :
        ∃ size : Float,
          toDouble d = (if d.negative then -size else size) ∧
            size.toModel.unpack = .infinity .positive := by
      rw [toDouble]
      by_cases hHuge : d.exponent + digitCount d.coefficient > 400
      · simp only [hSome, hHuge, if_true, if_false]
        exact ⟨1.0 / 0.0, rfl, unpack_one_div_zero⟩
      · simp only [hSome, hHuge, not_tiny_of_le hSome hBeyond, if_false]
        exact ⟨nearestDouble d.magnitude, rfl,
          unpack_nearestDouble_of_le hBeyond⟩
    rcases hSize with ⟨size, hRead, hInfinity⟩
    have hNone : exactValue? (toDouble d) = none := by
      rw [hRead]
      split
      · exact exactValue?_of_infinity (unpack_neg_infinity hInfinity)
      · exact exactValue?_of_infinity hInfinity
    rw [hNone] at hValue
    cases hValue
  · intro hRange
    rcases toDouble_rounds hRange with ⟨m, e, hRounds, hFits, hRead⟩
    rw [hRead]
    exact exactValue?_ofSigned _ (Or.inr ⟨hRounds.canonical, hFits⟩)

end Decimal

end Joinery
