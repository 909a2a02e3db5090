import Joinery.Proofs.Decimal.Numerals
import Joinery.Proofs.Decimal.Shortest
import Joinery.Proofs.Double.Bits
import Joinery.Proofs.Double.Rounding

/-
  The shortest decimal of a double reads back as the double,
  in whatever way the decimal is spelled. It has the order
  of the doubles.

  Key theorems include:
    * `Decimal.magnitude_digits`
    * `Decimal.toDouble_of_roundsTo`
    * `Decimal.shortest_roundsTo`
    * `Decimal.shortest?_parts`
    * `Decimal.toDouble_shortest`
-/

namespace Joinery

namespace Decimal

open Double

------------------------------------------------------------
-- The Size Of A Decimal
------------------------------------------------------------

/- The digits of a decimal say between which powers of ten it lies. -/
theorem magnitude_digits
    {d : Decimal}
    (hSome : d.coefficient ≠ 0) :
    (10 : Rat) ^ (d.exponent + digitCount d.coefficient - 1) ≤
        d.magnitude ∧
      d.magnitude <
        (10 : Rat) ^ (d.exponent + digitCount d.coefficient) := by
  have hUnit : (0 : Rat) < 10 ^ d.exponent := zpow_pos (by norm_num) _
  have hCount : 0 < digitCount d.coefficient :=
    List.length_pos_of_ne_nil (digits_ne_nil _)
  have hAbove : d.coefficient < 10 ^ digitCount d.coefficient :=
    (digitCount_le_iff hCount).mp le_rfl
  have hBelow :
      10 ^ (digitCount d.coefficient - 1) ≤ d.coefficient := by
    rcases Nat.eq_zero_or_pos (digitCount d.coefficient - 1) with
      hOne | hMore
    · rw [hOne, pow_zero]
      exact Nat.pos_of_ne_zero hSome
    · by_contra hLess
      have hShort := (digitCount_le_iff hMore).mpr (not_le.mp hLess)
      omega
  constructor
  · have hSplit :
        (10 : Rat) ^ (d.exponent + digitCount d.coefficient - 1) =
          10 ^ (digitCount d.coefficient - 1) * 10 ^ d.exponent := by
      rw [← zpow_natCast, ← zpow_add₀ (by norm_num)]
      congr 1
      omega
    rw [hSplit, magnitude]
    exact mul_le_mul_of_nonneg_right (by exact_mod_cast hBelow) hUnit.le
  · rw [zpow_add₀ (by norm_num), zpow_natCast, mul_comm, magnitude]
    exact mul_lt_mul_of_pos_right (by exact_mod_cast hAbove) hUnit

/- What rounds to a positive double is positive. -/
theorem roundsTo_bounds
    {q : Rat}
    {m : Nat}
    {e : Int}
    (hPos : 0 < m)
    (hRange : e ≤ 971)
    (hRounds : RoundsTo q m e) :
    (2 : Rat) ^ (-1075 : Int) ≤ q ∧ q < 2 ^ 1024 := by
  rcases hRounds.exists_units with ⟨y, rfl, ⟨hLow, hHigh⟩, -⟩
  have hUnit : (0 : Rat) < 2 ^ e := zpow_pos (by norm_num) e
  have hRoom := roomBelow_le m e
  have hOne : (1 : Rat) ≤ m := by exact_mod_cast hPos
  have hFits : (m : Rat) + 1 ≤ 2 ^ 53 := by
    exact_mod_cast hRounds.canonical.fits
  constructor
  · have hLeast : (2 : Rat) ^ (-1074 : Int) ≤ 2 ^ e :=
      zpow_le_zpow_right₀ (by norm_num) hRounds.canonical.least
    calc (2 : Rat) ^ (-1075 : Int) = 1 / 2 * 2 ^ (-1074 : Int) := by
          rw [show (-1075 : Int) = -1074 - 1 by norm_num,
            zpow_sub_one₀ (by norm_num), mul_comm]
          norm_num only
      _ ≤ y * 2 ^ e :=
          mul_le_mul (by linarith) hLeast (zpow_pos (by norm_num) _).le
            (by linarith)
  · have hMost : (2 : Rat) ^ e ≤ 2 ^ 971 := by
      rw [← zpow_natCast]
      exact zpow_le_zpow_right₀ (by norm_num) hRange
    calc y * (2 : Rat) ^ e < 2 ^ 53 * 2 ^ e :=
          mul_lt_mul_of_pos_right (by linarith) hUnit
      _ ≤ 2 ^ 53 * 2 ^ 971 :=
          mul_le_mul_of_nonneg_left hMost (by positivity)
      _ = 2 ^ 1024 := (pow_add 2 53 971).symm

------------------------------------------------------------
-- Reading Decimals
------------------------------------------------------------

/- A number that rounds to a double has it as its nearest double. -/
theorem nearestDouble_of_roundsTo
    {q : Rat}
    {m : Nat}
    {e : Int}
    (hPos : 0 < q)
    (hRounds : RoundsTo q m e) :
    nearestDouble q = ofSigned false m e := by
  rcases nearestDouble_parts hPos.ne' with ⟨n, f, hFound, hNearest⟩
  rw [abs_of_pos hPos] at hFound
  rcases hFound.unique hRounds with ⟨rfl, rfl⟩
  rw [hNearest, if_neg (not_lt.mpr hPos.le)]
  rfl

/- A decimal that rounds to a double is read as it. -/
theorem toDouble_of_roundsTo
    {d : Decimal}
    {m : Nat}
    {e : Int}
    (hPos : 0 < m)
    (hRange : e ≤ 971)
    (hRounds : RoundsTo d.magnitude m e) :
    toDouble d = ofSigned d.negative m e := by
  rcases roundsTo_bounds hPos hRange hRounds with ⟨hLow, hHigh⟩
  have hPositive : 0 < d.magnitude :=
    lt_of_lt_of_le (zpow_pos (by norm_num) _) hLow
  have hSome : d.coefficient ≠ 0 := by
    intro hZero
    rw [magnitude, hZero, Nat.cast_zero, zero_mul] at hPositive
    exact lt_irrefl 0 hPositive
  rcases magnitude_digits hSome with ⟨hBelow, hAbove⟩
  have hNotHuge : ¬ d.exponent + digitCount d.coefficient > 400 := by
    intro hHuge
    have hPower :
        (10 : Rat) ^ (400 : Int) ≤
          10 ^ (d.exponent + digitCount d.coefficient - 1) :=
      zpow_le_zpow_right₀ (by norm_num) (by omega)
    have hOver : (2 : Rat) ^ 1024 < 10 ^ (400 : Int) :=
      calc (2 : Rat) ^ 1024 ≤ 2 ^ (3 * 400) :=
            pow_le_pow_right₀ (by norm_num) (by norm_num)
        _ = (2 ^ 3) ^ 400 := pow_mul 2 3 400
        _ < 10 ^ 400 :=
            pow_lt_pow_left₀ (by norm_num) (by norm_num) (by norm_num)
        _ = 10 ^ (400 : Int) := (zpow_natCast 10 400).symm
    exact absurd (hOver.trans_le (hPower.trans hBelow))
      (not_lt.mpr hHigh.le)
  have hNotTiny : ¬ d.exponent + digitCount d.coefficient < -400 := by
    intro hTiny
    have hPower :
        (10 : Rat) ^ (d.exponent + digitCount d.coefficient) ≤
          10 ^ (-400 : Int) :=
      zpow_le_zpow_right₀ (by norm_num) (by omega)
    have hUnder : (10 : Rat) ^ (-400 : Int) < 2 ^ (-1075 : Int) :=
      ten_zpow_lt_two_zpow (by omega) (by omega)
    exact absurd (hAbove.trans_le (hPower.trans hUnder.le))
      (not_lt.mpr hLow)
  have hSize := nearestDouble_of_roundsTo hPositive hRounds
  rw [toDouble]
  simp only [hSome, hNotHuge, hNotTiny, if_false, hSize]
  cases d.negative with
  | false => rfl
  | true => exact neg_ofSigned false (Or.inr ⟨hRounds.canonical, hRange⟩)

/- A decimal zero is read as a zero with its sign. -/
theorem toDouble_of_zero
    {d : Decimal}
    (hZero : d.magnitude = 0)
    (e : Int) :
    toDouble d = ofSigned d.negative 0 e := by
  have hNone : d.coefficient = 0 := by
    have hUnit : (10 : Rat) ^ d.exponent ≠ 0 :=
      (zpow_pos (by norm_num) _).ne'
    exact_mod_cast (mul_eq_zero.mp hZero).resolve_right hUnit
  rw [toDouble]
  simp only [hNone, if_true]
  cases d.negative <;> rfl

------------------------------------------------------------
-- The Round Trip
------------------------------------------------------------

/- The shortest decimal of a double rounds to the double. -/
theorem shortest_roundsTo
    (negative : Bool)
    {m : Nat}
    {e : Int}
    (hPos : 0 < m)
    (hCanonical : IsCanonical m e)
    (hRange : e ≤ 971) :
    RoundsTo (shortest negative m e).magnitude m e where
  canonical := hCanonical
  holds := shortest_holds negative hPos hCanonical hRange

theorem shortest_zero
    (negative : Bool)
    (e : Int) :
    shortest negative 0 e = ⟨negative, 0, 0⟩ :=
  rfl

/- The digits of the shortest decimal do not depend on the sign. -/
theorem shortest_sign
    (negative : Bool)
    (m : Nat)
    (e : Int) :
    shortest negative m e =
      { shortest false m e with negative := negative } := by
  unfold shortest
  split
  · rfl
  · split <;> rfl

/-
  A double that is not zero has a sign and canonical parts,
  and the opposite double has the same parts.
-/
theorem shortest?_parts
    {x : Float}
    {q : Rat}
    (hValue : exactValue? x = some q)
    (hSome : q ≠ 0) :
    ∃ (negative : Bool) (m : Nat) (e : Int),
      shortest? x = some (shortest negative m e) ∧
      shortest? (-x) = some (shortest (!negative) m e) ∧
      negative = decide (q < 0) ∧
      q = (if negative then -(m * (2 : Rat) ^ e) else m * 2 ^ e) ∧
      RoundsTo (shortest negative m e).magnitude m e := by
  rcases parts_of_exactValue? hValue with
    ⟨negative, m, e, hFloat, hExact, hParts⟩
  have hUnit : (0 : Rat) < 2 ^ e := zpow_pos (by norm_num) e
  have hPos : 0 < m := by
    apply Nat.pos_of_ne_zero
    rintro rfl
    apply hSome
    rw [hExact]
    simp
  have hSize : 0 < (m : Rat) * 2 ^ e :=
    mul_pos (by exact_mod_cast hPos) hUnit
  rcases hParts.resolve_left (Nat.pos_iff_ne_zero.mp hPos) with
    ⟨hCanonical, hRange⟩
  have hSame : x = ofSigned negative m e := by
    rw [← ofBinary_ofFloat x, hFloat]
    rfl
  have hOpposite :
      Binary.ofFloat (-x) = .finite (!negative) m e := by
    rw [hSame, neg_ofSigned negative (Or.inr ⟨hCanonical, hRange⟩)]
    exact ofFloat_ofSigned _ hPos hCanonical hRange
  refine ⟨negative, m, e, ?_, ?_, ?_, hExact,
    shortest_roundsTo negative hPos hCanonical hRange⟩
  · rw [shortest?, hFloat]
  · rw [shortest?, hOpposite]
  · rw [hExact]
    cases negative with
    | true => exact (decide_eq_true (neg_neg_of_pos hSize)).symm
    | false => exact (decide_eq_false (not_lt.mpr hSize.le)).symm

/-
  A decimal with the sign and the magnitude of the shortest
  one reads back as the double.
-/
theorem toDouble_shortest
    {x : Float}
    {d e : Decimal}
    (hShortest : shortest? x = some d)
    (hSign : e.negative = d.negative)
    (hSize : e.magnitude = d.magnitude) :
    toDouble e = x := by
  have hWhole := ofBinary_ofFloat x
  rcases exists_of_shortest? hShortest with ⟨negative, m, f, hFloat, rfl⟩
  have hFinite : (exactValue? x).isSome = true := by
    rw [exactValue?, hFloat]
    rfl
  rcases Option.isSome_iff_exists.mp hFinite with ⟨q, hValue⟩
  rcases parts_of_exactValue? hValue with
    ⟨negative', m', f', hFloat', -, hParts⟩
  rw [hFloat] at hFloat' hWhole
  cases hFloat'
  rw [shortest_negative] at hSign
  rw [← hWhole, ofBinary, ← hSign]
  rcases Nat.eq_zero_or_pos m with rfl | hPos
  · apply toDouble_of_zero
    rw [hSize, shortest_zero, magnitude, Nat.cast_zero, zero_mul]
  · rcases hParts.resolve_left (Nat.pos_iff_ne_zero.mp hPos) with
      ⟨hCanonical, hRange⟩
    apply toDouble_of_roundsTo hPos hRange
    rw [hSize]
    exact shortest_roundsTo negative hPos hCanonical hRange

end Decimal

end Joinery
