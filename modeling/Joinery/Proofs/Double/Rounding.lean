import Joinery.Decimal.Shortest
import Joinery.Proofs.Double.Arithmetic

/-
  Rounding to a double is exact: what comes out has the
  canonical parts whose rounding interval holds the number.
  The intervals of different parts are apart, so that there
  is only one such double.

  Key definitions include:
    * `Double.RoundsTo`
    * `Double.rangeEnd`

  Key theorems include:
    * `Double.RoundsTo.lt_of_lt`
    * `Double.RoundsTo.unique`
    * `Double.roundWithAccuracy_roundsTo`
    * `Double.nearestDouble_parts`
    * `Double.nearestDouble_finite`
-/

namespace Joinery

namespace Double

open Float.Model Float.Model.UnpackedFloat
open Decimal (Spread)

------------------------------------------------------------
-- Rounding Intervals
------------------------------------------------------------

/-
  How far down a rounding interval reaches, in units of the
  last place.
-/
def roomBelow
    (m : Nat)
    (e : Int) : Rat :=
  if m = 2 ^ 52 ∧ -1074 < e then 1 / 4 else 1 / 2

theorem roomBelow_le
    (m : Nat)
    (e : Int) :
    1 / 4 ≤ roomBelow m e ∧ roomBelow m e ≤ 1 / 2 := by
  unfold roomBelow
  split <;> norm_num

/-
  A number lies so far from a whole number, downwards and
  upwards, that it rounds to it; half way only to an even one.
-/
def IsNearest
    (n : Nat)
    (room : Rat)
    (y : Rat) : Prop :=
  (n - room ≤ y ∧ y ≤ n + 1 / 2) ∧
    (n % 2 = 1 → n - room < y ∧ y < n + 1 / 2)

/- The interval of parts, in units of the last place. -/
theorem holds_iff
    (m : Nat)
    (e : Int)
    (y : Rat) :
    (Spread.ofParts m e).holds (y * 2 ^ e) = true ↔
      IsNearest m (roomBelow m e) y := by
  have hUnit : (0 : Rat) < 2 ^ e := zpow_pos (by norm_num) e
  have hLow :
      (Spread.ofParts m e).low = (m - roomBelow m e) * 2 ^ e := by
    simp only [Spread.ofParts, roomBelow, gt_iff_lt]
    norm_num only
    split <;> ring
  have hHigh :
      (Spread.ofParts m e).high = (m + 1 / 2) * 2 ^ e := by
    simp only [Spread.ofParts]
    ring
  have hClosed :
      (Spread.ofParts m e).closed = decide (m % 2 = 0) := rfl
  rw [Spread.holds, hLow, hHigh, hClosed, IsNearest]
  rcases Nat.mod_two_eq_zero_or_one m with hEven | hOdd
  · simp [hEven, mul_le_mul_iff_left₀ hUnit]
  · simp only [hOdd, one_ne_zero, decide_false, Bool.false_eq_true,
      if_false, Bool.and_eq_true, decide_eq_true_eq,
      mul_lt_mul_iff_left₀ hUnit, forall_const]
    exact ⟨fun hInside =>
      ⟨⟨hInside.1.le, hInside.2.le⟩, hInside⟩, And.right⟩

/- A magnitude lies in the rounding interval of canonical parts. -/
structure RoundsTo
    (q : Rat)
    (m : Nat)
    (e : Int) : Prop where
  canonical : IsCanonical m e
  holds : (Spread.ofParts m e).holds q = true

/- What is rounded, in units of the last place. -/
theorem RoundsTo.exists_units
    {q : Rat}
    {m : Nat}
    {e : Int}
    (hRounds : RoundsTo q m e) :
    ∃ y, q = y * 2 ^ e ∧ IsNearest m (roomBelow m e) y := by
  have hUnit : (2 : Rat) ^ e ≠ 0 := (zpow_pos (by norm_num) e).ne'
  have hScale : q = q / 2 ^ e * 2 ^ e := (div_mul_cancel₀ q hUnit).symm
  have hHolds := hRounds.holds
  rw [hScale, holds_iff] at hHolds
  exact ⟨q / 2 ^ e, hScale, hHolds⟩

------------------------------------------------------------
-- Intervals Are Apart
------------------------------------------------------------

/- Canonical parts with a larger exponent are a larger number. -/
theorem IsCanonical.lt_of_exponent
    {m n : Nat}
    {e f : Int}
    (hFirst : IsCanonical m e)
    (hSecond : IsCanonical n f)
    (hLess : e < f) :
    (m : Rat) * 2 ^ e < n * 2 ^ f := by
  have hUnit : (0 : Rat) < 2 ^ e := zpow_pos (by norm_num) e
  have hFull : 2 ^ 52 ≤ n := by
    rcases hSecond.full with hFull | hLast
    · exact hFull
    · have hLeast := hFirst.least
      omega
  have hFits : (m : Rat) < 2 ^ 53 := by exact_mod_cast hFirst.fits
  have hCast : (2 : Rat) ^ 52 ≤ n := by exact_mod_cast hFull
  have hPower : 2 * (2 : Rat) ^ e ≤ 2 ^ f := by
    rw [← zpow_one_add₀ (by norm_num)]
    exact zpow_le_zpow_right₀ (by norm_num) (by omega)
  calc (m : Rat) * 2 ^ e < 2 ^ 53 * 2 ^ e :=
        mul_lt_mul_of_pos_right hFits hUnit
    _ = 2 ^ 52 * (2 * 2 ^ e) := by ring
    _ ≤ n * 2 ^ f :=
        mul_le_mul hCast hPower (by positivity) (Nat.cast_nonneg n)

/- Canonical parts of one number are the same. -/
theorem IsCanonical.eq_of_value
    {m n : Nat}
    {e f : Int}
    (hFirst : IsCanonical m e)
    (hSecond : IsCanonical n f)
    (hSame : (m : Rat) * 2 ^ e = n * 2 ^ f) :
    m = n ∧ e = f := by
  rcases lt_trichotomy e f with hLess | rfl | hMore
  · exact absurd hSame (hFirst.lt_of_exponent hSecond hLess).ne
  · have hUnit : (2 : Rat) ^ e ≠ 0 := (zpow_pos (by norm_num) e).ne'
    exact ⟨by exact_mod_cast mul_right_cancel₀ hUnit hSame, rfl⟩
  · exact absurd hSame (hSecond.lt_of_exponent hFirst hMore).ne'

namespace RoundsTo

variable {p q : Rat}
variable {m n : Nat}
variable {e f : Int}

/- The next larger exponent begins where the interval below ends. -/
theorem lt_of_exponent_lt
    (hFirst : RoundsTo p m e)
    (hSecond : RoundsTo q n f)
    (hExponent : e < f) :
    p < q := by
  rcases hFirst.exists_units with ⟨y, rfl, ⟨hBelow, hBelowOdd⟩⟩
  rcases hSecond.exists_units with ⟨z, rfl, ⟨hAbove, hAboveOdd⟩⟩
  have hUnit : (0 : Rat) < 2 ^ e := zpow_pos (by norm_num) e
  have hRoom := roomBelow_le n f
  have hFits := hFirst.canonical.fits
  have hFull : 2 ^ 52 ≤ n := by
    rcases hSecond.canonical.full with hFull | hLast
    · exact hFull
    · have hLeast := hFirst.canonical.least
      omega
  have hHigh : y < 2 ^ 53 - 1 / 2 := by
    rcases Nat.lt_or_ge m (2 ^ 53 - 1) with hInside | hEdge
    · have hCast : (m : Rat) + 1 ≤ 2 ^ 53 - 1 := by
        rw [le_sub_iff_add_le]
        exact_mod_cast (by omega : m + 1 + 1 ≤ 2 ^ 53)
      linarith
    · have hLast : m = 2 ^ 53 - 1 := by omega
      have hStrict := (hBelowOdd (by rw [hLast]; decide)).2
      have hCast : (m : Rat) = 2 ^ 53 - 1 := by
        rw [hLast]
        norm_num
      linarith
  have hLow : (2 : Rat) ^ 52 - 1 / 4 ≤ z := by
    rcases Nat.lt_or_ge (2 ^ 52) n with hInside | hEdge
    · have hCast : (2 : Rat) ^ 52 + 1 ≤ n := by exact_mod_cast hInside
      linarith
    · have hFirstOne : n = 2 ^ 52 := by omega
      have hQuarter : roomBelow n f = 1 / 4 := by
        have hLeast := hFirst.canonical.least
        rw [roomBelow, if_pos ⟨hFirstOne, by omega⟩]
      have hCast : (n : Rat) = 2 ^ 52 := by
        rw [hFirstOne]
        norm_num
      linarith
  have hPower : 2 * (2 : Rat) ^ e ≤ 2 ^ f := by
    rw [← zpow_one_add₀ (by norm_num)]
    exact zpow_le_zpow_right₀ (by norm_num) (by omega)
  calc y * 2 ^ e < (2 ^ 53 - 1 / 2) * 2 ^ e :=
        mul_lt_mul_of_pos_right hHigh hUnit
    _ = (2 ^ 52 - 1 / 4) * (2 * 2 ^ e) := by ring
    _ ≤ z * 2 ^ f :=
        mul_le_mul hLow hPower (by positivity) (by linarith)

/- Between neighbours the end in common belongs to the even one. -/
theorem lt_of_mantissa_lt
    (hFirst : RoundsTo p m e)
    (hSecond : RoundsTo q n e)
    (hLess : m < n) :
    p < q := by
  rcases hFirst.exists_units with ⟨y, rfl, ⟨hBelow, hBelowOdd⟩⟩
  rcases hSecond.exists_units with ⟨z, rfl, ⟨hAbove, hAboveOdd⟩⟩
  have hRoom := roomBelow_le n e
  have hUnder : y < z := by
    rcases Nat.lt_or_ge (m + 1) n with hInside | hEdge
    · have hCast : (m : Rat) + 2 ≤ n := by exact_mod_cast hInside
      linarith
    · have hNext : n = m + 1 := by omega
      have hCast : (n : Rat) = m + 1 := by exact_mod_cast hNext
      rcases Nat.mod_two_eq_zero_or_one m with hEven | hOdd
      · have hStrict := (hAboveOdd (by omega)).1
        linarith
      · have hStrict := (hBelowOdd hOdd).2
        linarith
  exact mul_lt_mul_of_pos_right hUnder (zpow_pos (by norm_num) e)

/-
  The intervals of two numbers are apart. Where they have an
  end in common, it belongs to the even one only.
-/
theorem lt_of_lt
    (hFirst : RoundsTo p m e)
    (hSecond : RoundsTo q n f)
    (hLess : (m : Rat) * 2 ^ e < n * 2 ^ f) :
    p < q := by
  rcases lt_trichotomy e f with hExponent | rfl | hExponent
  · exact hFirst.lt_of_exponent_lt hSecond hExponent
  · have hUnit : (0 : Rat) < 2 ^ e := zpow_pos (by norm_num) e
    apply hFirst.lt_of_mantissa_lt hSecond
    exact_mod_cast lt_of_mul_lt_mul_right hLess hUnit.le
  · have hMore :=
      hSecond.canonical.lt_of_exponent hFirst.canonical hExponent
    exact absurd hLess (not_lt.mpr hMore.le)

/- A number lies in one interval only. -/
theorem unique
    (hFirst : RoundsTo q m e)
    (hSecond : RoundsTo q n f) :
    m = n ∧ e = f := by
  apply hFirst.canonical.eq_of_value hSecond.canonical
  rcases lt_trichotomy ((m : Rat) * 2 ^ e) (n * 2 ^ f) with
    hLess | hSame | hMore
  · exact absurd (hFirst.lt_of_lt hSecond hLess) (lt_irrefl q)
  · exact hSame
  · exact absurd (hSecond.lt_of_lt hFirst hMore) (lt_irrefl q)

end RoundsTo

------------------------------------------------------------
-- Rounding Finds The Interval
------------------------------------------------------------

theorem isNearest_of_inside
    {n : Nat}
    {y : Rat}
    (hInside : n - 1 / 2 < y ∧ y < n + 1 / 2) :
    IsNearest n (1 / 2) y :=
  ⟨⟨hInside.1.le, hInside.2.le⟩, fun _ => hInside⟩

/-
  The rounded mantissa is nearest to what is held. If it is
  the mantissa itself, what is held does not lie below it.
-/
theorem roundedMantissa_spec
    {em : ExtendedMantissa}
    {y : Rat}
    (hHolds : Holds em y) :
    IsNearest em.roundedMantissa (1 / 2) y ∧
      (em.roundedMantissa = em.mantissa ∧ em.mantissa ≤ y ∨
        em.roundedMantissa = em.mantissa + 1) := by
  have hBounds := hHolds.bounds
  rcases em with ⟨m, r, s⟩
  cases r <;> cases s <;>
    simp only [Holds, ExtendedMantissa.roundedMantissa,
      ExtendedMantissa.accuracy, Accuracy.roundToNearestEven]
      at hHolds hBounds ⊢
  · exact ⟨isNearest_of_inside ⟨by linarith, by linarith⟩,
      Or.inl ⟨trivial, hBounds.1⟩⟩
  · exact ⟨isNearest_of_inside ⟨by linarith, by linarith⟩,
      Or.inl ⟨trivial, hBounds.1⟩⟩
  · rcases Nat.mod_two_eq_zero_or_one m with hEven | hOdd
    · rw [hEven, add_zero]
      exact ⟨⟨⟨by linarith, by linarith⟩, fun hOdd => by omega⟩,
        Or.inl ⟨rfl, hBounds.1⟩⟩
    · rw [hOdd]
      refine ⟨⟨?_, fun hOdd => by omega⟩, Or.inr rfl⟩
      push_cast
      exact ⟨by linarith, by linarith⟩
  · refine ⟨isNearest_of_inside ?_, Or.inr trivial⟩
    push_cast
    exact ⟨by linarith, by linarith⟩

/- Rounding gives the parts whose interval holds what was rounded. -/
theorem roundWithAccuracy_roundsTo
    (s : Sign)
    {m : Nat}
    {e : Int}
    {acc : Accuracy}
    {x : Rat}
    (hHolds : Holds (ExtendedMantissa.ofMantissaAndAccuracy m acc) x)
    (hFits : e ≤ lastPlace m e) :
    ∃ m' e', RoundsTo (x * 2 ^ e) m' e' ∧
      roundWithAccuracy Format.binary64 s m e acc = ofParts s m' e' := by
  rcases roundWithAccuracy_cases s hHolds hFits with
    ⟨em, y, hHeld, hScale, hFull, hCases⟩
  have hLeast : -1074 ≤ lastPlace m e := le_max_right _ _
  rcases roundedMantissa_spec hHeld with ⟨hNearest, hMantissa⟩
  rw [hScale]
  rcases hCases with ⟨hShort, hRound⟩ | ⟨hOver, hRound⟩
  · refine ⟨_, _, ⟨⟨hShort, hLeast, ?_⟩, ?_⟩, hRound⟩
    · rcases hFull with hFull | hLast
      · exact Or.inl (hFull.trans (roundedMantissa_bounds em).1)
      · exact Or.inr hLast
    · rw [holds_iff, roomBelow]
      by_cases hPower :
          em.roundedMantissa = 2 ^ 52 ∧ -1074 < lastPlace m e
      · -- nothing below the least mantissa is rounded up to it
        have hOnto : (em.roundedMantissa : Rat) ≤ y := by
          rcases hMantissa with ⟨hSame, hBelow⟩ | hNext
          · rwa [hSame]
          · omega
        rw [if_pos hPower]
        exact ⟨⟨by linarith, hNearest.1.2⟩, fun hOdd => by omega⟩
      · rw [if_neg hPower]
        exact hNearest
  · refine ⟨_, _, ⟨⟨by norm_num, by omega, Or.inl le_rfl⟩, ?_⟩, hRound⟩
    have hHalf :
        y * (2 : Rat) ^ lastPlace m e =
          y / 2 * 2 ^ (lastPlace m e + 1) := by
      rw [zpow_add_one₀ (by norm_num)]
      ring
    have hCast : (em.roundedMantissa : Rat) = 2 ^ 53 := by
      exact_mod_cast hOver
    have hPower : 2 ^ 52 = 2 ^ 52 ∧ -1074 < lastPlace m e + 1 :=
      ⟨rfl, by omega⟩
    have hNear := hNearest.1
    rw [hCast] at hNear
    rw [hHalf, holds_iff, roomBelow, if_pos hPower]
    refine ⟨?_, fun hOdd => by omega⟩
    push_cast
    constructor <;> linarith

------------------------------------------------------------
-- The Nearest Double
------------------------------------------------------------

/- A quotient of whole numbers is divided and rounded with its sign. -/
theorem nearestQuotient_eq
    (s : Sign)
    {m₁ m₂ : Nat}
    (hPos₁ : 0 < m₁)
    (hPos₂ : 0 < m₂) :
    Decimal.nearestQuotient s m₁ m₂ hPos₁ hPos₂ =
      .ofModel
        (Float.Model.pack
          (roundWithAccuracy Format.binary64 (s / .positive)
            (divCore Format.binary64 m₁ 0 m₂ 0).1
            (divCore Format.binary64 m₁ 0 m₂ 0).2.1
            (divCore Format.binary64 m₁ 0 m₂ 0).2.2)) :=
  rfl

/-
  The double nearest to a number has the parts that its
  magnitude rounds to. Parts that are too large make an
  infinity when they are packed.
-/
theorem nearestDouble_parts
    {q : Rat}
    (hSome : q ≠ 0) :
    ∃ m e, RoundsTo |q| m e ∧
      Decimal.nearestDouble q =
        .ofModel
          (Float.Model.pack
            (ofParts (if q < 0 then .negative else .positive) m e)) := by
  have hNum : 0 < q.num.natAbs :=
    Int.natAbs_pos.mpr (Rat.num_ne_zero.mpr hSome)
  rcases divCore_holds 0 0 hNum q.den_pos with
    ⟨m, e, acc, x, hCore, hHolds, hFits, hExact⟩
  rw [quotient_of_parts] at hExact
  rcases roundWithAccuracy_roundsTo
      (if q < 0 then .negative else .positive) hHolds hFits with
    ⟨m', e', hRounds, hRound⟩
  rw [hExact] at hRounds
  have hSign :
      ∀ s : Sign, s / .positive = s := by
    intro s
    cases s <;> rfl
  refine ⟨m', e', hRounds, ?_⟩
  rw [Decimal.nearestDouble, dif_pos hNum, nearestQuotient_eq, hCore, hSign]
  simp only [Rat.num_neg, hRound]

/-
  The least magnitude that is too large for every double: it
  is half way between the largest double and the one that
  would come next.
-/
def rangeEnd : Rat :=
  2 ^ 1024 - 2 ^ 970

/- What rounds to parts that are too large is out of range. -/
theorem RoundsTo.rangeEnd_le
    {q : Rat}
    {m : Nat}
    {e : Int}
    (hRounds : RoundsTo q m e)
    (hOver : 971 < e) :
    rangeEnd ≤ q := by
  rcases hRounds.exists_units with ⟨y, rfl, ⟨hBelow, -⟩, -⟩
  have hFull : 2 ^ 52 ≤ m := by
    rcases hRounds.canonical.full with hFull | hLast
    · exact hFull
    · omega
  have hLow : (2 : Rat) ^ 52 - 1 / 4 ≤ y := by
    rcases Nat.lt_or_ge (2 ^ 52) m with hInside | hEdge
    · have hCast : (2 : Rat) ^ 52 + 1 ≤ m := by exact_mod_cast hInside
      linarith [roomBelow_le m e]
    · have hFirstOne : m = 2 ^ 52 := by omega
      have hQuarter : roomBelow m e = 1 / 4 := by
        rw [roomBelow, if_pos ⟨hFirstOne, by omega⟩]
      have hCast : (m : Rat) = 2 ^ 52 := by
        rw [hFirstOne]
        norm_num
      linarith
  have hPower : (2 : Rat) ^ 972 ≤ 2 ^ e := by
    rw [← zpow_natCast]
    exact zpow_le_zpow_right₀ (by norm_num) (by omega)
  have hTop : (2 : Rat) ^ 1024 = 2 ^ 52 * 2 ^ 972 := pow_add 2 52 972
  have hStep : (2 : Rat) ^ 972 = 4 * 2 ^ 970 := by
    rw [show (4 : Rat) = 2 ^ 2 by norm_num]
    exact pow_add 2 2 970
  calc rangeEnd = (2 ^ 52 - 1 / 4) * 2 ^ 972 := by
        rw [rangeEnd, hTop, hStep]
        generalize (2 : Rat) ^ 970 = step
        ring
    _ ≤ y * 2 ^ e :=
        mul_le_mul hLow hPower (by positivity) (by linarith)

/- A number in range has a finite nearest double. -/
theorem nearestDouble_finite
    {q : Rat}
    (hRange : |q| < rangeEnd) :
    ∃ r, Decimal.exactValue? (Decimal.nearestDouble q) = some r := by
  by_cases hSome : q = 0
  · subst hSome
    exact (nearestDouble_rounds 0).finite (by rw [abs_zero]; positivity)
  · rcases nearestDouble_parts hSome with ⟨m, e, hRounds, hNearest⟩
    have hFits : e ≤ 971 := by
      by_contra hOver
      have hEnd := hRounds.rangeEnd_le (by omega)
      linarith
    rw [hNearest, exactValue?_eq,
      unpack_pack _ hRounds.canonical hFits, valueOf?_ofParts]
    exact ⟨_, rfl⟩

end Double

end Joinery
