import Mathlib.Algebra.Order.Field.Rat
import Mathlib.Data.Rat.Cast.Order
import Mathlib.Tactic.GCongr
import Mathlib.Tactic.Linarith
import Mathlib.Tactic.NormNum
import Mathlib.Tactic.Positivity
import Mathlib.Tactic.Ring

/-
  A mantissa with two residual bits says where a magnitude
  lies between two neighbouring mantissas. Dropping bits
  keeps this, so that rounding once at the end goes to a
  neighbour that is no more than half a unit away.

  Key definitions include:
    * `Double.Holds`
    * `Double.IsCanonical`
    * `Double.Near`

  Key theorems include:
    * `Double.Holds.shift`
    * `Double.roundedMantissa_close`
    * `Double.roundWithAccuracy_cases`
    * `Double.roundWithAccuracy_near`
-/

namespace Joinery

namespace Double

open Float.Model Float.Model.UnpackedFloat

------------------------------------------------------------
-- Residual Bits
------------------------------------------------------------

/-
  A magnitude, in units of the last place of a mantissa, is
  where the residual bits say that it is: on the mantissa,
  below the middle to the next one, in the middle, or above.
-/
def Holds
    (em : ExtendedMantissa)
    (x : Rat) : Prop :=
  match em.roundBit, em.stickyBit with
  | false, false => x = em.mantissa
  | false, true => em.mantissa < x ∧ x < em.mantissa + 1 / 2
  | true, false => x = em.mantissa + 1 / 2
  | true, true => em.mantissa + 1 / 2 < x ∧ x < em.mantissa + 1

/- What is held lies between the mantissa and the next one. -/
theorem Holds.bounds
    {em : ExtendedMantissa}
    {x : Rat}
    (hHolds : Holds em x) :
    em.mantissa ≤ x ∧ x < em.mantissa + 1 := by
  rcases em with ⟨m, r, s⟩
  cases r <;> cases s <;> simp only [Holds] at hHolds ⊢ <;>
    constructor <;> linarith

/- Dropping the last bit halves what is held. -/
theorem Holds.shiftRightOne
    {em : ExtendedMantissa}
    {x : Rat}
    (hHolds : Holds em x) :
    Holds em.shiftRightOne (x / 2) := by
  rcases em with ⟨m, r, s⟩
  rcases Nat.even_or_odd' m with ⟨k, hEven | hOdd⟩
  · have hHalf : m / 2 = k := by omega
    have hBit : (m % 2 != 0) = false := by
      simp only [bne_eq_false_iff_eq]
      omega
    have hCast : (m : Rat) = 2 * k := by exact_mod_cast hEven
    cases r <;> cases s <;>
      simp only [Holds, ExtendedMantissa.shiftRightOne, hHalf, hBit,
        Bool.or_false, Bool.or_true, Bool.or_self] at hHolds ⊢ <;>
      first
        | linarith
        | (constructor <;> linarith)
  · have hHalf : m / 2 = k := by omega
    have hBit : (m % 2 != 0) = true := by
      simp only [bne_iff_ne, ne_eq]
      omega
    have hCast : (m : Rat) = 2 * k + 1 := by exact_mod_cast hOdd
    cases r <;> cases s <;>
      simp only [Holds, ExtendedMantissa.shiftRightOne, hHalf, hBit,
        Bool.or_false, Bool.or_true, Bool.or_self] at hHolds ⊢ <;>
      first
        | linarith
        | (constructor <;> linarith)

theorem shift_succ
    (em : ExtendedMantissa)
    (n : Nat) :
    em >>> (n + 1) = (em >>> n).shiftRightOne := rfl

/- Dropping bits divides what is held by a power of two. -/
theorem Holds.shift
    {em : ExtendedMantissa}
    {x : Rat}
    (hHolds : Holds em x)
    (n : Nat) :
    Holds (em >>> n) (x / 2 ^ n) := by
  induction n with
  | zero =>
      rw [pow_zero, div_one]
      exact hHolds
  | succ n ih =>
      rw [shift_succ, pow_succ, ← div_div]
      exact ih.shiftRightOne

/- Rounding goes no farther than half a unit. -/
theorem roundedMantissa_close
    {em : ExtendedMantissa}
    {x : Rat}
    (hHolds : Holds em x) :
    |(em.roundedMantissa : Rat) - x| ≤ 1 / 2 := by
  rcases em with ⟨m, r, s⟩
  rw [abs_le]
  cases r <;> cases s <;>
    simp only [Holds, ExtendedMantissa.roundedMantissa,
      ExtendedMantissa.accuracy, Accuracy.roundToNearestEven]
      at hHolds ⊢
  · constructor <;> linarith
  · constructor <;> linarith
  · rcases Nat.mod_two_eq_zero_or_one m with hMod | hMod
    · rw [hMod]
      push_cast
      constructor <;> linarith
    · rw [hMod]
      push_cast
      constructor <;> linarith
  · push_cast
    constructor <;> linarith

theorem roundedMantissa_bounds
    (em : ExtendedMantissa) :
    em.mantissa ≤ em.roundedMantissa ∧
      em.roundedMantissa ≤ em.mantissa + 1 := by
  rcases em with ⟨m, r, s⟩
  cases r <;> cases s <;>
    simp only [ExtendedMantissa.roundedMantissa,
      ExtendedMantissa.accuracy, Accuracy.roundToNearestEven] <;>
    omega

theorem shift_mantissa
    (em : ExtendedMantissa)
    (n : Nat) :
    (em >>> n).mantissa = em.mantissa / 2 ^ n := by
  induction n with
  | zero => exact (Nat.div_one _).symm
  | succ n ih =>
      rw [shift_succ, pow_succ, ← Nat.div_div_eq_div_mul, ← ih]
      rfl

------------------------------------------------------------
-- Canonical Parts
------------------------------------------------------------

/-
  The significand and the exponent that a finite double is
  stored with: all 53 bits are used, except at the least
  exponent.
-/
structure IsCanonical
    (m : Nat)
    (e : Int) : Prop where
  fits : m < 2 ^ 53
  least : -1074 ≤ e
  full : 2 ^ 52 ≤ m ∨ e = -1074

/- The exponent of the last of 53 places, but not below the least one. -/
def lastPlace
    (m : Nat)
    (e : Int) : Int :=
  max (m.log2 + e - 52) (-1074)

/- The target of rounding leaves 53 places, down to the least one. -/
theorem targetExponent_binary64
    (z : Int) :
    Format.binary64.targetExponent z = max (z - 53) (-1074) := rfl

theorem targetExponent_eq
    (m : Nat)
    (e : Int) :
    Format.binary64.targetExponent (totalExponent m e) =
      lastPlace m e := by
  rw [targetExponent_binary64, totalExponent, lastPlace]
  omega

/- A number with a sign, from its parts. -/
def ofParts
    (s : Sign)
    (m : Nat)
    (e : Int) : UnpackedFloat :=
  if h : m = 0 then .zero s
  else .finite s m e (Nat.pos_of_ne_zero h)

theorem ofParts_of_pos
    (s : Sign)
    {m : Nat}
    (hPos : 0 < m)
    (e : Int) :
    ofParts s m e = .finite s m e hPos :=
  dif_neg (Nat.pos_iff_ne_zero.mp hPos)

theorem IsCanonical.log2_le
    {m : Nat}
    {e : Int}
    (hCanonical : IsCanonical m e) :
    m.log2 ≤ 52 := by
  rcases Nat.eq_zero_or_pos m with hZero | hPos
  · simp [hZero]
  · have hLess :=
      (Nat.log2_lt (Nat.pos_iff_ne_zero.mp hPos)).mpr hCanonical.fits
    omega

/- Parts that are canonical already are not shifted. -/
theorem shift_canonical
    {m : Nat}
    {e : Int}
    (hCanonical : IsCanonical m e) :
    shiftToTargetExponent Format.binary64 m e .exact =
      (⟨m, false, false⟩, e) := by
  have hLast : lastPlace m e - e ≤ 0 := by
    have hLog := hCanonical.log2_le
    have hLeast := hCanonical.least
    simp only [lastPlace]
    omega
  have hNone : (lastPlace m e - e).toNat = 0 := by omega
  simp only [shiftToTargetExponent, shiftToExponent, targetExponent_eq,
    hNone, Nat.cast_zero, add_zero]
  rfl

/- A significand that rounding made one bit too long loses its last bit. -/
theorem shift_overflow
    {e : Int}
    (hLeast : -1074 ≤ e) :
    shiftToTargetExponent Format.binary64 (2 ^ 53) e .exact =
      (⟨2 ^ 52, false, false⟩, e + 1) := by
  have hLast : lastPlace (2 ^ 53) e = e + 1 := by
    rw [lastPlace, Nat.log2_two_pow]
    omega
  have hOne : (lastPlace (2 ^ 53) e - e).toNat = 1 := by omega
  simp only [shiftToTargetExponent, shiftToExponent, targetExponent_eq,
    hOne, Nat.cast_one]
  rfl

------------------------------------------------------------
-- Rounding Once
------------------------------------------------------------

theorem ofMantissaAndAccuracy_mantissa
    (m : Nat)
    (acc : Accuracy) :
    (ExtendedMantissa.ofMantissaAndAccuracy m acc).mantissa = m := by
  cases acc with
  | exact => rfl
  | inexact side => cases side <;> rfl

/- The first shift leaves 53 bits, all of them used if there are enough. -/
theorem shifted_bounds
    {m : Nat}
    {e : Int}
    (hFits : e ≤ lastPlace m e) :
    m / 2 ^ (lastPlace m e - e).toNat < 2 ^ 53 ∧
      (2 ^ 52 ≤ m / 2 ^ (lastPlace m e - e).toNat ∨
        lastPlace m e = -1074) := by
  generalize hShift : (lastPlace m e - e).toNat = k
  have hPlace : lastPlace m e = max (m.log2 + e - 52) (-1074) := rfl
  refine ⟨?_, ?_⟩
  · rw [Nat.div_lt_iff_lt_mul (Nat.two_pow_pos k), ← pow_add]
    have hLog : m.log2 + 1 ≤ 53 + k := by omega
    calc m < 2 ^ (m.log2 + 1) := Nat.lt_log2_self
      _ ≤ 2 ^ (53 + k) := Nat.pow_le_pow_right (by decide) hLog
  · rcases le_or_gt (m.log2 + e - 52) (-1074) with hLow | hHigh
    · exact Or.inr (by omega)
    · refine Or.inl ?_
      have hLog : m.log2 = 52 + k := by omega
      have hPos : m ≠ 0 := by
        intro hZero
        subst hZero
        rw [Nat.log2_zero] at hLog
        omega
      rw [Nat.le_div_iff_mul_le (Nat.two_pow_pos k), ← pow_add, ← hLog]
      exact Nat.log2_self_le hPos

/- Rounding shifts to the last place, rounds, and shifts again. -/
theorem roundWithAccuracy_eq
    (s : Sign)
    {m : Nat}
    {e e₁ e₂ : Int}
    {acc : Accuracy}
    {em₁ em₂ : ExtendedMantissa}
    (hFirst :
      shiftToTargetExponent Format.binary64 m e acc = (em₁, e₁))
    (hSecond :
      shiftToTargetExponent Format.binary64 em₁.roundedMantissa e₁ .exact =
        (em₂, e₂)) :
    roundWithAccuracy Format.binary64 s m e acc =
      ofParts s em₂.mantissa e₂ := by
  unfold roundWithAccuracy
  rw [hFirst]
  change
    (match
        shiftToTargetExponent Format.binary64 em₁.roundedMantissa e₁ .exact
      with
      | (em, e) => ofParts s em.mantissa e) = _
  rw [hSecond]

/-
  Rounding shifts what is held to the last place and rounds
  the mantissa there. Where that makes the mantissa one bit
  too long, its last bit is dropped.
-/
theorem roundWithAccuracy_cases
    (s : Sign)
    {m : Nat}
    {e : Int}
    {acc : Accuracy}
    {x : Rat}
    (hHolds : Holds (ExtendedMantissa.ofMantissaAndAccuracy m acc) x)
    (hFits : e ≤ lastPlace m e) :
    ∃ em y, Holds em y ∧ x * 2 ^ e = y * 2 ^ lastPlace m e ∧
      (2 ^ 52 ≤ em.mantissa ∨ lastPlace m e = -1074) ∧
      (em.roundedMantissa < 2 ^ 53 ∧
          roundWithAccuracy Format.binary64 s m e acc =
            ofParts s em.roundedMantissa (lastPlace m e) ∨
        em.roundedMantissa = 2 ^ 53 ∧
          roundWithAccuracy Format.binary64 s m e acc =
            ofParts s (2 ^ 52) (lastPlace m e + 1)) := by
  have hShift :
      shiftToTargetExponent Format.binary64 m e acc =
        (ExtendedMantissa.ofMantissaAndAccuracy m acc >>>
          (lastPlace m e - e).toNat, lastPlace m e) := by
    simp only [shiftToTargetExponent, shiftToExponent, targetExponent_eq,
      Prod.mk.injEq, true_and]
    omega
  have hMantissa :
      (ExtendedMantissa.ofMantissaAndAccuracy m acc >>>
          (lastPlace m e - e).toNat).mantissa =
        m / 2 ^ (lastPlace m e - e).toNat := by
    rw [shift_mantissa, ofMantissaAndAccuracy_mantissa]
  have hBounds := shifted_bounds hFits
  have hHeld := hHolds.shift (lastPlace m e - e).toNat
  have hRounded := roundedMantissa_bounds
    (ExtendedMantissa.ofMantissaAndAccuracy m acc >>>
      (lastPlace m e - e).toNat)
  have hLeast : -1074 ≤ lastPlace m e := le_max_right _ _
  have hScale :
      x * 2 ^ e =
        x / 2 ^ (lastPlace m e - e).toNat * 2 ^ lastPlace m e := by
    have hPower :
        (2 : Rat) ^ lastPlace m e =
          2 ^ (lastPlace m e - e).toNat * 2 ^ e := by
      rw [← zpow_natCast, ← zpow_add₀ (by norm_num)]
      congr 1
      omega
    rw [hPower, ← mul_assoc, div_mul_cancel₀ _ (by positivity)]
  rw [← hMantissa] at hBounds
  generalize
    (ExtendedMantissa.ofMantissaAndAccuracy m acc >>>
      (lastPlace m e - e).toNat) = em at hShift hBounds hHeld hRounded
  refine ⟨em, _, hHeld, hScale, hBounds.2, ?_⟩
  rcases Nat.lt_or_ge em.roundedMantissa (2 ^ 53) with hShort | hLong
  · have hCanonical : IsCanonical em.roundedMantissa (lastPlace m e) := by
      refine ⟨hShort, hLeast, ?_⟩
      rcases hBounds.2 with hFull | hLast
      · exact Or.inl (hFull.trans hRounded.1)
      · exact Or.inr hLast
    exact Or.inl ⟨hShort,
      roundWithAccuracy_eq s hShift (shift_canonical hCanonical)⟩
  · have hOver : em.roundedMantissa = 2 ^ 53 := by omega
    have hAgain := shift_overflow hLeast
    rw [← hOver] at hAgain
    exact Or.inr ⟨hOver, roundWithAccuracy_eq s hShift hAgain⟩

/-
  Rounding gives canonical parts. They are no farther than
  half a unit of the last place from what was rounded.
-/
theorem roundWithAccuracy_parts
    (s : Sign)
    {m : Nat}
    {e : Int}
    {acc : Accuracy}
    {x : Rat}
    (hHolds : Holds (ExtendedMantissa.ofMantissaAndAccuracy m acc) x)
    (hFits : e ≤ lastPlace m e) :
    ∃ m' e', IsCanonical m' e' ∧
      roundWithAccuracy Format.binary64 s m e acc = ofParts s m' e' ∧
      |(m' : Rat) * 2 ^ e' - x * 2 ^ e| ≤ 2 ^ lastPlace m e / 2 := by
  rcases roundWithAccuracy_cases s hHolds hFits with
    ⟨em, y, hHeld, hScale, hFull, hCases⟩
  have hUnit : (0 : Rat) < 2 ^ lastPlace m e := zpow_pos (by norm_num) _
  have hLeast : -1074 ≤ lastPlace m e := le_max_right _ _
  have hDistance :
      |(em.roundedMantissa : Rat) * 2 ^ lastPlace m e - x * 2 ^ e| ≤
        2 ^ lastPlace m e / 2 := by
    rw [hScale, ← sub_mul, abs_mul, abs_of_pos hUnit]
    calc |(em.roundedMantissa : Rat) - y| * 2 ^ lastPlace m e
        ≤ 1 / 2 * 2 ^ lastPlace m e :=
          mul_le_mul_of_nonneg_right (roundedMantissa_close hHeld)
            hUnit.le
      _ = 2 ^ lastPlace m e / 2 := by ring
  rcases hCases with ⟨hShort, hRound⟩ | ⟨hOver, hRound⟩
  · refine ⟨_, _, ⟨hShort, hLeast, ?_⟩, hRound, hDistance⟩
    rcases hFull with hFull | hLast
    · exact Or.inl (hFull.trans (roundedMantissa_bounds em).1)
    · exact Or.inr hLast
  · refine ⟨_, _, ⟨by norm_num, by omega, Or.inl le_rfl⟩, hRound, ?_⟩
    rw [hOver] at hDistance
    rw [zpow_add₀ (by norm_num)]
    push_cast at hDistance ⊢
    convert hDistance using 2
    ring

/- Half of the least positive double. -/
def halfLeast : Rat :=
  1 / 2 ^ 1075

theorem halfLeast_pos :
    0 < halfLeast :=
  one_div_pos.mpr (pow_pos (by norm_num) _)

theorem least_eq :
    (2 : Rat) ^ (-1074 : Int) = 2 * halfLeast := by
  have hSucc : (2 : Rat) ^ 1075 = 2 ^ 1074 * 2 := pow_succ 2 1074
  rw [halfLeast, hSucc, zpow_neg, ← one_div, ← one_div_mul_one_div,
    mul_comm, mul_assoc, one_div_mul_cancel (by norm_num), mul_one]
  rfl

/-
  A number is near another one when it is no farther than
  rounding to a double can go: one part in `2 ^ 53`, or half
  of the least double.
-/
def Near
    (r v : Rat) : Prop :=
  |r - v| ≤ |v| / 2 ^ 53 + halfLeast

theorem Near.refl
    (v : Rat) :
    Near v v := by
  rw [Near, sub_self, abs_zero]
  have hHalf := halfLeast_pos
  positivity

theorem Near.neg
    {r v : Rat}
    (hNear : Near r v) :
    Near (-r) (-v) := by
  rw [Near, ← neg_sub', abs_neg, abs_neg]
  exact hNear

/- The last place is small next to what is rounded. -/
theorem lastPlace_small
    {m : Nat}
    {e : Int}
    {x : Rat}
    (hBelow : m ≤ x)
    (hFits : e ≤ lastPlace m e) :
    (2 : Rat) ^ lastPlace m e ≤ x * 2 ^ e / 2 ^ 52 + 2 * halfLeast := by
  have hPos : 0 ≤ x := le_trans (Nat.cast_nonneg m) hBelow
  have hUnit : (0 : Rat) < 2 ^ e := zpow_pos (by norm_num) e
  have hHalf := halfLeast_pos
  rcases le_or_gt (m.log2 + e - 52) (-1074) with hLow | hHigh
  · have hPlace : lastPlace m e = -1074 := max_eq_right hLow
    rw [hPlace, least_eq]
    exact le_add_of_nonneg_left (by positivity)
  · have hPlace : lastPlace m e = m.log2 + e - 52 := max_eq_left hHigh.le
    have hSome : m ≠ 0 := by
      intro hZero
      subst hZero
      rw [Nat.log2_zero] at hHigh hPlace
      omega
    have hPower : (2 : Rat) ^ m.log2 ≤ x := by
      refine le_trans ?_ hBelow
      exact_mod_cast Nat.log2_self_le hSome
    have hPlain :
        (2 : Rat) ^ lastPlace m e = 2 ^ m.log2 * 2 ^ e / 2 ^ 52 := by
      rw [hPlace, zpow_sub₀ (by norm_num), zpow_add₀ (by norm_num),
        zpow_natCast]
      norm_cast
    calc (2 : Rat) ^ lastPlace m e
        = 2 ^ m.log2 * 2 ^ e / 2 ^ 52 := hPlain
      _ ≤ x * 2 ^ e / 2 ^ 52 := by gcongr
      _ ≤ x * 2 ^ e / 2 ^ 52 + 2 * halfLeast :=
          le_add_of_nonneg_right (by positivity)

/- Rounding gives canonical parts of a number that is near. -/
theorem roundWithAccuracy_near
    (s : Sign)
    {m : Nat}
    {e : Int}
    {acc : Accuracy}
    {x : Rat}
    (hHolds : Holds (ExtendedMantissa.ofMantissaAndAccuracy m acc) x)
    (hFits : e ≤ lastPlace m e) :
    ∃ m' e', IsCanonical m' e' ∧
      roundWithAccuracy Format.binary64 s m e acc = ofParts s m' e' ∧
      Near (m' * 2 ^ e') (x * 2 ^ e) := by
  rcases roundWithAccuracy_parts s hHolds hFits with
    ⟨m', e', hCanonical, hRound, hClose⟩
  refine ⟨m', e', hCanonical, hRound, ?_⟩
  have hBelow : m ≤ x := by
    have hBounds := hHolds.bounds.1
    rwa [ofMantissaAndAccuracy_mantissa] at hBounds
  have hPos : 0 ≤ x := le_trans (Nat.cast_nonneg m) hBelow
  have hUnit : (0 : Rat) < 2 ^ e := zpow_pos (by norm_num) e
  have hScaled : 0 ≤ x * 2 ^ e := mul_nonneg hPos hUnit.le
  have hSmall := lastPlace_small hBelow hFits
  rw [Near, abs_of_nonneg hScaled]
  refine hClose.trans ?_
  linarith

end Double

end Joinery
