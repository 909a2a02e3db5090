import Mathlib.Tactic.FieldSimp
import Joinery.Proofs.Double.Packing

/-
  The operations on doubles give a double near the exact
  result, as long as the exact result is in range.

  Key definitions include:
    * `Double.Rounds`

  Key theorems include:
    * `Double.mul_rounds`
    * `Double.div_rounds`
    * `Double.add_rounds`
    * `Double.sub_rounds`
    * `Double.nearestDouble_rounds`
    * `Double.exactValue?_neg`
-/

namespace Joinery

namespace Double

open Float.Model Float.Model.UnpackedFloat

------------------------------------------------------------
-- Results In Range
------------------------------------------------------------

/-
  A double is a rounding of a number: it is near the number
  if it is finite, and finite if the number is in range.
-/
structure Rounds
    (x : Float)
    (v : Rat) : Prop where
  near : ∀ r, Decimal.exactValue? x = some r → Near r v
  finite : |v| < 2 ^ 1023 → ∃ r, Decimal.exactValue? x = some r

/- A number in range has a rounding near it. -/
theorem Rounds.exists_near
    {x : Float}
    {v : Rat}
    (hRounds : Rounds x v)
    (hRange : |v| < 2 ^ 1023) :
    ∃ r, Decimal.exactValue? x = some r ∧ Near r v := by
  rcases hRounds.finite hRange with ⟨r, hValue⟩
  exact ⟨r, hValue, hRounds.near r hValue⟩

theorem near_signed
    (s : Sign)
    {r v : Rat}
    (hNear : Near r v) :
    Near (signed s r) (signed s v) := by
  cases s with
  | negative => exact hNear.neg
  | positive => exact hNear

/- Canonical parts beyond the range are far from numbers in range. -/
theorem overflow_far
    {m : Nat}
    {e : Int}
    {v : Rat}
    (hCanonical : IsCanonical m e)
    (hOver : 971 < e)
    (hNear : Near (m * 2 ^ e) v) :
    2 ^ 1023 ≤ |v| := by
  have hFull : 2 ^ 52 ≤ m := by
    rcases hCanonical.full with hFull | hLast
    · exact hFull
    · omega
  have hLarge : (2 : Rat) ^ 1023 * 2 ≤ m * 2 ^ e := by
    have hMantissa : ((2 : Rat) ^ 52) ≤ m := by exact_mod_cast hFull
    have hPower : (2 : Rat) ^ (972 : Int) ≤ 2 ^ e :=
      zpow_le_zpow_right₀ (by norm_num) (by omega)
    have hSplit : (2 : Rat) ^ 1023 * 2 = 2 ^ 52 * 2 ^ (972 : Int) := by
      rw [← pow_succ, ← zpow_natCast, ← zpow_natCast,
        ← zpow_add₀ (by norm_num)]
      norm_num
    rw [hSplit]
    exact mul_le_mul hMantissa hPower (zpow_pos (by norm_num) _).le
      (Nat.cast_nonneg m)
  have hTwo : (2 : Rat) ^ 1 ≤ 2 ^ 1023 :=
    pow_le_pow_right₀ (by norm_num) (by norm_num)
  have hHalf : halfLeast ≤ 1 := by
    rw [halfLeast, one_div]
    exact inv_le_one_of_one_le₀ (one_le_pow₀ (by norm_num))
  have hUpper : (m : Rat) * 2 ^ e ≤ |v| + (|v| / 2 ^ 53 + halfLeast) := by
    have hAbs := (abs_le.mp hNear).2
    have hSelf := le_abs_self v
    linarith
  generalize (2 : Rat) ^ 1023 = limit at *
  generalize (m : Rat) * 2 ^ e = size at *
  linarith

/- A number with a value is a zero or a number with parts. -/
theorem finite_of_valueOf?
    {u : UnpackedFloat}
    {q : Rat}
    (hValue : valueOf? u = some q) :
    (∃ s, u = .zero s ∧ q = 0) ∨
      ∃ s m e hPos, u = .finite s m e hPos ∧ q = signed s (m * 2 ^ e) := by
  cases u with
  | notANumber => cases hValue
  | infinity s => cases hValue
  | zero s =>
      cases hValue
      exact Or.inl ⟨s, rfl, rfl⟩
  | finite s m e hPos =>
      cases hValue
      exact Or.inr ⟨s, m, e, hPos, rfl, rfl⟩

/- A finite double is a rounding of its own value. -/
theorem rounds_of_exact
    {x : Float}
    {q : Rat}
    (hValue : Decimal.exactValue? x = some q) :
    Rounds x q := by
  refine ⟨fun r hSome => ?_, fun _ => ⟨q, hValue⟩⟩
  rw [hValue] at hSome
  cases hSome
  exact Near.refl q

/- A zero is a rounding of zero. -/
theorem zero_rounds
    (s : Sign) :
    Rounds (.ofModel (Float.Model.pack (.zero s))) 0 := by
  apply rounds_of_exact
  rw [exactValue?_eq, unpack_pack_zero]
  rfl

/- Rounding an exact magnitude and packing it rounds the number. -/
theorem pack_rounds
    (s : Sign)
    {m : Nat}
    {e : Int}
    {acc : Accuracy}
    {x : Rat}
    (hHolds : Holds (ExtendedMantissa.ofMantissaAndAccuracy m acc) x)
    (hFits : e ≤ lastPlace m e) :
    Rounds
      (.ofModel
        (Float.Model.pack (roundWithAccuracy Format.binary64 s m e acc)))
      (signed s (x * 2 ^ e)) := by
  rcases roundWithAccuracy_near s hHolds hFits with
    ⟨m', e', hCanonical, hRound, hNear⟩
  have hValue :
      Decimal.exactValue?
          (.ofModel
            (Float.Model.pack
              (roundWithAccuracy Format.binary64 s m e acc))) =
        valueOf? (Float.Model.pack (ofParts s m' e')).unpack := by
    rw [exactValue?_eq, hRound]
  rcases le_or_gt e' 971 with hRange | hOver
  · rw [unpack_pack s hCanonical hRange, valueOf?_ofParts] at hValue
    refine ⟨fun r hSome => ?_, fun _ => ⟨_, hValue⟩⟩
    rw [hValue] at hSome
    cases hSome
    exact near_signed s hNear
  · have hPos : 0 < m' := by
      rcases hCanonical.full with hFull | hLast <;> omega
    rw [unpack_pack_overflow s hPos hOver] at hValue
    refine ⟨fun r hSome => ?_, fun hRange => ?_⟩
    · rw [hValue] at hSome
      cases hSome
    · have hFar := overflow_far hCanonical hOver hNear
      rw [abs_signed] at hRange
      exact absurd hRange (not_lt.mpr hFar)

------------------------------------------------------------
-- Products
------------------------------------------------------------

theorem signed_mul
    (s t : Sign)
    (p q : Rat) :
    signed (s * t) (p * q) = signed s p * signed t q := by
  cases s with
  | negative =>
      cases t with
      | negative => exact (neg_mul_neg p q).symm
      | positive => exact (neg_mul p q).symm
  | positive =>
      cases t with
      | negative => exact (mul_neg p q).symm
      | positive => rfl

theorem holds_exact
    (m : Nat) :
    Holds (ExtendedMantissa.ofMantissaAndAccuracy m .exact) m := rfl

/- The product of two significands has enough bits. -/
theorem product_fits
    {m₁ m₂ : Nat}
    {e₁ e₂ : Int}
    (hPos₁ : 0 < m₁)
    (hPos₂ : 0 < m₂)
    (hFirst : IsCanonical m₁ e₁)
    (hSecond : IsCanonical m₂ e₂) :
    e₁ + e₂ ≤ lastPlace (m₁ * m₂) (e₁ + e₂) := by
  have hLong :
      2 ^ 52 ≤ m₁ * m₂ →
        e₁ + e₂ ≤ lastPlace (m₁ * m₂) (e₁ + e₂) := by
    intro hFull
    have hSome : m₁ * m₂ ≠ 0 := by positivity
    have hLog : 52 ≤ (m₁ * m₂).log2 := (Nat.le_log2 hSome).mpr hFull
    simp only [lastPlace]
    omega
  rcases hFirst.full with hFull | hLast
  · exact hLong (hFull.trans (Nat.le_mul_of_pos_right _ hPos₂))
  · rcases hSecond.full with hFull | hOther
    · exact hLong (hFull.trans (Nat.le_mul_of_pos_left _ hPos₁))
    · simp only [lastPlace]
      omega

/- A product of doubles is a rounding of the exact product. -/
theorem mul_rounds
    {x y : Float}
    {p q : Rat}
    (hFirst : Decimal.exactValue? x = some p)
    (hSecond : Decimal.exactValue? y = some q) :
    Rounds (x * y) (p * q) := by
  have hProduct :
      x * y =
        .ofModel
          (Float.Model.pack
            (UnpackedFloat.mul Format.binary64 x.toModel.unpack
              y.toModel.unpack)) := rfl
  rw [exactValue?_eq] at hFirst hSecond
  rw [hProduct]
  rcases finite_of_valueOf? hFirst with
    ⟨s, hx, rfl⟩ | ⟨s, m₁, e₁, hPos₁, hx, rfl⟩
  · rcases finite_of_valueOf? hSecond with
      ⟨t, hy, rfl⟩ | ⟨t, m₂, e₂, hPos₂, hy, rfl⟩
    · rw [hx, hy, zero_mul]
      exact zero_rounds (s * t)
    · rw [hx, hy, zero_mul]
      exact zero_rounds (s * t)
  · rcases finite_of_valueOf? hSecond with
      ⟨t, hy, rfl⟩ | ⟨t, m₂, e₂, hPos₂, hy, rfl⟩
    · rw [hx, hy, mul_zero]
      exact zero_rounds (s * t)
    · have hFits :=
        product_fits hPos₁ hPos₂ (unpack_canonical hx).1
          (unpack_canonical hy).1
      have hExact :
          ((m₁ * m₂ : Nat) : Rat) * 2 ^ (e₁ + e₂) =
            m₁ * 2 ^ e₁ * (m₂ * 2 ^ e₂) := by
        rw [zpow_add₀ (by norm_num)]
        push_cast
        ring
      rw [hx, hy, ← signed_mul, ← hExact]
      exact pack_rounds (s * t) (holds_exact (m₁ * m₂)) hFits

------------------------------------------------------------
-- Quotients
------------------------------------------------------------

theorem signed_div
    (s t : Sign)
    (p q : Rat) :
    signed (s / t) (p / q) = signed s p / signed t q := by
  cases s with
  | negative =>
      cases t with
      | negative => exact (neg_div_neg_eq p q).symm
      | positive => exact (neg_div q p).symm
  | positive =>
      cases t with
      | negative => exact (div_neg p).symm
      | positive => rfl

/- A quotient with its rest says where the exact quotient lies. -/
theorem holds_quotient
    (m : Nat)
    {n : Nat}
    (hPos : 0 < n) :
    Holds
      (ExtendedMantissa.ofMantissaAndAccuracy (m / n)
        (accuracyOfFraction (m % n) n))
      ((m : Rat) / n) := by
  have hDen : (0 : Rat) < n := by exact_mod_cast hPos
  have hSplit : (m : Rat) / n = (m / n : Nat) + (m % n : Nat) / n := by
    have hNat : ((n * (m / n) + m % n : Nat) : Rat) = m := by
      exact_mod_cast Nat.div_add_mod m n
    rw [eq_comm, ← hNat]
    push_cast
    field_simp
  have hLess : (m % n : Nat) / (n : Rat) < 1 := by
    rw [div_lt_one hDen]
    exact_mod_cast Nat.mod_lt m hPos
  rw [hSplit]
  unfold accuracyOfFraction
  split
  · rename_i hZero
    rw [hZero]
    simp [Holds, ExtendedMantissa.ofMantissaAndAccuracy]
  · rename_i hSome
    have hMore : 0 < (m % n : Nat) / (n : Rat) := by
      have hCast : (0 : Rat) < (m % n : Nat) := by
        exact_mod_cast Nat.pos_of_ne_zero hSome
      positivity
    have hTwice :
        (m % n : Nat) / (n : Rat) = ((2 * (m % n) : Nat) : Rat) / n / 2 := by
      push_cast
      ring
    cases hSide : compare (2 * (m % n)) n with
    | lt =>
        have hNat : 2 * (m % n) < n := Nat.compare_eq_lt.mp hSide
        have hHalf : ((2 * (m % n) : Nat) : Rat) / n < 1 := by
          rw [div_lt_one hDen]
          exact_mod_cast hNat
        simp only [Holds, ExtendedMantissa.ofMantissaAndAccuracy]
        constructor <;> linarith
    | eq =>
        have hNat : 2 * (m % n) = n := Nat.compare_eq_eq.mp hSide
        rw [hNat, div_self hDen.ne'] at hTwice
        simp only [Holds, ExtendedMantissa.ofMantissaAndAccuracy]
        linarith
    | gt =>
        have hNat : n < 2 * (m % n) := Nat.compare_eq_gt.mp hSide
        have hHalf : 1 < ((2 * (m % n) : Nat) : Rat) / n := by
          rw [one_lt_div hDen]
          exact_mod_cast hNat
        simp only [Holds, ExtendedMantissa.ofMantissaAndAccuracy]
        constructor <;> linarith

/- The shift before a division leaves a quotient with enough bits. -/
theorem quotient_fits
    {m₁ m₂ : Nat}
    {e t : Int}
    (hPos₁ : 0 < m₁)
    (hPos₂ : 0 < m₂)
    (hShift : t ≤ e)
    (hTarget : t ≤ max (m₁.log2 - m₂.log2 + e - 53) (-1074)) :
    t ≤ lastPlace ((m₁ <<< (e - t).toNat) / m₂) t := by
  rcases le_or_gt t (-1074) with hLow | hHigh
  · simp only [lastPlace]
    omega
  · have hFull : 2 ^ 52 ≤ (m₁ <<< (e - t).toNat) / m₂ := by
      rw [Nat.le_div_iff_mul_le hPos₂, Nat.shiftLeft_eq]
      have hEnough : 52 + (m₂.log2 + 1) ≤ m₁.log2 + (e - t).toNat := by
        omega
      calc 2 ^ 52 * m₂
          ≤ 2 ^ 52 * 2 ^ (m₂.log2 + 1) :=
            Nat.mul_le_mul_left _ Nat.lt_log2_self.le
        _ = 2 ^ (52 + (m₂.log2 + 1)) := (pow_add 2 _ _).symm
        _ ≤ 2 ^ (m₁.log2 + (e - t).toNat) :=
            Nat.pow_le_pow_right (by decide) hEnough
        _ = 2 ^ m₁.log2 * 2 ^ (e - t).toNat := pow_add 2 _ _
        _ ≤ m₁ * 2 ^ (e - t).toNat :=
            Nat.mul_le_mul_right _
              (Nat.log2_self_le (Nat.pos_iff_ne_zero.mp hPos₁))
    have hSome : (m₁ <<< (e - t).toNat) / m₂ ≠ 0 := by
      have hOne : 0 < 2 ^ 52 := by positivity
      omega
    have hLog := (Nat.le_log2 hSome).mpr hFull
    simp only [lastPlace]
    omega

/- A division leaves enough bits, and holds the exact quotient. -/
theorem divCore_holds
    {m₁ m₂ : Nat}
    (e₁ e₂ : Int)
    (hPos₁ : 0 < m₁)
    (hPos₂ : 0 < m₂) :
    ∃ m e acc x, divCore Format.binary64 m₁ e₁ m₂ e₂ = (m, e, acc) ∧
      Holds (ExtendedMantissa.ofMantissaAndAccuracy m acc) x ∧
      e ≤ lastPlace m e ∧
      x * 2 ^ e = m₁ * 2 ^ e₁ / (m₂ * 2 ^ e₂) := by
  simp only [divCore]
  generalize hTarget :
    min (e₁ - e₂)
      (Format.binary64.targetExponent
        (totalExponent m₁ e₁ - totalExponent m₂ e₂)) = t
  have hShift : t ≤ e₁ - e₂ := hTarget ▸ min_le_left _ _
  have hBound :
      t ≤ max (m₁.log2 - m₂.log2 + (e₁ - e₂) - 53) (-1074) := by
    rw [← hTarget]
    refine (min_le_right _ _).trans (le_of_eq ?_)
    rw [targetExponent_binary64, totalExponent, totalExponent]
    congr 1
    ring
  have hExact :
      ((m₁ <<< (e₁ - e₂ - t).toNat : Nat) : Rat) / m₂ * 2 ^ t =
        m₁ * 2 ^ e₁ / (m₂ * 2 ^ e₂) := by
    have hPower :
        (2 : Rat) ^ (e₁ - e₂ - t).toNat * 2 ^ t = 2 ^ e₁ / 2 ^ e₂ := by
      rw [← zpow_natCast, ← zpow_add₀ (by norm_num),
        ← zpow_sub₀ (by norm_num)]
      congr 1
      omega
    rw [Nat.shiftLeft_eq]
    push_cast
    rw [div_mul_eq_mul_div, mul_assoc, hPower, ← mul_div_assoc, div_div,
      mul_comm (m₂ : Rat)]
  exact ⟨_, _, _, _, rfl, holds_quotient _ hPos₂,
    quotient_fits hPos₁ hPos₂ hShift hBound, hExact⟩

/- Dividing parts and packing the result rounds the exact quotient. -/
theorem parts_div_rounds
    (s : Sign)
    {m₁ m₂ : Nat}
    (e₁ e₂ : Int)
    (hPos₁ : 0 < m₁)
    (hPos₂ : 0 < m₂) :
    Rounds
      (.ofModel
        (Float.Model.pack
          (roundWithAccuracy Format.binary64 s
            (divCore Format.binary64 m₁ e₁ m₂ e₂).1
            (divCore Format.binary64 m₁ e₁ m₂ e₂).2.1
            (divCore Format.binary64 m₁ e₁ m₂ e₂).2.2)))
      (signed s (m₁ * 2 ^ e₁ / (m₂ * 2 ^ e₂))) := by
  rcases divCore_holds e₁ e₂ hPos₁ hPos₂ with
    ⟨m, e, acc, x, hCore, hHolds, hFits, hExact⟩
  rw [hCore, ← hExact]
  exact pack_rounds s hHolds hFits

/- A quotient of doubles is a rounding of the exact quotient. -/
theorem div_rounds
    {x y : Float}
    {p q : Rat}
    (hFirst : Decimal.exactValue? x = some p)
    (hSecond : Decimal.exactValue? y = some q)
    (hDivisor : q ≠ 0) :
    Rounds (x / y) (p / q) := by
  have hQuotient :
      x / y =
        .ofModel
          (Float.Model.pack
            (UnpackedFloat.div Format.binary64 x.toModel.unpack
              y.toModel.unpack)) := rfl
  rw [exactValue?_eq] at hFirst hSecond
  rw [hQuotient]
  rcases finite_of_valueOf? hSecond with
    ⟨t, hy, rfl⟩ | ⟨t, m₂, e₂, hPos₂, hy, rfl⟩
  · exact absurd rfl hDivisor
  · rcases finite_of_valueOf? hFirst with
      ⟨s, hx, rfl⟩ | ⟨s, m₁, e₁, hPos₁, hx, rfl⟩
    · rw [hx, hy, zero_div]
      exact zero_rounds (s / t)
    · rw [hx, hy, ← signed_div]
      exact parts_div_rounds (s / t) e₁ e₂ hPos₁ hPos₂

/- The magnitude of a number is the quotient of its exact parts. -/
theorem quotient_of_parts
    (q : Rat) :
    (q.num.natAbs : Rat) * 2 ^ (0 : Int) / (q.den * 2 ^ (0 : Int)) =
      |q| := by
  rw [zpow_zero, mul_one, mul_one, Rat.abs_def, Rat.divInt_eq_div,
    Int.cast_natCast, Int.cast_natCast]

/- The double nearest to a number is a rounding of it. -/
theorem nearestDouble_rounds
    (q : Rat) :
    Rounds (Decimal.nearestDouble q) q := by
  unfold Decimal.nearestDouble
  split
  · rename_i hNum
    have hParts :=
      parts_div_rounds
        ((if q.num < 0 then .negative else .positive) / .positive)
        0 0 hNum q.den_pos
    have hSign : ∀ s : Sign, signed (s / .positive) |q| = signed s |q| := by
      intro s
      cases s with
      | negative => rfl
      | positive => rfl
    have hSigned :
        signed (if q.num < 0 then .negative else .positive) |q| = q := by
      split
      · rename_i hNeg
        rw [signed, abs_of_neg (Rat.num_neg.mp hNeg), neg_neg]
      · rename_i hNonneg
        have hNonneg : 0 ≤ q := Rat.num_nonneg.mp (not_lt.mp hNonneg)
        rw [signed, abs_of_nonneg hNonneg]
    rw [quotient_of_parts, hSign, hSigned] at hParts
    exact hParts
  · rename_i hNum
    have hZero : q = 0 := by
      have hNat : q.num.natAbs = 0 := by omega
      exact Rat.num_eq_zero.mp (Int.natAbs_eq_zero.mp hNat)
    subst hZero
    exact zero_rounds .positive

------------------------------------------------------------
-- Sums And Differences
------------------------------------------------------------

theorem log2_shiftLeft
    {m : Nat}
    (hPos : 0 < m)
    (k : Nat) :
    (m <<< k).log2 = m.log2 + k := by
  have hSome : m ≠ 0 := Nat.pos_iff_ne_zero.mp hPos
  have hShifted : m <<< k ≠ 0 := by
    rw [Nat.shiftLeft_eq]
    positivity
  rw [Nat.log2_eq_iff hShifted, Nat.shiftLeft_eq, add_right_comm,
    pow_add, pow_add]
  exact
    ⟨Nat.mul_le_mul_right _ (Nat.log2_self_le hSome),
      Nat.mul_lt_mul_of_pos_right Nat.lt_log2_self (Nat.two_pow_pos k)⟩

/- Lowering the exponent changes no value. -/
theorem decreaseExponent_value
    (m : Nat)
    {e t : Int}
    (hLower : t ≤ e) :
    ((decreaseExponent m e t).1 : Rat) * 2 ^ t = m * 2 ^ e := by
  have hPower : (2 : Rat) ^ e = 2 ^ (e - t).toNat * 2 ^ t := by
    rw [← zpow_natCast, ← zpow_add₀ (by norm_num)]
    congr 1
    omega
  rw [hPower, decreaseExponent, Nat.shiftLeft_eq]
  push_cast
  ring

/- Rounding parts with too few bits or too many rounds their value. -/
theorem round_rounds
    (s : Sign)
    {m : Nat}
    (hPos : 0 < m)
    (e : Int) :
    Rounds
      (.ofModel
        (Float.Model.pack (UnpackedFloat.round Format.binary64 s m e)))
      (signed s (m * 2 ^ e)) := by
  simp only [UnpackedFloat.round, decreaseExponent, targetExponent_eq]
  generalize hShift : (e - lastPlace m e).toNat = k
  have hFits : e - k ≤ lastPlace (m <<< k) (e - k) := by
    have hPlace : lastPlace m e = max (m.log2 + e - 52) (-1074) := rfl
    rw [lastPlace, log2_shiftLeft hPos]
    push_cast
    omega
  have hExact : ((m <<< k : Nat) : Rat) * 2 ^ (e - k) = m * 2 ^ e := by
    rw [Nat.shiftLeft_eq, zpow_sub₀ (by norm_num), zpow_natCast]
    push_cast
    field_simp
  rw [← hExact]
  exact pack_rounds s (holds_exact _) hFits

/- Rounding an exact integer multiple of a power rounds its value. -/
theorem normalize_rounds
    (n : Int)
    (e : Int) :
    Rounds
      (.ofModel
        (Float.Model.pack
          (UnpackedFloat.normalize Format.binary64 n e .positive)))
      (n * 2 ^ e) := by
  unfold UnpackedFloat.normalize
  cases hSign : compare n 0 with
  | lt =>
      have hNeg : n < 0 := Int.compare_eq_lt.mp hSign
      have hValue :
          (n : Rat) * 2 ^ e =
            signed .negative (((-n).toNat : Nat) * 2 ^ e) := by
        have hCast : (((-n).toNat : Nat) : Rat) = -n := by
          exact_mod_cast Int.toNat_of_nonneg (by omega : 0 ≤ -n)
        rw [signed, hCast]
        ring
      rw [hValue]
      exact round_rounds .negative (by omega) e
  | eq =>
      have hZero : n = 0 := Int.compare_eq_eq.mp hSign
      subst hZero
      rw [Int.cast_zero, zero_mul]
      exact zero_rounds .positive
  | gt =>
      have hPos : 0 < n := Int.compare_eq_gt.mp hSign
      have hValue :
          (n : Rat) * 2 ^ e =
            signed .positive ((n.toNat : Nat) * 2 ^ e) := by
        have hCast : ((n.toNat : Nat) : Rat) = n := by
          exact_mod_cast Int.toNat_of_nonneg hPos.le
        rw [signed, hCast]
      rw [hValue]
      exact round_rounds .positive (by omega) e

theorem apply_value
    (s : Sign)
    (m : Nat) :
    ((s.apply m : Int) : Rat) = signed s m := by
  cases s with
  | negative => simp [Sign.apply, signed]
  | positive => simp [Sign.apply, signed]

theorem signed_mul_right
    (s : Sign)
    (p q : Rat) :
    signed s p * q = signed s (p * q) := by
  cases s with
  | negative => exact neg_mul p q
  | positive => rfl

theorem signed_neg
    (s : Sign)
    (q : Rat) :
    signed (-s) q = -signed s q := by
  cases s with
  | negative => exact (neg_neg q).symm
  | positive => rfl

/- The parts of a number that bits can store. -/
def IsStored
    (u : UnpackedFloat) : Prop :=
  ∀ s m e hPos, u = .finite s m e hPos → IsCanonical m e ∧ e ≤ 971

theorem unpack_isStored
    (x : Float) :
    IsStored x.toModel.unpack :=
  fun _ _ _ _ hUnpack => unpack_canonical hUnpack

/- A number that bits can store is packed without loss. -/
theorem pack_exact
    {u : UnpackedFloat}
    {q : Rat}
    (hStored : IsStored u)
    (hValue : valueOf? u = some q) :
    Decimal.exactValue? (.ofModel (Float.Model.pack u)) = some q := by
  rw [exactValue?_eq, ← hValue]
  rcases finite_of_valueOf? hValue with
    ⟨s, rfl, rfl⟩ | ⟨s, m, e, hPos, rfl, rfl⟩
  · rw [unpack_pack_zero]
  · rcases hStored s m e hPos rfl with ⟨hCanonical, hRange⟩
    rw [← ofParts_of_pos s hPos, unpack_pack s hCanonical hRange]

/- Adding numbers and packing the result rounds the exact sum. -/
theorem unpacked_add_rounds
    {u v : UnpackedFloat}
    {p q : Rat}
    (hFirstStored : IsStored u)
    (hSecondStored : IsStored v)
    (hFirst : valueOf? u = some p)
    (hSecond : valueOf? v = some q) :
    Rounds
      (.ofModel
        (Float.Model.pack (UnpackedFloat.add Format.binary64 u v)))
      (p + q) := by
  rcases finite_of_valueOf? hFirst with
    ⟨s, rfl, rfl⟩ | ⟨s, m₁, e₁, hPos₁, rfl, rfl⟩
  · rw [zero_add]
    rcases finite_of_valueOf? hSecond with
      ⟨t, rfl, rfl⟩ | ⟨t, m₂, e₂, hPos₂, rfl, rfl⟩
    · have hZero :
          ∃ r, UnpackedFloat.add Format.binary64 (.zero s) (.zero t) =
            .zero r := by
        cases s <;> cases t <;> exact ⟨_, rfl⟩
      rcases hZero with ⟨r, hSum⟩
      rw [hSum]
      exact zero_rounds r
    · exact rounds_of_exact (pack_exact hSecondStored rfl)
  · rcases finite_of_valueOf? hSecond with
      ⟨t, rfl, rfl⟩ | ⟨t, m₂, e₂, hPos₂, rfl, rfl⟩
    · rw [add_zero]
      exact rounds_of_exact (pack_exact hFirstStored rfl)
    · have hExact :
          signed s (m₁ * 2 ^ e₁) + signed t (m₂ * 2 ^ e₂) =
            ((s.apply (decreaseExponent m₁ e₁ (min e₁ e₂)).1 +
              t.apply (decreaseExponent m₂ e₂ (min e₁ e₂)).1 : Int) :
                Rat) * 2 ^ min e₁ e₂ := by
        rw [Int.cast_add, apply_value, apply_value, add_mul,
          signed_mul_right, signed_mul_right,
          decreaseExponent_value m₁ (min_le_left e₁ e₂),
          decreaseExponent_value m₂ (min_le_right e₁ e₂)]
      rw [hExact]
      exact normalize_rounds _ _

/- A sum of doubles is a rounding of the exact sum. -/
theorem add_rounds
    {x y : Float}
    {p q : Rat}
    (hFirst : Decimal.exactValue? x = some p)
    (hSecond : Decimal.exactValue? y = some q) :
    Rounds (x + y) (p + q) := by
  rw [exactValue?_eq] at hFirst hSecond
  exact unpacked_add_rounds (unpack_isStored x) (unpack_isStored y)
    hFirst hSecond

theorem neg_isStored
    {u : UnpackedFloat}
    (hStored : IsStored u) :
    IsStored u.neg := by
  intro s m e hPos hNeg
  cases u with
  | notANumber => cases hNeg
  | infinity t => cases hNeg
  | zero t => cases hNeg
  | finite t m' e' hPos' =>
      cases hNeg
      exact hStored t m e hPos rfl

theorem valueOf?_neg
    {u : UnpackedFloat}
    {q : Rat}
    (hValue : valueOf? u = some q) :
    valueOf? u.neg = some (-q) := by
  rcases finite_of_valueOf? hValue with
    ⟨s, rfl, rfl⟩ | ⟨s, m, e, hPos, rfl, rfl⟩
  · rw [neg_zero]
    rfl
  · rw [← signed_neg]
    rfl

/- To subtract is to add the number with the opposite sign. -/
theorem unpacked_sub_eq
    (u v : UnpackedFloat) :
    UnpackedFloat.sub Format.binary64 u v =
      UnpackedFloat.add Format.binary64 u v.neg := by
  have hApply : ∀ (t : Sign) (n : Int), -t.apply n = (-t).apply n := by
    intro t n
    cases t with
    | negative => exact Int.neg_neg n
    | positive => rfl
  cases u with
  | finite s m₁ e₁ hPos₁ =>
      cases v with
      | finite t m₂ e₂ hPos₂ =>
          let first := decreaseExponent m₁ e₁ (min e₁ e₂)
          let second := decreaseExponent m₂ e₂ (min e₁ e₂)
          have hMantissa :
              s.apply first.1 - t.apply second.1 =
                s.apply first.1 + (-t).apply second.1 := by
            rw [Int.sub_eq_add_neg, hApply]
          exact congrArg
            (fun n =>
              UnpackedFloat.normalize Format.binary64 n (min e₁ e₂)
                .positive)
            hMantissa
      | notANumber => rfl
      | infinity t => rfl
      | zero t => rfl
  | notANumber => rfl
  | infinity s => cases v <;> rfl
  | zero s => cases v <;> rfl

/- A difference of doubles is a rounding of the exact difference. -/
theorem sub_rounds
    {x y : Float}
    {p q : Rat}
    (hFirst : Decimal.exactValue? x = some p)
    (hSecond : Decimal.exactValue? y = some q) :
    Rounds (x - y) (p - q) := by
  have hDifference :
      x - y =
        .ofModel
          (Float.Model.pack
            (UnpackedFloat.sub Format.binary64 x.toModel.unpack
              y.toModel.unpack)) := rfl
  rw [exactValue?_eq] at hFirst hSecond
  rw [hDifference, unpacked_sub_eq, sub_eq_add_neg]
  exact unpacked_add_rounds (unpack_isStored x)
    (neg_isStored (unpack_isStored y)) hFirst (valueOf?_neg hSecond)

/- The double with the opposite sign denotes the opposite number. -/
theorem exactValue?_neg
    {x : Float}
    {q : Rat}
    (hValue : Decimal.exactValue? x = some q) :
    Decimal.exactValue? (-x) = some (-q) := by
  rw [exactValue?_eq] at hValue
  exact pack_exact (neg_isStored (unpack_isStored x))
    (valueOf?_neg hValue)

end Double

end Joinery
