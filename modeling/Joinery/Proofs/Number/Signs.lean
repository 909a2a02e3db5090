import Joinery.Proofs.Number.Order

/-
  The signs of numbers. The opposite of a number above zero
  is below zero. A multiple of a finite number above zero is
  above zero: no double is so small that rounding makes the
  multiple zero, and none so large that it is no number.

  Key definitions include:
    * `Number.IsPositive`
    * `Number.IsNegative`

  Key theorems include:
    * `Double.mul_positive`
    * `Number.IsPositive.neg`
    * `Number.IsPositive.multiple`
-/

namespace Joinery

------------------------------------------------------------
-- Doubles
------------------------------------------------------------

namespace Double

open Float.Model Float.Model.UnpackedFloat

/- A double above zero has a positive sign, and parts. -/
theorem parts_of_positive
    {x : Float}
    {q : Rat}
    (hValue : Decimal.exactValue? x = some q)
    (hPos : 0 < q) :
    ∃ m e hSome, x.toModel.unpack = .finite .positive m e hSome ∧
      q = m * 2 ^ e := by
  rw [exactValue?_eq] at hValue
  rcases finite_of_valueOf? hValue with
    ⟨s, -, rfl⟩ | ⟨s, m, e, hSome, hParts, rfl⟩
  · exact absurd hPos (lt_irrefl 0)
  · cases s with
    | positive => exact ⟨m, e, hSome, hParts, rfl⟩
    | negative =>
        have hSize : (0 : Rat) ≤ m * 2 ^ e :=
          mul_nonneg (Nat.cast_nonneg m) (zpow_pos (by norm_num) e).le
        rw [signed] at hPos
        linarith

/- No double above zero is below the least one. -/
theorem least_le
    {x : Float}
    {q : Rat}
    (hValue : Decimal.exactValue? x = some q)
    (hPos : 0 < q) :
    2 * halfLeast ≤ q := by
  rcases parts_of_positive hValue hPos with ⟨m, e, hSome, hParts, rfl⟩
  have hCanonical := (unpack_canonical hParts).1
  have hUnit : (2 : Rat) ^ (-1074 : Int) ≤ 2 ^ e :=
    zpow_le_zpow_right₀ (by norm_num) hCanonical.least
  have hOne : (1 : Rat) ≤ m := by exact_mod_cast hSome
  rw [least_eq] at hUnit
  exact hUnit.trans
    (le_mul_of_one_le_left (zpow_pos (by norm_num) e).le hOne)

/-
  The product of two doubles above zero is finite and above
  zero, or the infinity above all numbers, if the first one
  is not so small that half of the least double comes out.
-/
theorem mul_positive
    {x y : Float}
    {p q : Rat}
    (hFirst : Decimal.exactValue? x = some p)
    (hSecond : Decimal.exactValue? y = some q)
    (hLarge : 3 / 4 ≤ p)
    (hPos : 0 < q) :
    (∃ r, Decimal.exactValue? (x * y) = some r ∧ 0 < r) ∨
      (x * y).toModel.unpack = .infinity .positive := by
  have hProduct :
      x * y =
        .ofModel
          (Float.Model.pack
            (UnpackedFloat.mul Format.binary64 x.toModel.unpack
              y.toModel.unpack)) := rfl
  have hLeast := least_le hSecond hPos
  rcases parts_of_positive hFirst (by linarith) with
    ⟨m₁, e₁, hSome₁, hx, hp⟩
  rcases parts_of_positive hSecond hPos with ⟨m₂, e₂, hSome₂, hy, hq⟩
  have hFits :=
    product_fits hSome₁ hSome₂ (unpack_canonical hx).1
      (unpack_canonical hy).1
  rcases roundWithAccuracy_near .positive (holds_exact (m₁ * m₂)) hFits with
    ⟨m, e, hCanonical, hRound, hNear⟩
  have hUnpack :
      (x * y).toModel.unpack =
        (Float.Model.pack (ofParts .positive m e)).unpack := by
    rw [hProduct, hx, hy, ← hRound]
    rfl
  have hExact : ((m₁ * m₂ : Nat) : Rat) * 2 ^ (e₁ + e₂) = p * q := by
    rw [hp, hq, zpow_add₀ (by norm_num)]
    push_cast
    ring
  -- what is rounded is so large that it is not rounded to zero
  have hUp : (0 : Rat) < m * 2 ^ e := by
    have hHalf := halfLeast_pos
    have hSize : 3 / 2 * halfLeast ≤ p * q := by nlinarith
    rw [hExact, Near, abs_of_nonneg (by linarith : 0 ≤ p * q)] at hNear
    have hBelow := (abs_le.mp hNear).1
    linarith
  have hSome : 0 < m := by
    rcases Nat.eq_zero_or_pos m with hZero | hSome
    · rw [hZero, Nat.cast_zero, zero_mul] at hUp
      exact absurd hUp (lt_irrefl 0)
    · exact hSome
  rcases le_or_gt e 971 with hRange | hOver
  · refine Or.inl ⟨m * 2 ^ e, ?_, hUp⟩
    rw [exactValue?_eq, hUnpack, unpack_pack .positive hCanonical hRange,
      valueOf?_ofParts]
    rfl
  · exact Or.inr (hUnpack.trans (unpack_pack_overflow .positive hSome hOver))

/- The opposite of the infinity above all numbers is the one below. -/
theorem unpack_neg_infinity
    {x : Float}
    {s : Sign}
    (hInfinity : x.toModel.unpack = .infinity s) :
    (-x).toModel.unpack = .infinity (-s) := by
  have hOpposite :
      -x = .ofModel (Float.Model.pack x.toModel.unpack.neg) := rfl
  rw [hOpposite, hInfinity]
  exact unpack_pack_infinity (-s)

end Double

------------------------------------------------------------
-- Numbers
------------------------------------------------------------

namespace Number

open Float.Model Float.Model.UnpackedFloat

/- The end of the line that lies in the direction of a sign. -/
def Place.ofSign : Sign → Place
  | .positive => .above
  | .negative => .below

/- The infinities lie at the ends of the line. -/
theorem place_of_infinity
    {x : Float}
    {s : Sign}
    (hInfinity : x.toModel.unpack = .infinity s) :
    (Number.float x).place = .ofSign s := by
  have hNone : Decimal.exactValue? x = none := by
    rw [Double.exactValue?_eq, hInfinity]
    rfl
  have hSome : x.isNaN = false := by
    show x.toModel.unpack.isNaN = false
    rw [hInfinity]
    rfl
  have hBelow :
      x < 0.0 ↔
        UnpackedFloat.lt (.infinity s) (.zero .positive) = true := by
    rw [← hInfinity]
    exact decide_eq_true_iff
  simp only [place, hNone, hSome, Bool.false_eq_true, if_false, hBelow]
  cases s <;> rfl

/- Only one double lies above all numbers. -/
theorem infinity_of_above
    {x : Float}
    (hAbove : (Number.float x).place = .above) :
    x.toModel.unpack = .infinity .positive := by
  cases hUnpack : x.toModel.unpack with
  | infinity s =>
      cases s with
      | positive => rfl
      | negative =>
          rw [place_of_infinity hUnpack] at hAbove
          cases hAbove
  | notANumber =>
      have hNone : Decimal.exactValue? x = none := by
        rw [Double.exactValue?_eq, hUnpack]
        rfl
      have hNaN : x.isNaN = true := by
        show x.toModel.unpack.isNaN = true
        rw [hUnpack]
        rfl
      simp only [place, hNone, hNaN, if_true] at hAbove
      cases hAbove
  | zero s =>
      rw [(place_float_iff x 0).mpr (by
        rw [Double.exactValue?_eq, hUnpack]; rfl)] at hAbove
      cases hAbove
  | finite s m e hSome =>
      rw [(place_float_iff x _).mpr (by
        rw [Double.exactValue?_eq, hUnpack]; rfl)] at hAbove
      cases hAbove

/- A number above zero, or the infinity above all numbers. -/
def IsPositive
    (n : Number) : Prop :=
  n.place = .above ∨ ∃ q, n.place = .finite q ∧ 0 < q

/- A number below zero, or the infinity below all numbers; no NaN. -/
def IsNegative
    (n : Number) : Prop :=
  n.place = .below ∨ ∃ q, n.place = .finite q ∧ q < 0

namespace IsPositive

/- The opposite of a number above zero is below zero. -/
theorem neg
    {n : Number}
    (hPositive : n.IsPositive) :
    n.neg.IsNegative := by
  rcases hPositive with hAbove | ⟨q, hPlace, hPos⟩
  · cases n with
    | int m => cases hAbove
    | ratio q => cases hAbove
    | float x =>
        exact Or.inl (place_of_infinity
          (Double.unpack_neg_infinity (infinity_of_above hAbove)))
  · refine Or.inr ⟨-q, ?_, neg_neg_of_pos hPos⟩
    cases n with
    | int m =>
        cases hPlace
        rw [Number.neg, place_int]
        push_cast
        rfl
    | ratio p =>
        cases hPlace
        rfl
    | float x =>
        have hValue := (place_float_iff x q).mp hPlace
        exact (place_float_iff _ _).mpr (Double.exactValue?_neg hValue)

/- A multiple of a finite number above zero is above zero. -/
theorem multiple
    {k : Nat}
    {n multiple : Number}
    {q : Rat}
    (hPlace : n.place = .finite q)
    (hPos : 0 < q)
    (hMultiple : (Number.int (k + 1)).mul n = .ok multiple) :
    multiple.IsPositive := by
  have hFactor : (0 : Rat) < ((k + 1 : Int) : Rat) := by
    exact_mod_cast Nat.succ_pos k
  cases n with
  | int m =>
      cases hPlace
      cases hMultiple
      refine Or.inr ⟨((k + 1) * m : Int), rfl, ?_⟩
      rw [Int.cast_mul]
      exact mul_pos hFactor hPos
  | ratio p =>
      cases hPlace
      cases hMultiple
      exact Or.inr ⟨(k + 1 : Int) * q, rfl, mul_pos hFactor hPos⟩
  | float y =>
      rcases Outcome.bind_eq_ok_iff.mp hMultiple with ⟨x, hDouble, hRest⟩
      rcases Outcome.bind_eq_ok_iff.mp hRest with ⟨z, hSame, hEnd⟩
      cases hSame
      cases hEnd
      rcases toDouble_near (place_int (k + 1)) hDouble with
        ⟨p, hValue, hNear⟩
      have hOne : (1 : Rat) ≤ ((k + 1 : Int) : Rat) := by
        exact_mod_cast Nat.succ_pos k
      have hLarge : 3 / 4 ≤ p := by
        have hSmall := near_small hNear
        rw [abs_of_pos hFactor] at hSmall
        have hBelow := (abs_le.mp hSmall).1
        linarith
      rcases Double.mul_positive hValue ((place_float_iff y q).mp hPlace)
          hLarge hPos with ⟨r, hProduct, hUp⟩ | hInfinity
      · exact Or.inr ⟨r, (place_float_iff _ r).mpr hProduct, hUp⟩
      · exact Or.inl (place_of_infinity hInfinity)

end IsPositive

end Number

end Joinery
