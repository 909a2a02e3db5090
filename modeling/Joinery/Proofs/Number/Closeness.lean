import Joinery.Proofs.Double.Operands
import Joinery.Proofs.Measure

/-
  Numbers of all kinds are calculated with as exactly as
  doubles allow. If a result is finite, so are the numbers
  that it is made of, and it is close to the exact result.

  Key definitions include:
    * `Number.Rule.Follows`

  Key theorems include:
    * `Number.combine_near`
    * `Number.add_close`
    * `Number.sub_close`
    * `Number.halve_close`
    * `Number.multiple_close`
    * `Number.place_of_neg`
-/

namespace Joinery

open Double

namespace Number

------------------------------------------------------------
-- Rules
------------------------------------------------------------

/-
  A rule follows an exact operation: exactly for integers
  and ratios, rounded for doubles, and finite for finite
  doubles only.
-/
structure Rule.Follows
    (rule : Rule)
    (exact : Rat → Rat → Rat) : Prop where
  ints : ∀ m n, (rule.onInts m n : Rat) = exact m n
  ratios : ∀ p q, rule.onRatios p q = exact p q
  rounds :
    ∀ {x y p q}, Decimal.exactValue? x = some p →
      Decimal.exactValue? y = some q →
        Rounds (rule.onDoubles x y) (exact p q)
  operands :
    ∀ {x y r}, Decimal.exactValue? (rule.onDoubles x y) = some r →
      ∃ p q, Decimal.exactValue? x = some p ∧
        Decimal.exactValue? y = some q

theorem add_follows :
    Rule.Follows ⟨(· + ·), (· + ·), (· + ·)⟩ (· + ·) where
  ints := Int.cast_add
  ratios _ _ := rfl
  rounds := add_rounds
  operands := operands_of_add

theorem sub_follows :
    Rule.Follows ⟨(· - ·), (· - ·), (· - ·)⟩ (· - ·) where
  ints := Int.cast_sub
  ratios _ _ := rfl
  rounds := sub_rounds
  operands := operands_of_sub

theorem mul_follows :
    Rule.Follows ⟨(· * ·), (· * ·), (· * ·)⟩ (· * ·) where
  ints := Int.cast_mul
  ratios _ _ := rfl
  rounds := mul_rounds
  operands := operands_of_mul

/- A finite double stands for a finite number that it is next to. -/
theorem place_of_toDouble
    {a : Number}
    {x : Float}
    {r : Rat}
    (hDouble : a.toDouble = .ok x)
    (hValue : Decimal.exactValue? x = some r) :
    ∃ p, a.place = .finite p ∧ Near r p := by
  have hNear : ∀ p, a.place = .finite p → Near r p := by
    intro p hPlace
    rcases toDouble_near hPlace hDouble with ⟨q, hSame, hNear⟩
    rw [hValue] at hSame
    cases hSame
    exact hNear
  cases a with
  | int n => exact ⟨n, rfl, hNear n rfl⟩
  | ratio q => exact ⟨q, rfl, hNear q rfl⟩
  | float y =>
      cases hDouble
      have hPlace := (place_float_iff x r).mpr hValue
      exact ⟨r, hPlace, hNear r hPlace⟩

/- A finite result of doubles is next to that of the numbers' doubles. -/
theorem doubles_near
    {rule : Rule}
    {exact : Rat → Rat → Rat}
    (hFollows : rule.Follows exact)
    {a b c : Number}
    {r : Rat}
    (hResult :
      (do
        let x ← a.toDouble
        let y ← b.toDouble
        return Number.float (rule.onDoubles x y) : Outcome Number) =
          .ok c)
    (hFinite : c.place = .finite r) :
    ∃ p q p' q', a.place = .finite p ∧ b.place = .finite q ∧
      Near p' p ∧ Near q' q ∧ Near r (exact p' q') := by
  rcases Outcome.bind_eq_ok_iff.mp hResult with ⟨x, hFirst, hRest⟩
  rcases Outcome.bind_eq_ok_iff.mp hRest with ⟨y, hSecond, hDouble⟩
  cases hDouble
  have hValue := (place_float_iff _ r).mp hFinite
  rcases hFollows.operands hValue with ⟨p', q', hx, hy⟩
  rcases place_of_toDouble hFirst hx with ⟨p, ha, hNearFirst⟩
  rcases place_of_toDouble hSecond hy with ⟨q, hb, hNearSecond⟩
  exact ⟨p, q, p', q', ha, hb, hNearFirst, hNearSecond,
    (hFollows.rounds hx hy).near r hValue⟩

/- A finite result is next to the exact result of numbers next to both. -/
theorem combine_near
    {rule : Rule}
    {exact : Rat → Rat → Rat}
    (hFollows : rule.Follows exact)
    {a b c : Number}
    {r : Rat}
    (hResult : combine rule a b = .ok c)
    (hFinite : c.place = .finite r) :
    ∃ p q p' q', a.place = .finite p ∧ b.place = .finite q ∧
      Near p' p ∧ Near q' q ∧ Near r (exact p' q') := by
  have hExact :
      ∀ p q : Rat, r = exact p q → a.place = .finite p →
        b.place = .finite q →
          ∃ p q p' q', a.place = .finite p ∧ b.place = .finite q ∧
            Near p' p ∧ Near q' q ∧ Near r (exact p' q') := by
    intro p q hSame ha hb
    exact ⟨p, q, p, q, ha, hb, Near.refl p, Near.refl q,
      hSame ▸ Near.refl _⟩
  cases a with
  | float x => exact doubles_near hFollows hResult hFinite
  | int m =>
      cases b with
      | float y => exact doubles_near hFollows hResult hFinite
      | int n =>
          cases hResult
          cases hFinite
          exact hExact m n (hFollows.ints m n) rfl rfl
      | ratio q =>
          cases hResult
          cases hFinite
          exact hExact m q (hFollows.ratios m q) rfl rfl
  | ratio p =>
      cases b with
      | float y => exact doubles_near hFollows hResult hFinite
      | int n =>
          cases hResult
          cases hFinite
          exact hExact p n (hFollows.ratios p n) rfl rfl
      | ratio q =>
          cases hResult
          cases hFinite
          exact hExact p q (hFollows.ratios p q) rfl rfl

------------------------------------------------------------
-- Results
------------------------------------------------------------

/- A rounding of a number is off by a small part of it. -/
theorem near_small
    {r v : Rat}
    (hNear : Near r v) :
    |r - v| ≤ |v| / 2 ^ 53 + 1 / 2 ^ 60 :=
  le_trans hNear (add_le_add_right halfLeast_tiny _)

/- A finite sum is close to the exact one. -/
theorem add_close
    {a b c : Number}
    {r : Rat}
    (hSum : a.add b = .ok c)
    (hFinite : c.place = .finite r) :
    ∃ p q, a.place = .finite p ∧ b.place = .finite q ∧
      |r - (p + q)| ≤ (|p| + |q| + 1) / 2 ^ 50 := by
  rcases combine_near add_follows hSum hFinite with
    ⟨p, q, p', q', ha, hb, hFirst, hSecond, hNear⟩
  refine ⟨p, q, ha, hb, ?_⟩
  have hFirst := near_small hFirst
  have hSecond := near_small hSecond
  have hNear := near_small hNear
  have hSplit : r - (p + q) = r - (p' + q') + (p' - p) + (q' - q) := by
    ring
  have hSize : |p' + q'| ≤ |p' - p| + |q' - q| + (|p| + |q|) := by
    have hSplit : p' + q' = p' - p + (q' - q) + (p + q) := by ring
    rw [hSplit]
    exact (abs_add_three _ _ _).trans
      (add_le_add_right (abs_add_le p q) _)
  rw [hSplit]
  refine (abs_add_three _ _ _).trans ?_
  linarith [abs_nonneg p, abs_nonneg q]

/- A finite difference is close to the exact one. -/
theorem sub_close
    {a b c : Number}
    {r : Rat}
    (hDifference : a.sub b = .ok c)
    (hFinite : c.place = .finite r) :
    ∃ p q, a.place = .finite p ∧ b.place = .finite q ∧
      |r - (p - q)| ≤ (|p| + |q| + 1) / 2 ^ 50 := by
  rcases combine_near sub_follows hDifference hFinite with
    ⟨p, q, p', q', ha, hb, hFirst, hSecond, hNear⟩
  refine ⟨p, q, ha, hb, ?_⟩
  have hFirst := near_small hFirst
  have hSecond := near_small hSecond
  have hNear := near_small hNear
  rw [← abs_sub_comm] at hSecond
  have hSplit : r - (p - q) = r - (p' - q') + (p' - p) + (q - q') := by
    ring
  have hSize : |p' - q'| ≤ |p' - p| + |q - q'| + (|p| + |q|) := by
    have hSplit : p' - q' = p' - p + (q - q') + (p - q) := by ring
    rw [hSplit]
    exact (abs_add_three _ _ _).trans
      (add_le_add_right (abs_sub p q) _)
  rw [hSplit]
  refine (abs_add_three _ _ _).trans ?_
  linarith [abs_nonneg p, abs_nonneg q]

/- A small finite multiple is close to the exact one. -/
theorem multiple_close
    {k : Int}
    (hPos : (1 : Rat) ≤ k)
    (hFew : (k : Rat) ≤ 1000)
    {a c : Number}
    {r : Rat}
    (hProduct : (Number.int k).mul a = .ok c)
    (hFinite : c.place = .finite r) :
    ∃ p, a.place = .finite p ∧
      |r - k * p| ≤ (|k * p| + 1) / 2 ^ 48 := by
  rcases combine_near mul_follows hProduct hFinite with
    ⟨q, p, k', p', hFactor, ha, hFirst, hSecond, hNear⟩
  cases hFactor
  refine ⟨p, ha, ?_⟩
  have hFirst := near_small hFirst
  have hSecond := near_small hSecond
  have hNear := near_small hNear
  have hSize : |(k : Rat) * p| = k * |p| := by
    rw [abs_mul, abs_of_nonneg (by linarith : (0 : Rat) ≤ k)]
  have hPart : |p| ≤ k * |p| := le_mul_of_one_le_left (abs_nonneg p) hPos
  rw [abs_of_nonneg (by linarith : (0 : Rat) ≤ k)] at hFirst
  have hFactor : |k'| ≤ 2 * k := by
    have hTriangle := abs_sub_abs_le_abs_sub k' (k : Rat)
    rw [abs_of_nonneg (by linarith : (0 : Rat) ≤ k)] at hTriangle
    linarith
  have hLate : |k' * (p' - p)| ≤ k * |p| / 2 ^ 52 + 1 / 2 ^ 49 := by
    rw [abs_mul]
    calc |k'| * |p' - p|
        ≤ 2 * k * (|p| / 2 ^ 53 + 1 / 2 ^ 60) :=
          mul_le_mul hFactor hSecond (abs_nonneg _) (by linarith)
      _ = k * |p| / 2 ^ 52 + k / 2 ^ 59 := by ring
      _ ≤ k * |p| / 2 ^ 52 + 1 / 2 ^ 49 := by linarith
  have hEarly : |(k' - k) * p| ≤ k * |p| / 2 ^ 52 := by
    rw [abs_mul]
    calc |k' - k| * |p|
        ≤ (k / 2 ^ 53 + 1 / 2 ^ 60) * |p| :=
          mul_le_mul_of_nonneg_right hFirst (abs_nonneg p)
      _ = k * |p| / 2 ^ 53 + |p| / 2 ^ 60 := by ring
      _ ≤ k * |p| / 2 ^ 52 := by linarith [abs_nonneg p]
  have hProductSize :
      |k' * p'| ≤ |k' * (p' - p)| + |(k' - k) * p| + k * |p| := by
    have hSplit : k' * p' = k' * (p' - p) + (k' - k) * p + k * p := by ring
    rw [hSplit, ← hSize]
    exact abs_add_three _ _ _
  have hSplit :
      r - k * p = r - k' * p' + k' * (p' - p) + (k' - k) * p := by
    ring
  rw [hSplit, hSize]
  refine (abs_add_three _ _ _).trans ?_
  linarith [abs_nonneg p]

/- Two is a double. -/
theorem toDouble_two :
    ∃ x, (Number.int 2).toDouble = .ok x ∧
      Decimal.exactValue? x = some 2 := by
  refine ⟨Decimal.nearestDouble 2, ?_, by decide +kernel⟩
  rfl

/- A finite half is close to the exact one. -/
theorem halve_close
    {a c : Number}
    {r : Rat}
    (hHalf : a.div (.int 2) = .ok c)
    (hFinite : c.place = .finite r) :
    ∃ p, a.place = .finite p ∧
      |r - p / 2| ≤ (|p| + 1) / 2 ^ 50 := by
  cases a with
  | int m =>
      rcases Outcome.map_eq_ok_iff.mp hHalf with ⟨x, hDouble, rfl⟩
      rcases nearestInRange_near hDouble with ⟨s, hValue, hNear⟩
      have hSame := (place_float_iff x r).mp hFinite
      rw [hValue] at hSame
      cases hSame
      have hNear := near_small hNear
      refine ⟨m, rfl, ?_⟩
      push_cast at hNear
      rw [abs_div, abs_two] at hNear
      linarith [abs_nonneg (m : Rat)]
  | ratio p =>
      cases hHalf
      cases hFinite
      refine ⟨p, rfl, ?_⟩
      push_cast
      rw [sub_self, abs_zero]
      positivity
  | float x =>
      rcases toDouble_two with ⟨y, hTwo, hValueTwo⟩
      have hQuotient :
          (Number.float x).div (.int 2) =
            if y == 0.0 then fail .divisionByZero
            else .ok (.float (x / y)) := by
        unfold div
        dsimp only
        rw [hTwo]
        rfl
      rw [hQuotient] at hHalf
      split at hHalf
      · cases hHalf
      · cases hHalf
        have hValue := (place_float_iff _ r).mp hFinite
        rcases dividend_of_div hValue with ⟨p, hDividend⟩
        refine ⟨p, (place_float_iff x p).mpr hDividend, ?_⟩
        have hNear := near_small
          ((div_rounds hDividend hValueTwo two_ne_zero).near r hValue)
        rw [abs_div, abs_two] at hNear
        linarith [abs_nonneg p]

/- A finite opposite is the exact one. -/
theorem place_of_neg
    {a : Number}
    {r : Rat}
    (hFinite : a.neg.place = .finite r) :
    a.place = .finite (-r) := by
  cases a with
  | int n =>
      cases hFinite
      simp
  | ratio q =>
      cases hFinite
      simp
  | float x =>
      have hValue := (place_float_iff _ r).mp hFinite
      exact (place_float_iff x _).mpr (operand_of_neg hValue)

end Number

end Joinery
