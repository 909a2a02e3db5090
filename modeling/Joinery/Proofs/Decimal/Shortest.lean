import Joinery.Decimal.Shortest
import Joinery.Proofs.Double.Packing

/-
  The search for the shortest decimal of a double always
  ends with a decimal of the double's rounding interval.

  Key theorems include:
    * `Decimal.grid_below_step`
    * `Decimal.firstGrid?_holds`
    * `Decimal.firstGrid?_isSome`
    * `Decimal.shortest_holds`
    * `Decimal.shortest_close`
    * `Decimal.shortest?_near`
-/

namespace Joinery

namespace Decimal

open Double

------------------------------------------------------------
-- Powers Of Ten And Two
------------------------------------------------------------

/-
  A power of ten is smaller than a power of two if their
  exponents are in the ratio of the coarsest grid, less a
  margin. Ten is compared with two through `10 ^ 3 < 2 ^ 10`
  above one and through `2 ^ 33 < 10 ^ 10` below one.
-/
theorem ten_zpow_lt_two_zpow
    {a b : Int}
    (hAbove : 0 ≤ a → 10 * a < 3 * b)
    (hBelow : a < 0 → 33 * a < 10 * b) :
    (10 : Rat) ^ a < 2 ^ b := by
  rcases le_or_gt 0 a with hNonneg | hNeg
  · apply lt_of_pow_lt_pow_left₀ 3 (zpow_pos (by norm_num) b).le
    calc ((10 : Rat) ^ a) ^ 3 = (10 ^ 3) ^ a := by
          rw [← zpow_natCast, zpow_comm, zpow_natCast]
      _ ≤ (2 ^ 10) ^ a :=
          zpow_le_zpow_left₀ hNonneg (by norm_num) (by norm_num)
      _ = 2 ^ (10 * a) := by
          rw [← zpow_natCast, ← zpow_mul]
          norm_num
      _ < 2 ^ (3 * b) :=
          zpow_lt_zpow_right₀ (by norm_num) (hAbove hNonneg)
      _ = (2 ^ b) ^ 3 := by
          rw [mul_comm, zpow_mul]
          norm_cast
  · apply lt_of_pow_lt_pow_left₀ 10 (zpow_pos (by norm_num) b).le
    have hInverse :
        ((10 : Rat) ^ 10) ^ a ≤ (2 ^ 33) ^ a := by
      have hFlip : ((2 : Rat) ^ 33) ^ (-a) ≤ (10 ^ 10) ^ (-a) :=
        zpow_le_zpow_left₀ (by omega) (by norm_num) (by norm_num)
      rw [zpow_neg, zpow_neg] at hFlip
      exact (inv_le_inv₀ (zpow_pos (by norm_num) a)
        (zpow_pos (by norm_num) a)).mp hFlip
    calc ((10 : Rat) ^ a) ^ 10 = (10 ^ 10) ^ a := by
          rw [← zpow_natCast, zpow_comm, zpow_natCast]
      _ ≤ (2 ^ 33) ^ a := hInverse
      _ = 2 ^ (33 * a) := by
          rw [← zpow_natCast, ← zpow_mul]
          norm_num
      _ < 2 ^ (10 * b) :=
          zpow_lt_zpow_right₀ (by norm_num) (hBelow hNeg)
      _ = (2 ^ b) ^ 10 := by
          rw [mul_comm, zpow_mul]
          norm_cast

/- The last grid that is tried is finer than half a step. -/
theorem grid_below_step
    {m : Nat}
    {e : Int}
    (hCanonical : IsCanonical m e)
    (hRange : e ≤ 971) :
    (10 : Rat) ^ (coarsestGrid m e - 23) < 2 ^ e / 2 := by
  have hLog := hCanonical.log2_le
  have hLeast := hCanonical.least
  rw [div_eq_mul_inv, ← zpow_sub_one₀ (by norm_num)]
  apply ten_zpow_lt_two_zpow
  · intro hNonneg
    simp only [coarsestGrid] at hNonneg ⊢
    omega
  · intro hNeg
    simp only [coarsestGrid] at hNeg ⊢
    omega

------------------------------------------------------------
-- The Search
------------------------------------------------------------

/- What is found on a grid lies in the interval. -/
theorem onGrid?_holds
    {s : Spread}
    {k : Int}
    {c : Nat}
    (hFound : s.onGrid? k = some c) :
    s.holds (c * (10 : Rat) ^ k) = true := by
  simp only [Spread.onGrid?] at hFound
  generalize (s.centre / (10 : Rat) ^ k).floor.toNat = below at hFound
  split at hFound
  · rename_i hBoth
    simp only [Bool.and_eq_true] at hBoth
    split at hFound
    · cases hFound
      exact hBoth.1.2
    · split at hFound
      · cases hFound
        exact hBoth.2
      · split at hFound
        · cases hFound
          exact hBoth.1.2
        · cases hFound
          exact hBoth.2
  · split at hFound
    · rename_i hBelow
      simp only [Bool.and_eq_true] at hBelow
      cases hFound
      exact hBelow.2
    · split at hFound
      · rename_i hAbove
        cases hFound
        exact hAbove
      · cases hFound

/- A grid that is finer than the upper half of an interval meets it. -/
theorem onGrid?_isSome
    {s : Spread}
    {k : Int}
    (hCentre : 0 ≤ s.centre)
    (hLow : s.low ≤ s.centre)
    (hFine : s.centre + (10 : Rat) ^ k < s.high) :
    (s.onGrid? k).isSome = true := by
  have hUnit : (0 : Rat) < 10 ^ k := zpow_pos (by norm_num) k
  have hAbove :
      s.holds
        (((s.centre / (10 : Rat) ^ k).floor.toNat + 1 : Nat) *
          (10 : Rat) ^ k) = true := by
    have hFloor : 0 ≤ (s.centre / (10 : Rat) ^ k).floor :=
      Rat.le_floor_iff.mpr (by positivity)
    have hNat :
        (((s.centre / (10 : Rat) ^ k).floor.toNat : Nat) : Rat) =
          (s.centre / (10 : Rat) ^ k).floor := by
      exact_mod_cast Int.toNat_of_nonneg hFloor
    have hUnder :
        ((s.centre / (10 : Rat) ^ k).floor : Rat) ≤
          s.centre / (10 : Rat) ^ k := Rat.floor_le _
    have hOver :
        s.centre / (10 : Rat) ^ k <
          (s.centre / (10 : Rat) ^ k).floor + 1 := by
      exact_mod_cast Rat.lt_floor_add_one _
    rw [le_div_iff₀ hUnit] at hUnder
    rw [div_lt_iff₀ hUnit] at hOver
    push_cast
    rw [hNat]
    unfold Spread.holds
    split
    · simp only [Bool.and_eq_true, decide_eq_true_eq]
      constructor <;> linarith
    · simp only [Bool.and_eq_true, decide_eq_true_eq]
      constructor <;> linarith
  simp only [Spread.onGrid?, hAbove]
  split
  · split
    · rfl
    · split
      · rfl
      · split <;> rfl
  · split
    · rfl
    · rfl

/- What the search finds lies in the interval. -/
theorem firstGrid?_holds
    {s : Spread}
    {tries : Nat}
    {k grid : Int}
    {c : Nat}
    (hFound : firstGrid? s tries k = some (c, grid)) :
    s.holds (c * (10 : Rat) ^ grid) = true := by
  induction tries generalizing k with
  | zero => cases hFound
  | succ tries ih =>
      rw [firstGrid?] at hFound
      cases hGrid : s.onGrid? k with
      | some n =>
          rw [hGrid] at hFound
          cases hFound
          exact onGrid?_holds hGrid
      | none =>
          rw [hGrid] at hFound
          exact ih hFound

/- The search ends at the latest at a grid that meets the interval. -/
theorem firstGrid?_isSome
    {s : Spread}
    {k : Int}
    {tries : Nat}
    (last : Nat)
    (hMeets : (s.onGrid? (k - last)).isSome = true)
    (hLast : last < tries) :
    (firstGrid? s tries k).isSome = true := by
  induction tries generalizing k last with
  | zero => omega
  | succ tries ih =>
      rw [firstGrid?]
      cases hGrid : s.onGrid? k with
      | some n => rfl
      | none =>
          cases last with
          | zero =>
              rw [Nat.cast_zero, sub_zero, hGrid] at hMeets
              cases hMeets
          | succ last =>
              have hNext : k - (last + 1 : Nat) = k - 1 - last := by
                push_cast
                ring
              rw [hNext] at hMeets
              exact ih last hMeets (by omega)

------------------------------------------------------------
-- The Decimal That Is Found
------------------------------------------------------------

/- What lies in a rounding interval is half a step away at most. -/
theorem ofParts_holds_close
    {m : Nat}
    {e : Int}
    {q : Rat}
    (hHolds : (Spread.ofParts m e).holds q = true) :
    |q - m * 2 ^ e| ≤ 2 ^ e / 2 := by
  have hStep : (0 : Rat) < 2 ^ e := zpow_pos (by norm_num) e
  have hEnds :
      m * (2 : Rat) ^ e - 2 ^ e / 2 ≤ (Spread.ofParts m e).low ∧
        (Spread.ofParts m e).high = m * (2 : Rat) ^ e + 2 ^ e / 2 := by
    refine ⟨?_, rfl⟩
    simp only [Spread.ofParts]
    split <;> linarith
  have hBetween :
      (Spread.ofParts m e).low ≤ q ∧ q ≤ (Spread.ofParts m e).high := by
    unfold Spread.holds at hHolds
    split at hHolds
    · simpa only [Bool.and_eq_true, decide_eq_true_eq] using hHolds
    · simp only [Bool.and_eq_true, decide_eq_true_eq] at hHolds
      exact ⟨hHolds.1.le, hHolds.2.le⟩
  rw [abs_le]
  constructor <;> linarith [hEnds.1, hEnds.2, hBetween.1, hBetween.2]

/- The decimal of a double has the sign of the double. -/
theorem shortest_negative
    (negative : Bool)
    (m : Nat)
    (e : Int) :
    (shortest negative m e).negative = negative := by
  unfold shortest
  split
  · rfl
  · split <;> rfl

/- The search for the decimal of a double finds one in its interval. -/
theorem shortest_holds
    (negative : Bool)
    {m : Nat}
    {e : Int}
    (hPos : 0 < m)
    (hCanonical : IsCanonical m e)
    (hRange : e ≤ 971) :
    (Spread.ofParts m e).holds (shortest negative m e).magnitude =
      true := by
  have hStep : (0 : Rat) < 2 ^ e := zpow_pos (by norm_num) e
  have hFine := grid_below_step hCanonical hRange
  have hFound :
      (firstGrid? (Spread.ofParts m e) 24 (coarsestGrid m e)).isSome =
        true := by
    refine firstGrid?_isSome 23 ?_ (by norm_num)
    apply onGrid?_isSome
    · simp only [Spread.ofParts]
      positivity
    · simp only [Spread.ofParts]
      split <;> linarith
    · simp only [Spread.ofParts]
      push_cast
      linarith
  rcases Option.isSome_iff_exists.mp hFound with ⟨⟨c, grid⟩, hGrid⟩
  have hShortest : shortest negative m e = ⟨negative, c, grid⟩ := by
    rw [shortest, if_neg (Nat.pos_iff_ne_zero.mp hPos), hGrid]
  rw [hShortest]
  exact firstGrid?_holds hGrid

/- The decimal of a double is half a step away from it at most. -/
theorem shortest_close
    (negative : Bool)
    {m : Nat}
    {e : Int}
    (hPos : 0 < m)
    (hCanonical : IsCanonical m e)
    (hRange : e ≤ 971) :
    |(shortest negative m e).magnitude - m * 2 ^ e| ≤ 2 ^ e / 2 :=
  ofParts_holds_close (shortest_holds negative hPos hCanonical hRange)

/- Half a step of a double is small next to the double. -/
theorem half_step_small
    {m : Nat}
    {e : Int}
    (hCanonical : IsCanonical m e) :
    (2 : Rat) ^ e / 2 ≤ m * 2 ^ e / 2 ^ 53 + halfLeast := by
  have hStep : (0 : Rat) < 2 ^ e := zpow_pos (by norm_num) e
  have hHalf := halfLeast_pos
  rcases hCanonical.full with hFull | hLast
  · have hCast : (2 : Rat) ^ 52 ≤ m := by exact_mod_cast hFull
    have hMore := mul_le_mul_of_nonneg_right hCast hStep.le
    linarith
  · subst hLast
    rw [least_eq]
    have hMore : 0 ≤ (m : Rat) * (2 * halfLeast) / 2 ^ 53 := by positivity
    linarith

/- A double with a shortest decimal has parts, and is finite. -/
theorem exists_of_shortest?
    {x : Float}
    {d : Decimal}
    (hShortest : shortest? x = some d) :
    ∃ negative m e,
      Binary.ofFloat x = .finite negative m e ∧
        d = shortest negative m e := by
  unfold shortest? at hShortest
  cases hFloat : Binary.ofFloat x with
  | nan =>
      rw [hFloat] at hShortest
      cases hShortest
  | infinite negative =>
      rw [hFloat] at hShortest
      cases hShortest
  | finite negative m e =>
      rw [hFloat] at hShortest
      cases hShortest
      exact ⟨negative, m, e, rfl, rfl⟩

/- A finite double has a shortest decimal, which is near it. -/
theorem shortest?_near
    {x : Float}
    {q : Rat}
    (hValue : exactValue? x = some q) :
    ∃ d, shortest? x = some d ∧ Near d.toRat q := by
  rcases parts_of_exactValue? hValue with
    ⟨negative, m, e, hFloat, hExact, hParts⟩
  have hFound : shortest? x = some (shortest negative m e) := by
    rw [shortest?, hFloat]
  refine ⟨_, hFound, ?_⟩
  have hNear : Near (shortest negative m e).magnitude (m * 2 ^ e) := by
    rcases Nat.eq_zero_or_pos m with hZero | hPos
    · subst hZero
      simp only [shortest, magnitude, if_true, Nat.cast_zero, zero_mul]
      exact Near.refl 0
    · rcases hParts.resolve_left (Nat.pos_iff_ne_zero.mp hPos) with
        ⟨hCanonical, hRange⟩
      have hClose := shortest_close negative hPos hCanonical hRange
      have hStep : (0 : Rat) ≤ m * 2 ^ e :=
        mul_nonneg (Nat.cast_nonneg m) (zpow_pos (by norm_num) e).le
      rw [Near, abs_of_nonneg hStep]
      exact hClose.trans (half_step_small hCanonical)
  rw [hExact, toRat, shortest_negative]
  cases negative with
  | true => exact hNear.neg
  | false => exact hNear

end Decimal

end Joinery
