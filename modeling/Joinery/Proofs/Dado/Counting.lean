import Joinery.Proofs.Dado.Depths
import Joinery.Proofs.Double.Rounding
import Joinery.Proofs.Yields

/-
  For exact numbers the passes of a cut are counted exactly.
  The depths are the multiples of the step up to the first
  one that reaches the width, less the tolerance. They are
  refused only if the step is not positive or if there are
  more of them than a cut may take.

  Key definitions include:
    * `DescendsTo`

  Key theorems include:
    * `ReachesFirst.ofCeil`
    * `passCount_exact`
    * `passDepths_exact`
-/

namespace Joinery

open Double (rangeEnd)

------------------------------------------------------------
-- The First Multiple That Reaches
------------------------------------------------------------

/- The least positive number of steps that reach a depth. -/
structure ReachesFirst
    (step reach : Rat)
    (count : Nat) : Prop where
  atLeastOne : 1 ≤ count
  reaches : reach ≤ count * step
  first : ∀ n : Nat, 0 < n → reach ≤ n * step → count ≤ n

namespace ReachesFirst

variable {step reach : Rat}
variable {count : Nat}

/- The ratio of a depth to a step, rounded up, is that number of steps. -/
theorem ofCeil
    (hPos : 0 < step) :
    ReachesFirst step reach (max 1 (reach / step).ceil.toNat) where
  atLeastOne := le_max_left _ _
  reaches := by
    have hCeil : reach / step ≤ (reach / step).ceil := Rat.le_ceil
    have hCast :
        ((reach / step).ceil : Rat) ≤
          (max 1 (reach / step).ceil.toNat : Nat) := by
      have hMost :
          (reach / step).ceil ≤
            ((max 1 (reach / step).ceil.toNat : Nat) : Int) := by
        omega
      exact_mod_cast hMost
    exact (div_le_iff₀ hPos).mp (hCeil.trans hCast)
  first n hSome hReach := by
    have hCeil : (reach / step).ceil ≤ n := by
      rw [Rat.ceil_le_iff]
      exact_mod_cast (div_le_iff₀ hPos).mpr hReach
    omega

/- One step less does not reach, if there is more than one. -/
theorem short
    (hFirst : ReachesFirst step reach count)
    (hMore : 1 < count) :
    ((count - 1 : Nat) : Rat) * step < reach := by
  rw [← not_le]
  intro hReach
  have hLeast := hFirst.first (count - 1) (by omega) hReach
  omega

end ReachesFirst

------------------------------------------------------------
-- Multiples
------------------------------------------------------------

/- The first so many multiples of a step, as exact numbers. -/
def exactMultiples
    (step : Rat)
    (count : Nat) : List Rat :=
  (List.range count).map fun k => ((k + 1 : Nat) : Rat) * step

theorem length_exactMultiples
    (step : Rat)
    (count : Nat) :
    (exactMultiples step count).length = count := by
  rw [exactMultiples, List.length_map, List.length_range]

/- The multiples of an exact step are exact. -/
theorem multiples_ratio
    (step : Rat)
    (count : Nat) :
    multiples (.ratio step) count =
      .ok ((exactMultiples step count).map .ratio) := by
  have hMul :
      ∀ k : Nat, (Number.int (k + 1)).mul (.ratio step) =
        .ok (.ratio (((k + 1 : Nat) : Rat) * step)) := fun k => rfl
  have hEach :
      ∀ ks : List Nat,
        (ks.mapM fun (k : Nat) => (Number.int (k + 1)).mul (.ratio step)) =
          .ok ((ks.map fun k => ((k + 1 : Nat) : Rat) * step).map
            .ratio) := by
    intro ks
    induction ks with
    | nil => rfl
    | cons k rest ih =>
        rw [List.mapM_cons, hMul, ih]
        rfl
  exact hEach (List.range count)

/- Multiples of a positive step increase. -/
theorem exactMultiples_increasing
    {step : Rat}
    (hPos : 0 < step)
    (count : Nat) :
    (exactMultiples step count).Pairwise (· < ·) := by
  rw [exactMultiples, List.pairwise_map]
  refine List.pairwise_lt_range.imp fun {j k} hLess => ?_
  have hCast : ((j + 1 : Nat) : Rat) < (k + 1 : Nat) := by
    exact_mod_cast Nat.succ_lt_succ hLess
  exact mul_lt_mul_of_pos_right hCast hPos

theorem exactMultiples_positive
    {step : Rat}
    (hPos : 0 < step)
    {count : Nat}
    {depth : Rat}
    (hMem : depth ∈ exactMultiples step count) :
    0 < depth := by
  rcases List.mem_map.mp hMem with ⟨k, -, rfl⟩
  exact mul_pos (by exact_mod_cast Nat.succ_pos k) hPos

------------------------------------------------------------
-- Exact Depths
------------------------------------------------------------

/- An exact number in range is found finite. -/
theorem Number.isFinite_ratio
    {q : Rat}
    (hRange : |q| < rangeEnd) :
    (Number.ratio q).isFinite = .ok true := by
  have hFinite : Decimal.isFinite (Decimal.nearestDouble q) = true :=
    (isFinite_iff _).mpr (Double.nearestDouble_finite hRange)
  rw [isFinite, toDouble, nearestInRange, hFinite]
  simp only [if_true, Except.map, hFinite]

/- The passes for exact numbers in range are counted exactly. -/
theorem passCount_exact
    {radius width : Rat}
    (hRadius : |radius| < rangeEnd)
    (hWidth : |width| < rangeEnd)
    (tolerance : Rat) :
    passCount (.ratio radius) (.ratio width) (.ratio tolerance) =
      if radius ≤ 0 then fail (.radiusNotPositive (.ratio radius))
      else if 1000 < (width - tolerance) / radius then
        fail (.tooManyPasses (.ratio width) (.ratio radius) 1000)
      else .ok (max 1 ((width - tolerance) / radius).ceil.toNat) := by
  have hFinite :
      bothFinite (.ratio radius) (.ratio width) = .ok true := by
    simp only [bothFinite, Value.asNumber, Value.number?, Outcome.ok_bind,
      Number.isFinite_ratio hRadius, Number.isFinite_ratio hWidth, if_true]
  have hAtMost :
      (Number.ratio radius).atMost (.int 0) = true ↔ radius ≤ 0 := by
    exact_mod_cast
      Number.atMost_iff (rfl : (Number.ratio radius).place = _)
        (Number.place_int 0)
  simp only [passCount, hFinite, Outcome.ok_bind, Bool.not_true,
    Bool.false_eq_true, if_false, Value.asNumber, Value.number?, hAtMost]
  split
  · rfl
  · rename_i hPos
    have hSome : radius ≠ 0 := fun hZero => hPos hZero.le
    have hSteps :
        (Number.ratio (width - tolerance)).div (.ratio radius) =
          .ok (.ratio ((width - tolerance) / radius)) := by
      rw [Number.div, Number.divRatios, if_neg hSome]
    have hLess :
        Number.less (.int maxPasses)
            (.ratio ((width - tolerance) / radius)) = true ↔
          1000 < (width - tolerance) / radius := by
      exact_mod_cast
        Number.less_iff (Number.place_int maxPasses)
          (rfl :
            (Number.ratio ((width - tolerance) / radius)).place = _)
    simp only [Number.sub, Number.combine, Outcome.ok_bind, hSteps, hLess,
      Number.ceiling]
    rfl

/-
  Depths go down to a depth that is to be reached: they are
  the multiples of a positive step up to the first one that
  reaches it, and no more than a cut may take.
-/
structure DescendsTo
    (step reach : Rat)
    (depths : List Rat) : Prop where
  multiples : depths = exactMultiples step depths.length
  first : ReachesFirst step reach depths.length
  few : depths.length ≤ 1000
  short :
    1 < depths.length →
      ∀ depth ∈ depths[depths.length - 2]?, depth < reach
  overshoot :
    1 < depths.length →
      ∀ depth ∈ depths.getLast?, depth - reach < step
  increasing : depths.Pairwise (· < ·)
  positive : ∀ depth ∈ depths, 0 < depth

/- The multiples up to the first one that reaches go down to it. -/
theorem ReachesFirst.descends
    {step reach : Rat}
    {count : Nat}
    (hFirst : ReachesFirst step reach count)
    (hPos : 0 < step)
    (hFew : count ≤ 1000) :
    DescendsTo step reach (exactMultiples step count) := by
  have hLength := length_exactMultiples step count
  have hSome := hFirst.atLeastOne
  have hPlace :
      ∀ k, k < count →
        (exactMultiples step count)[k]? =
          some (((k + 1 : Nat) : Rat) * step) := by
    intro k hLess
    rw [exactMultiples, List.getElem?_map, List.getElem?_range hLess]
    rfl
  constructor
  case multiples => rw [hLength]
  case first => rwa [hLength]
  case few => rwa [hLength]
  case short =>
    rw [hLength]
    intro hMore depth hMem
    rw [hPlace _ (by omega), show count - 2 + 1 = count - 1 by omega]
      at hMem
    cases hMem
    exact hFirst.short hMore
  case overshoot =>
    rw [hLength]
    intro hMore depth hMem
    rw [List.getLast?_eq_getElem?, hLength, hPlace _ (by omega),
      show count - 1 + 1 = count by omega] at hMem
    cases hMem
    have hShort := hFirst.short hMore
    have hCast : (count : Rat) = (count - 1 : Nat) + 1 := by
      exact_mod_cast (by omega : count = count - 1 + 1)
    rw [hCast]
    linarith
  case increasing => exact exactMultiples_increasing hPos count
  case positive => exact fun depth hMem => exactMultiples_positive hPos hMem

/- A refusal of a value is reported as one, whatever it shows. -/
theorem Fault.reported_value
    {fault : Fault}
    (hValue : fault.family = .value) :
    fault.reported.family = .value := by
  rcases fault.family_reported with hReported | hSame
  · exact hReported
  · rw [hSame]
    exact hValue

/-
  The depths for exact numbers in range are refused exactly
  if the step is not positive, or the ratio of what is to be
  reached to the step is above a thousand. Otherwise there
  are depths, and they go down to what is to be reached.
-/
theorem passDepths_exact
    (radius width tolerance : Rat)
    (hRadius : |radius| < rangeEnd)
    (hWidth : |width| < rangeEnd) :
    ((∃ fault,
        passDepths (.ratio radius) (.ratio width) (.ratio tolerance) =
            .error fault ∧
          fault.family = .value) ↔
      radius ≤ 0 ∨ 1000 < (width - tolerance) / radius) ∧
    (¬ (radius ≤ 0 ∨ 1000 < (width - tolerance) / radius) →
      ∃ depths,
        passDepths (.ratio radius) (.ratio width) (.ratio tolerance) =
            .ok (depths.map .ratio) ∧
          DescendsTo radius (width - tolerance) depths) := by
  have hCount := passCount_exact hRadius hWidth tolerance
  by_cases hRefused :
      radius ≤ 0 ∨ 1000 < (width - tolerance) / radius
  · refine ⟨iff_of_true ?_ hRefused, fun hUsable => absurd hRefused hUsable⟩
    by_cases hLow : radius ≤ 0
    · rw [if_pos hLow] at hCount
      rw [passDepths, hCount]
      exact ⟨_, rfl, Fault.reported_value rfl⟩
    · rw [if_neg hLow, if_pos (hRefused.resolve_left hLow)] at hCount
      rw [passDepths, hCount]
      exact ⟨_, rfl, Fault.reported_value rfl⟩
  · rcases not_or.mp hRefused with ⟨hLow, hFew⟩
    have hPos : 0 < radius := not_le.mp hLow
    have hFirst : ReachesFirst radius (width - tolerance) _ := .ofCeil hPos
    have hMost :
        max 1 ((width - tolerance) / radius).ceil.toNat ≤ 1000 := by
      have hCeil : ((width - tolerance) / radius).ceil ≤ 1000 := by
        rw [Rat.ceil_le_iff]
        exact_mod_cast not_lt.mp hFew
      omega
    rw [if_neg hLow, if_neg hFew] at hCount
    have hDepths :
        passDepths (.ratio radius) (.ratio width) (.ratio tolerance) =
          multiples (.ratio radius)
            (max 1 ((width - tolerance) / radius).ceil.toNat) := by
      rw [passDepths, hCount]
      rfl
    rw [multiples_ratio] at hDepths
    refine ⟨iff_of_false ?_ hRefused, fun _ =>
      ⟨_, hDepths, hFirst.descends hPos hMost⟩⟩
    rintro ⟨fault, hFault, -⟩
    rw [hDepths] at hFault
    cases hFault

/-
  A cut that takes a thousand passes goes down to its width,
  and one that is a step deeper is refused.
-/
theorem passDepths_exact_atLimit :
    (|(1 : Rat)| < rangeEnd ∧ |(1000 : Rat)| < rangeEnd ∧
      ∃ depths,
        passDepths (.ratio 1) (.ratio 1000) (.ratio 0) =
            .ok (depths.map .ratio) ∧
          DescendsTo 1 (1000 - 0) depths) ∧
    (|(1001 : Rat)| < rangeEnd ∧
      ∃ fault,
        passDepths (.ratio 1) (.ratio 1001) (.ratio 0) = .error fault ∧
          fault.family = .value) := by
  have hOne : |(1 : Rat)| < rangeEnd := by decide +kernel
  have hLimit : |(1000 : Rat)| < rangeEnd := by decide +kernel
  have hOver : |(1001 : Rat)| < rangeEnd := by decide +kernel
  refine ⟨⟨hOne, hLimit, ?_⟩, hOver, ?_⟩
  · exact (passDepths_exact 1 1000 0 hOne hLimit).2 (by norm_num)
  · exact (passDepths_exact 1 1001 0 hOne hOver).1.mpr (by norm_num)

end Joinery
