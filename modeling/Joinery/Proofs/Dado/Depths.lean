import Joinery.Dado.Depths
import Joinery.Proofs.Number.Order

/-
  A cut takes one pass at least and a thousand at most, and
  its passes are as deep as the first multiples of a step.

  Key theorems include:
    * `passCount_spec`
    * `passCount_bounds`
    * `passDepths_spec`
-/

namespace Joinery

------------------------------------------------------------
-- Counting Passes
------------------------------------------------------------

/- What is found finite is a finite number. -/
theorem bothFinite_spec
    {radius width : Value}
    (hFinite : bothFinite radius width = .ok true) :
    ∃ r w p q, radius.asNumber = .ok r ∧ width.asNumber = .ok w ∧
      r.place = .finite p ∧ w.place = .finite q := by
  rw [bothFinite, Outcome.bind_eq_ok_iff] at hFinite
  rcases hFinite with ⟨r, hRadius, hRest⟩
  rw [Outcome.bind_eq_ok_iff] at hRest
  rcases hRest with ⟨first, hFirst, hRest⟩
  cases first with
  | false => cases hRest
  | true =>
      simp only [if_true] at hRest
      rcases Outcome.bind_eq_ok_iff.mp hRest with ⟨w, hWidth, hSecond⟩
      rcases Number.finite_of_isFinite hFirst with ⟨p, hPlace⟩
      rcases Number.finite_of_isFinite hSecond with ⟨q, hOther⟩
      exact ⟨r, w, p, q, hRadius, hWidth, hPlace, hOther⟩

/-
  A count of passes is that of the steps that come within
  the tolerance of the width, and the step is positive.
-/
theorem passCount_spec
    {radius width tolerance : Value}
    {count : Nat}
    (hCount : passCount radius width tolerance = .ok count) :
    bothFinite radius width = .ok true ∧
      ∃ r w t reach steps n, radius.asNumber = .ok r ∧
        width.asNumber = .ok w ∧ tolerance.asNumber = .ok t ∧
        r.atMost (.int 0) = false ∧ w.sub t = .ok reach ∧
        reach.div r = .ok steps ∧
        Number.less (.int maxPasses) steps = false ∧
        steps.ceiling = .ok n ∧ count = max 1 n.toNat := by
  rw [passCount, Outcome.bind_eq_ok_iff] at hCount
  rcases hCount with ⟨finite, hFinite, hRest⟩
  cases finite with
  | false => cases hRest
  | true =>
      simp only [Bool.not_true, Bool.false_eq_true, if_false] at hRest
      rcases Outcome.bind_eq_ok_iff.mp hRest with ⟨r, hRadius, hRest⟩
      split at hRest
      · cases hRest
      · rename_i hPositive
        rcases Outcome.bind_eq_ok_iff.mp hRest with ⟨w, hWidth, hRest⟩
        rcases Outcome.bind_eq_ok_iff.mp hRest with
          ⟨t, hTolerance, hRest⟩
        rcases Outcome.bind_eq_ok_iff.mp hRest with ⟨reach, hReach, hRest⟩
        rcases Outcome.bind_eq_ok_iff.mp hRest with ⟨steps, hSteps, hRest⟩
        split at hRest
        · cases hRest
        · rename_i hFew
          rcases Outcome.bind_eq_ok_iff.mp hRest with ⟨n, hCeiling, hEnd⟩
          cases hEnd
          exact ⟨hFinite, r, w, t, reach, steps, n, hRadius, hWidth,
            hTolerance, Bool.eq_false_iff.mpr hPositive, hReach, hSteps,
            Bool.eq_false_iff.mpr hFew, hCeiling, rfl⟩

/- A cut takes one pass at least, and no more than it may. -/
theorem passCount_bounds
    {radius width tolerance : Value}
    {count : Nat}
    (hCount : passCount radius width tolerance = .ok count) :
    1 ≤ count ∧ count ≤ maxPasses := by
  rcases passCount_spec hCount with
    ⟨-, r, w, t, reach, steps, n, -, -, -, -, -, -, hFew, hCeiling, rfl⟩
  rcases Number.ceiling_eq_ok_iff.mp hCeiling with ⟨q, hPlace, rfl⟩
  have hMost : q ≤ maxPasses := by
    rw [← not_lt]
    intro hMore
    have hLess := (Number.less_iff (Number.place_int maxPasses)
      hPlace).mpr hMore
    rw [hFew] at hLess
    cases hLess
  have hCeil : q.ceil ≤ maxPasses := Rat.ceil_le_iff.mpr hMost
  have hMany : (1 : Nat) ≤ maxPasses := by decide
  omega

------------------------------------------------------------
-- Depths Of Passes
------------------------------------------------------------

/-
  There are as many depths as passes, and each is a multiple
  of the step: one step, two steps, and so on.
-/
theorem passDepths_spec
    {radius width tolerance : Value}
    {depths : List Number}
    (hDepths : passDepths radius width tolerance = .ok depths) :
    passCount radius width tolerance = .ok depths.length ∧
      ∃ r, radius.asNumber = .ok r ∧
        ∀ k, (hPass : k < depths.length) →
          (Number.int (k + 1)).mul r = .ok depths[k] := by
  rw [passDepths, Outcome.bind_eq_ok_iff] at hDepths
  rcases hDepths with ⟨count, hCount, hRest⟩
  rw [Outcome.bind_eq_ok_iff] at hRest
  rcases hRest with ⟨r, hRadius, hMultiples⟩
  rcases List.forall₂_iff_get.mp
      (Outcome.forall₂_of_mapM hMultiples) with
    ⟨hLength, hEach⟩
  rw [List.length_range] at hLength
  subst hLength
  refine ⟨hCount, r, hRadius, fun k hPass => ?_⟩
  have hPlace := hEach k (by rw [List.length_range]; exact hPass) hPass
  simpa using hPlace

end Joinery
