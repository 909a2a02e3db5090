import Joinery.Proofs.Number.Closeness
import Joinery.Proofs.Yields

/-
  Arithmetic fails with numbers that are out of the range of
  doubles, or with a division by zero.

  Key definitions include:
    * `Fault.IsOverflow`

  Key theorems include:
    * `Double.exactValue?_of_beq_zero`
    * `Number.toDouble_fails`
    * `Number.combine_fails`
    * `Number.halve_fails`
    * `Number.div_double_fails`
-/

namespace Joinery

/- A number is out of the range in which it is needed. -/
def Fault.IsOverflow
    (fault : Fault) : Prop :=
  fault.family = .overflow

theorem Fault.IsOverflow.isAmong
    {families : Family → Bool}
    (hFamilies : families .overflow = true)
    (fault : Fault)
    (hRange : fault.IsOverflow) :
    fault.IsAmong families := by
  unfold IsAmong
  rw [show fault.family = .overflow from hRange]
  exact hFamilies

/- A double that is equal to zero stands for zero. -/
theorem Double.exactValue?_of_beq_zero
    {x : Float}
    (hZero : (x == 0.0) = true) :
    Decimal.exactValue? x = some 0 := by
  have hSame :
      (x.toModel.unpack.compare (.zero .positive) == some .eq) = true :=
    hZero
  have hOrder := eq_of_beq hSame
  rw [exactValue?_eq]
  cases hUnpack : x.toModel.unpack with
  | notANumber =>
      rw [hUnpack] at hOrder
      cases hOrder
  | infinity s =>
      rw [hUnpack] at hOrder
      cases s <;> cases hOrder
  | zero s => rfl
  | finite s m e hPos =>
      rw [hUnpack] at hOrder
      cases s <;> cases hOrder

namespace Number

theorem nearestInRange_fails
    (q : Rat)
    {outOfRange : Fault}
    (hRange : outOfRange.reported.IsOverflow) :
    Fails Fault.IsOverflow (nearestInRange q outOfRange) := by
  unfold nearestInRange
  dsimp only
  split
  · exact Fails.ok _
  · exact Fails.error hRange

theorem toDouble_fails
    (a : Number) :
    Fails Fault.IsOverflow a.toDouble := by
  cases a with
  | int n => exact nearestInRange_fails n rfl
  | float x => exact Fails.ok x
  | ratio q => exact nearestInRange_fails q rfl

/- Sums, differences and products fail if an operand is out of range. -/
theorem combine_fails
    (rule : Rule)
    (a b : Number) :
    Fails Fault.IsOverflow (combine rule a b) := by
  have hDoubles :
      Fails Fault.IsOverflow
        (do
          let x ← a.toDouble
          let y ← b.toDouble
          return .float (rule.onDoubles x y) : Outcome Number) := by
    refine Fails.bind a.toDouble_fails fun x => ?_
    refine Fails.bind b.toDouble_fails fun y => ?_
    exact Fails.ok _
  cases a with
  | int m =>
      cases b with
      | int n => exact Fails.ok _
      | float y => exact hDoubles
      | ratio q => exact Fails.ok _
  | float x => exact hDoubles
  | ratio p =>
      cases b with
      | int n => exact Fails.ok _
      | float y => exact hDoubles
      | ratio q => exact Fails.ok _

/- A quotient of doubles fails only if the divisor stands for zero. -/
theorem divide_doubles_fails
    {y : Float}
    (hSome : Decimal.exactValue? y ≠ some 0)
    (x : Float) :
    Fails Fault.IsOverflow
      (if y == 0.0 then fail .divisionByZero
        else return .float (x / y) : Outcome Number) := by
  by_cases hZero : (y == 0.0) = true
  · exact absurd (Double.exactValue?_of_beq_zero hZero) hSome
  · rw [if_neg hZero]
    exact Fails.ok _

/- Half of a number fails if the number is out of range. -/
theorem halve_fails
    (a : Number) :
    Fails Fault.IsOverflow (a.div (.int 2)) := by
  cases a with
  | int n =>
      unfold div
      dsimp only
      rw [if_neg (by decide)]
      refine Fails.map (nearestInRange_fails _ ?_) _
      exact rfl
  | ratio q =>
      unfold div divRatios
      dsimp only
      rw [if_neg (by norm_num)]
      exact Fails.ok _
  | float x =>
      rcases toDouble_two with ⟨y, hTwo, hValue⟩
      unfold div
      dsimp only
      rw [hTwo]
      refine divide_doubles_fails ?_ x
      rw [hValue]
      simp

/- A quotient fails if the dividend is out of range, or the divisor is zero. -/
theorem div_double_fails
    (a : Number)
    {y : Float}
    (hSome : (Number.float y).place ≠ .finite 0) :
    Fails Fault.IsOverflow (a.div (.float y)) := by
  have hValue : Decimal.exactValue? y ≠ some 0 := by
    intro hZero
    exact hSome ((place_float_iff y 0).mpr hZero)
  have hDoubles :
      Fails Fault.IsOverflow
        (do
          let x ← a.toDouble
          let y ← (Number.float y).toDouble
          if y == 0.0 then fail .divisionByZero
          else return .float (x / y) : Outcome Number) := by
    refine Fails.bind a.toDouble_fails fun x => ?_
    exact divide_doubles_fails hValue x
  cases a with
  | int n => exact hDoubles
  | float x => exact hDoubles
  | ratio q => exact hDoubles

end Number

end Joinery
