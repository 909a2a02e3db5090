import Joinery.Number.Arithmetic

/-
  This file computes the depths of the passes of a cut.

  Key definitions include:
    * `maxPasses`
    * `passCount`
    * `passDepths`
-/

namespace Joinery

/- No cut takes more passes than this. -/
def maxPasses : Nat := 1000

/- The slack that is used where none is given. -/
def standardTolerance : Value := .float 0.001

/- Both step and width must be finite; the step is looked at first. -/
def bothFinite
    (radius width : Value) : Outcome Bool := do
  if ← (← radius.asNumber).isFinite then
    (← width.asNumber).isFinite
  else return false

/-
  How many passes a cut takes: one at least, and no more
  than it needs to come within the tolerance of the width.
-/
def passCount
    (radius width tolerance : Value) : Outcome Nat := do
  if !(← bothFinite radius width) then
    fail (.depthsNotFinite radius width)
  let r ← radius.asNumber
  if r.atMost (.int 0) then fail (.radiusNotPositive radius)
  let w ← width.asNumber
  let t ← tolerance.asNumber
  let steps ← (← w.sub t).div r
  if Number.less (.int maxPasses) steps then
    fail (.tooManyPasses width radius maxPasses)
  return max 1 (← steps.ceiling).toNat

/- The first so many multiples of a step. -/
def multiples
    (step : Number)
    (count : Nat) : Outcome (List Number) :=
  (List.range count).mapM fun (k : Nat) =>
    (Number.int (k + 1)).mul step

/-
  The depths of the passes: one step, two steps, and so on,
  through the first depth that reaches the width or comes
  within the tolerance of it.
-/
def passDepths
    (radius width tolerance : Value) : Outcome (List Number) := do
  let count ← passCount radius width tolerance
  multiples (← radius.asNumber) count

end Joinery
