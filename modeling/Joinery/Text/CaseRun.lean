/-
  This file defines runs of letters, the shape in which the
  other case of letters is tabulated.

  Key definitions include:
    * `CaseRun`
    * `CaseRun.image?`
    * `CaseRun.imageIn?`
-/

namespace Joinery

namespace Text

/-
  Letters at equal distances, from `first` to `last` in
  steps of `step`, whose images in the other case lie at the
  same distances from `image` on.
-/
structure CaseRun where
  first : Nat
  last : Nat
  step : Nat
  image : Nat
  deriving DecidableEq, Repr

namespace CaseRun

/- The image of a letter under one run, if the run has it. -/
def image?
    (run : CaseRun)
    (n : Nat) : Option Nat :=
  if run.first ≤ n ∧ n ≤ run.last ∧ (n - run.first) % run.step = 0 then
    some (run.image + (n - run.first))
  else none

/- The image of a letter under the first run that has it. -/
def imageIn?
    (runs : List CaseRun)
    (n : Nat) : Option Nat :=
  runs.findSome? fun run => run.image? n

end CaseRun

end Text

end Joinery
