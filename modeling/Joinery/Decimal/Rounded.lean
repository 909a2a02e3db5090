import Joinery.Decimal.Written

/-
  This file writes numbers with a fixed count of decimal
  places.

  Key definitions include:
    * `Tie`
    * `roundMagnitude`
    * `fixedText`
-/

namespace Joinery

namespace Decimal

------------------------------------------------------------
-- Rounding
------------------------------------------------------------

/- Where a number half way between two neighbours goes. -/
inductive Tie where
  | awayFromZero
  | toEven
  deriving DecidableEq, Repr

/- The natural number nearest to a magnitude. -/
def roundMagnitude
    (tie : Tie)
    (q : Rat) : Nat :=
  let below := q.floor.toNat
  let rest := q - below
  if rest < 1 / 2 then below
  else if 1 / 2 < rest then below + 1
  else
    match tie with
    | .awayFromZero => below + 1
    | .toEven => below + below % 2

------------------------------------------------------------
-- Fixed Places
------------------------------------------------------------

/- A count of units `10 ^ -places` as digits with a point. -/
def pointed
    (places : Nat)
    (units : Nat) : List Char :=
  let ds := padLeft (places + 1) (digits units)
  if places = 0 then ds
  else
    ds.take (ds.length - places) ++
      '.' :: ds.drop (ds.length - places)

/-
  A signed magnitude with `places` decimal places. The sign
  is kept even where everything else rounds to zero.
-/
def fixedText
    (tie : Tie)
    (places : Nat)
    (negative : Bool)
    (magnitude : Rat) : List Char :=
  let body :=
    pointed places
      (roundMagnitude tie (magnitude * (10 : Rat) ^ places))
  if negative then '-' :: body else body

end Decimal

end Joinery
