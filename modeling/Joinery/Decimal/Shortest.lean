import Joinery.Decimal.Binary

/-
  This file selects the shortest decimal that reads back as
  a given double, and among the shortest the nearest one.

  Key definitions include:
    * `Spread`
    * `Spread.ofParts`
    * `Spread.onGrid?`
    * `shortest`
-/

namespace Joinery

namespace Decimal

------------------------------------------------------------
-- Rounding Intervals
------------------------------------------------------------

/-
  The numbers that round to one double: from `low` to
  `high`, the ends included when `closed`, around `centre`.
-/
structure Spread where
  centre : Rat
  low : Rat
  high : Rat
  closed : Bool

namespace Spread

/-
  The interval of `m · 2 ^ e`. Its ends lie half way to the
  neighbours; below a power of two the neighbour is twice
  as near, except at the least exponent. A tie goes to the
  even significand, so the ends belong to an even `m`.
-/
def ofParts
    (m : Nat)
    (e : Int) : Spread :=
  let step : Rat := (2 : Rat) ^ e
  let below : Rat :=
    if m = 0x10000000000000 ∧ e > -1074 then step / 4 else step / 2
  { centre := m * step
    low := m * step - below
    high := m * step + step / 2
    closed := m % 2 = 0 }

/- Membership in the interval. -/
def holds
    (s : Spread)
    (q : Rat) : Bool :=
  if s.closed then
    decide (s.low ≤ q) && decide (q ≤ s.high)
  else
    decide (s.low < q) && decide (q < s.high)

/-
  The multiple of `10 ^ k` in the interval that is nearest
  to the centre, a tie going to the even multiple. Only the
  two multiples around the centre can be nearest.
-/
def onGrid?
    (s : Spread)
    (k : Int) : Option Nat :=
  let unit : Rat := (10 : Rat) ^ k
  let below := (s.centre / unit).floor.toNat
  let above := below + 1
  let belowIn := 0 < below && s.holds (below * unit)
  let aboveIn := s.holds (above * unit)
  if belowIn && aboveIn then
    let down := s.centre - below * unit
    let up := above * unit - s.centre
    if down < up then some below
    else if up < down then some above
    else if below % 2 = 0 then some below
    else some above
  else if belowIn then some below
  else if aboveIn then some above
  else none

end Spread

------------------------------------------------------------
-- Shortest Decimals
------------------------------------------------------------

/-
  A power of ten above every number with significand `m`
  and binary exponent `e`.
-/
def coarsestGrid
    (m : Nat)
    (e : Int) : Int :=
  ((Nat.log2 m : Int) + 1 + e) * 30103 / 100000 + 1

/-
  The first of the grids `10 ^ k`, `10 ^ (k - 1)`, … that
  meets the interval. Coarser grids have fewer digits.
-/
def firstGrid?
    (s : Spread) : Nat → Int → Option (Nat × Int)
  | 0, _ => none
  | tries + 1, k =>
      match s.onGrid? k with
      | some c => some (c, k)
      | none => firstGrid? s tries (k - 1)

/-
  The decimal with the fewest digits among those that read
  back as the finite double `± m · 2 ^ e`, the nearest of
  them to its exact value. Seventeen digits always suffice.
-/
def shortest
    (negative : Bool)
    (m : Nat)
    (e : Int) : Decimal :=
  if m = 0 then ⟨negative, 0, 0⟩
  else
    match firstGrid? (Spread.ofParts m e) 24 (coarsestGrid m e) with
    | some (c, k) => ⟨negative, c, k⟩
    | none => ⟨negative, 0, 0⟩

/- The shortest decimal of a finite double. -/
def shortest?
    (x : Float) : Option Decimal :=
  match Binary.ofFloat x with
  | .finite negative m e => some (shortest negative m e)
  | _ => none

end Decimal

end Joinery
