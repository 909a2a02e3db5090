import Joinery.Decimal.Basic

/-
  This file takes doubles apart into exact numbers and
  rounds exact numbers to the nearest double.

  Key definitions include:
    * `Binary`
    * `Binary.ofFloat`
    * `exactValue?`
    * `nearestDouble`
    * `isFinite`
    * `isNegative`
-/

namespace Joinery

------------------------------------------------------------
-- Doubles As Exact Numbers
------------------------------------------------------------

/-
  What a double denotes: no number, an infinity, or the
  exact number `± significand · 2 ^ exponent`.
-/
inductive Binary where
  | nan
  | infinite
      (negative : Bool)
  | finite
      (negative : Bool)
      (significand : Nat)
      (exponent : Int)
  deriving DecidableEq, Repr

namespace Binary

/- Take a double apart. Zeros have significand zero. -/
def ofFloat
    (x : Float) : Binary :=
  match x.toModel.unpack with
  | .notANumber => .nan
  | .infinity .negative => .infinite true
  | .infinity .positive => .infinite false
  | .zero .negative => .finite true 0 0
  | .zero .positive => .finite false 0 0
  | .finite .negative m e _ => .finite true m e
  | .finite .positive m e _ => .finite false m e

end Binary

namespace Decimal

/- The exact number denoted by a finite double. -/
def exactValue?
    (x : Float) : Option Rat :=
  match Binary.ofFloat x with
  | .finite negative m e =>
      let size : Rat := m * (2 : Rat) ^ e
      some (if negative then -size else size)
  | _ => none

/- A double that is neither infinite nor NaN. -/
def isFinite
    (x : Float) : Bool :=
  match Binary.ofFloat x with
  | .finite _ _ _ => true
  | _ => false

/- The sign bit of a double; NaN counts as positive. -/
def isNegative
    (x : Float) : Bool :=
  match Binary.ofFloat x with
  | .nan => false
  | .infinite negative => negative
  | .finite negative _ _ => negative

------------------------------------------------------------
-- Rounding To Doubles
------------------------------------------------------------

/- The double quotient of two exact integers, the divisor positive. -/
def nearestQuotient
    (sign : Float.Model.UnpackedFloat.Sign)
    (num den : Nat)
    (hNum : 0 < num)
    (hDen : 0 < den) : Float :=
  Float.ofModel
    (Float.Model.pack
      (Float.Model.UnpackedFloat.div
        Float.Model.Format.binary64
        (.finite sign num 0 hNum)
        (.finite .positive den 0 hDen)))

/-
  The double nearest to an exact number, a tie going to the
  even significand. Beyond the largest double this is an
  infinity; a number too small for any double keeps its sign.
-/
def nearestDouble
    (q : Rat) : Float :=
  if hNum : 0 < q.num.natAbs then
    nearestQuotient
      (if q.num < 0 then .negative else .positive)
      q.num.natAbs q.den hNum q.den_pos
  else 0.0

/-
  Read a decimal as a double. Exponents far outside the
  range of doubles are decided by their size alone, so that
  no huge power of ten is computed.
-/
def toDouble
    (d : Decimal) : Float :=
  let size :=
    if d.coefficient = 0 then 0.0
    else if d.exponent + digitCount d.coefficient > 400 then
      1.0 / 0.0
    else if d.exponent + digitCount d.coefficient < -400 then
      0.0
    else nearestDouble d.magnitude
  if d.negative then -size else size

end Decimal

end Joinery
