/-
  This file defines decimal numbers in scientific form, the
  common ground between the text of a number and its value.

  Key definitions include:
    * `Decimal`
    * `Decimal.toRat`
    * `Decimal.digitCount`
    * `Decimal.digitLimit`
-/

namespace Joinery

------------------------------------------------------------
-- Decimals
------------------------------------------------------------

/-
  A signed decimal `± coefficient · 10 ^ exponent`. The sign
  is kept apart so that a zero can be negative.
-/
structure Decimal where
  negative : Bool
  coefficient : Nat
  exponent : Int
  deriving DecidableEq, Repr

namespace Decimal

/- The magnitude denoted by a decimal. -/
def magnitude
    (d : Decimal) : Rat :=
  d.coefficient * (10 : Rat) ^ d.exponent

/- The number denoted by a decimal. -/
def toRat
    (d : Decimal) : Rat :=
  if d.negative then -d.magnitude else d.magnitude

/- The decimal digits of a natural number, most significant first. -/
def digits
    (n : Nat) : List Char :=
  (toString n).toList

/- How many decimal digits a natural number is written with. -/
def digitCount
    (n : Nat) : Nat :=
  (digits n).length

/-
  The longest integer that is converted to or from decimal
  text, in digits.
-/
def digitLimit : Nat := 4300

/- An integer with more digits than the limit has no text. -/
def exceedsLimit
    (n : Int) : Bool :=
  Nat.pow 10 digitLimit ≤ n.natAbs

end Decimal

end Joinery
