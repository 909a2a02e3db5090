import Joinery.Decimal.Reading
import Joinery.Fault
import Joinery.Number.Basic
import Joinery.Value.Equal

/-
  This file calculates with numbers of three kinds. Integers
  and ratios stay exact among themselves; a double makes
  every result a double.

  Key definitions include:
    * `Number.readInteger`
    * `Number.toDouble`
    * `Number.add`
    * `Number.sub`
    * `Number.mul`
    * `Number.div`
    * `Number.ceiling`
    * `Value.asNumber`
-/

namespace Joinery

namespace Number

------------------------------------------------------------
-- Integers
------------------------------------------------------------

/-
  The integer that digits with a sign before them denote.
  Integers that are written out have a limit on their
  length.
-/
def readInteger
    (cs : List Char) : Outcome Int :=
  let (negative, ds) := Decimal.splitSign cs
  if Decimal.digitLimit < ds.length then
    fail (.numeralTooLong ds.length)
  else
    let n : Int := Decimal.naturalOf ds
    .ok (if negative then -n else n)

------------------------------------------------------------
-- Doubles
------------------------------------------------------------

/- The double nearest to an exact number, if it is in range. -/
def nearestInRange
    (q : Rat)
    (outOfRange : Fault) : Outcome Float :=
  let x := Decimal.nearestDouble q
  if Decimal.isFinite x then .ok x else fail outOfRange

/- The double nearest to a number, if it is in range. -/
def toDouble : Number → Outcome Float
  | .int n => nearestInRange n .integerBeyondDouble
  | .float x => .ok x
  | .ratio q => nearestInRange q .quotientBeyondDouble

/- Neither infinite nor NaN. Exact numbers must fit a double. -/
def isFinite
    (a : Number) : Outcome Bool :=
  a.toDouble.map Decimal.isFinite

------------------------------------------------------------
-- Arithmetic
------------------------------------------------------------

/- An operation on integers, on ratios, and on doubles. -/
structure Rule where
  onInts : Int → Int → Int
  onRatios : Rat → Rat → Rat
  onDoubles : Float → Float → Float

/- Apply an operation in the narrowest kind that holds both numbers. -/
def combine
    (rule : Rule) : Number → Number → Outcome Number
  | .int m, .int n => .ok (.int (rule.onInts m n))
  | .int m, .ratio q => .ok (.ratio (rule.onRatios m q))
  | .ratio p, .int n => .ok (.ratio (rule.onRatios p n))
  | .ratio p, .ratio q => .ok (.ratio (rule.onRatios p q))
  | a, b => do
      let x ← a.toDouble
      let y ← b.toDouble
      return .float (rule.onDoubles x y)

/- The sum of two numbers. -/
def add : Number → Number → Outcome Number :=
  combine ⟨(· + ·), (· + ·), (· + ·)⟩

/- The difference of two numbers. -/
def sub : Number → Number → Outcome Number :=
  combine ⟨(· - ·), (· - ·), (· - ·)⟩

/- The product of two numbers. -/
def mul : Number → Number → Outcome Number :=
  combine ⟨(· * ·), (· * ·), (· * ·)⟩

/- The exact quotient of two exact numbers. -/
def divRatios
    (p q : Rat) : Outcome Number :=
  if q = 0 then fail .divisionByZero else .ok (.ratio (p / q))

/-
  The quotient of two numbers. Integers have a double as
  their quotient, rounded once.
-/
def div : Number → Number → Outcome Number
  | .int m, .int n =>
      if n = 0 then fail .divisionByZero
      else
        (nearestInRange ((m : Rat) / n) .quotientBeyondDouble).map .float
  | .int m, .ratio q => divRatios m q
  | .ratio p, .int n => divRatios p n
  | .ratio p, .ratio q => divRatios p q
  | a, b => do
      let x ← a.toDouble
      let y ← b.toDouble
      if y == 0.0 then fail .divisionByZero
      else return .float (x / y)

/- The number with the opposite sign. -/
def neg : Number → Number
  | .int n => .int (-n)
  | .float x => .float (-x)
  | .ratio q => .ratio (-q)

/- The least integer that is not below a number. -/
def ceiling : Number → Outcome Int
  | .int n => .ok n
  | .ratio q => .ok q.ceil
  | .float x =>
      match Decimal.exactValue? x with
      | some q => .ok q.ceil
      | none =>
          if x.isNaN then fail .nanToInteger
          else fail .infinityToInteger

end Number

------------------------------------------------------------
-- Values In Arithmetic
------------------------------------------------------------

/- The number a value stands for, where one is asked for. -/
def Value.asNumber
    (v : Value) : Outcome Number :=
  match v.number? with
  | some n => .ok n
  | none => fail (.notNumber v.kind)

end Joinery
