import Joinery.Fault
import Joinery.Value.Equal

/-
  This file orders values of one kind and sorts them.

  Key definitions include:
    * `Moment.less`
    * `Value.less`
    * `Value.sorted`
-/

namespace Joinery

/-
  The order of two moments. Both must have an offset, or
  none of them.
-/
def Moment.less
    (a b : Moment) : Outcome Bool :=
  if a.offset.isSome == b.offset.isSome then .ok (a.instant < b.instant)
  else fail .offsetOnOneSide

namespace Value

mutual

/-
  Strictly less: numbers by size, text by code points, days
  and moments by time, tuples by the first items that
  differ. Values of other kinds, or of different ones, have
  no order.
-/
def less : Value → Value → Outcome Bool
  | .tuple xs, .tuple ys => lessItems xs ys
  | .bytes xs, .bytes ys => .ok (xs < ys)
  | .date a, .date b => .ok (a.toEpoch < b.toEpoch)
  | .moment a, .moment b => a.less b
  | .date _, .moment _ => fail .dayAgainstMoment
  | .moment _, .date _ => fail .dayAgainstMoment
  | a, b =>
      match a.number?, b.number?, a.text?, b.text? with
      | some m, some n, _, _ => .ok (m.less n)
      | _, _, some s, some t => .ok (s.precedes t)
      | _, _, _, _ => fail (.notOrdered a.fullKind b.fullKind)

/- The order of two tuples: of two equal beginnings, the shorter is less. -/
def lessItems : List Value → List Value → Outcome Bool
  | [], ys => .ok !ys.isEmpty
  | _ :: _, [] => .ok false
  | x :: xs, y :: ys =>
      if x.equals y then lessItems xs ys else less x y

end

/- Put a value behind all that are not greater. -/
def insertSorted
    (v : Value) : List Value → Outcome (List Value)
  | [] => .ok [v]
  | x :: rest => do
      if ← v.less x then return v :: x :: rest
      else return x :: (← insertSorted v rest)

/- The values of a list in order. -/
def sorted
    (vs : List Value) : Outcome (List Value) :=
  vs.foldlM (fun acc v => insertSorted v acc) []

/- The texts of values that must be text, given their place. -/
def textsFrom
    (index : Nat) : List Value → Outcome (List Text)
  | [] => .ok []
  | v :: rest =>
      match v.text? with
      | some s => do return s :: (← textsFrom (index + 1) rest)
      | none => fail (.notTextItem index v.fullKind)

/- The plain form of a value, if it can be written. -/
def written
    (v : Value) : Outcome Text :=
  if v.unwritable then fail .integerTooLong else .ok v.plain

end Value

end Joinery
