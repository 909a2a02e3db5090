import Joinery.Decimal.Binary

/-
  This file defines numbers of three kinds and their exact
  order.

  Key definitions include:
    * `Number`
    * `Number.place`
    * `Number.compare?`
    * `Number.equals`
    * `Number.less`
    * `Number.atMost`
-/

namespace Joinery

------------------------------------------------------------
-- Numbers
------------------------------------------------------------

/- A number: an exact integer, a double, or an exact ratio. -/
inductive Number where
  | int
      (n : Int)
  | float
      (x : Float)
  | ratio
      (q : Rat)
  deriving DecidableEq

namespace Number

/- Where a number lies on the line that has infinite ends. -/
inductive Place where
  | nowhere
  | below
  | finite
      (q : Rat)
  | above
  deriving DecidableEq

/- The exact place of a number. -/
def place : Number → Place
  | .int n => .finite n
  | .ratio q => .finite q
  | .float x =>
      match Decimal.exactValue? x with
      | some q => .finite q
      | none =>
          if x.isNaN then .nowhere
          else if x < 0.0 then .below
          else .above

/- The order of two places; a place that is no number has none. -/
def Place.compare? : Place → Place → Option Ordering
  | .nowhere, _ => none
  | _, .nowhere => none
  | .below, .below => some .eq
  | .below, _ => some .lt
  | _, .below => some .gt
  | .above, .above => some .eq
  | .above, _ => some .gt
  | _, .above => some .lt
  | .finite p, .finite q =>
      some (if p < q then .lt else if q < p then .gt else .eq)

/- The exact order of two numbers of any kinds. -/
def compare?
    (a b : Number) : Option Ordering :=
  a.place.compare? b.place

/- Exact equality of two numbers of any kinds. -/
def equals
    (a b : Number) : Bool :=
  a.compare? b == some .eq

/- Strictly less. -/
def less
    (a b : Number) : Bool :=
  a.compare? b == some .lt

/- Less or equal. -/
def atMost
    (a b : Number) : Bool :=
  a.less b || a.equals b

end Number

end Joinery
