import Joinery.Decimal.Rounded
import Joinery.Number.Arithmetic

/-
  This file writes numbers as G-code numerals: whole numbers
  without a point, all others with two decimal places.

  Key definitions include:
    * `Numeral.ofInt`
    * `Numeral.ofFloat`
    * `Numeral.ofShown`
    * `Numeral.ofValue`
-/

namespace Joinery

namespace Numeral

/- The decimal places of a number that is not whole. -/
def places : Nat := 2

/- A whole number is written in full. -/
def ofInt
    (n : Int) : Outcome String :=
  if Decimal.exceedsLimit n then fail .integerTooLong
  else .ok (Decimal.integerText n)

/- The most digits that a rounded decimal may have. -/
def precision : Nat := 28

/-
  A decimal rounded to two places; a half goes away from
  zero. What does not fit the precision is refused.
-/
def ofDecimal
    (d : Decimal) : Outcome String :=
  let units :=
    Decimal.roundMagnitude .awayFromZero
      (d.magnitude * (10 : Rat) ^ places)
  if precision < Decimal.digitCount units then fail .noDecimalForm
  else
    .ok
      (String.ofList
        (Decimal.fixedText .awayFromZero places d.negative d.magnitude))

/-
  A double that is not whole is rounded from its shortest
  decimal, not from its exact value. NaN has a text, the
  infinities have none.
-/
def ofFloat
    (x : Float) : Outcome String :=
  match Decimal.exactValue? x with
  | some q =>
      if q.den = 1 then ofInt q.num
      else
        match Decimal.shortest? x with
        | some d => ofDecimal d
        | none => fail .noDecimalForm
  | none => if x.isNaN then .ok "NaN" else fail .noDecimalForm

/-
  The numeral of a text. What is no number keeps its sign
  and as many digits as there is precision for.
-/
def ofText
    (t : Text) : Outcome String :=
  match Decimal.Reading.ofChars? t.chars with
  | some (.finite d) => ofDecimal d
  | some (.nan negative payload) =>
      let kept := payload.drop (payload.length - precision)
      .ok
        ((if negative then "-NaN" else "NaN") ++
          String.ofList (kept.dropWhile (· = '0')))
  | none => fail .noDecimalForm

/-
  The numeral of a double of a class that shows its numbers
  in its own way. One that is not whole is rounded from the
  text that it shows.
-/
def ofShown
    (x : Float)
    (shown : Text) : Outcome String :=
  match Decimal.exactValue? x with
  | some q => if q.den = 1 then ofInt q.num else ofText shown
  | none => ofText shown

/-
  The numeral of a value. A ratio has one when it is whole
  and in the range of doubles.
-/
def ofValue
    (v : Value) : Outcome String :=
  match v with
  | .bool b => .ok (if b then "1" else "0")
  | .int n => ofInt n
  | .float x => ofFloat x
  | .ratio q => do
      let _ ← (Number.ratio q).isFinite
      if q.den = 1 then ofInt q.num else fail .noDecimalForm
  | _ => fail (.notNumber v.kind)

end Numeral

end Joinery
