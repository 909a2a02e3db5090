import Joinery.Number.Arithmetic

/-
  This file converts quantities to plain numbers in a unit
  of length.

  Key definitions include:
    * `LengthUnit.ofValue?`
    * `Positioning.ofValue?`
    * `millimetersPerInch`
    * `convert`
    * `convertAll`
-/

namespace Joinery

------------------------------------------------------------
-- Units And Modes As Values
------------------------------------------------------------

namespace LengthUnit

/- The unit that a value names. -/
def ofValue?
    (v : Value) : Option LengthUnit :=
  (v.text?.bind Text.string?).bind ofSymbol?

/- The unit that a value must name. -/
def ofValue
    (v : Value) : Outcome LengthUnit :=
  match ofValue? v with
  | some u => .ok u
  | none => fail (.notUnit v)

end LengthUnit

namespace Positioning

/- The positioning mode that a value names. -/
def ofValue?
    (v : Value) : Option Positioning :=
  (v.text?.bind Text.string?).bind ofWord?

/- The positioning mode that a value must name. -/
def ofValue
    (v : Value) : Outcome Positioning :=
  match ofValue? v with
  | some mode => .ok mode
  | none => fail (.notPositioning v)

end Positioning

------------------------------------------------------------
-- Conversion
------------------------------------------------------------

/- One inch is exactly 25.4 millimetres. -/
def millimetersPerInch : Number :=
  .float 25.4

/-
  The amount of a quantity in another unit. Within one unit
  the amount is kept as it is, whatever it is; between
  millimetres and inches it must be a number.
-/
def convertAmount
    (unit amount target : Value) : Outcome Value :=
  if unit.equals target then .ok amount
  else
    match LengthUnit.ofValue? unit, LengthUnit.ofValue? target with
    | some .inch, some .millimeter => do
        let n ← amount.asNumber
        return (← n.mul millimetersPerInch).toValue
    | some .millimeter, some .inch => do
        let n ← amount.asNumber
        return (← n.div millimetersPerInch).toValue
    | _, _ => fail (.noConversion unit amount target)

/-
  A measure as a plain value in a unit, by default the
  ambient one. A bare number is taken to be in that unit
  already.
-/
def convert
    (ambient : LengthUnit)
    (measure : Value)
    (target : Option Value) : Outcome Value :=
  match measure with
  | .int _ => .ok measure
  | .float _ => .ok measure
  | .ratio _ => .ok measure
  | .quantity unit amount =>
      convertAmount unit amount (target.getD (.unit ambient))
  | _ => fail (.noAttribute measure.fullKind "unit")

/- Every named measure as a plain value in the ambient unit. -/
def convertAll
    (ambient : LengthUnit) : Named → Outcome Named
  | [] => .ok []
  | (name, measure) :: rest => do
      let v ← convert ambient measure none
      return (name, v) :: (← convertAll ambient rest)

end Joinery
