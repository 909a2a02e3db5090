import Joinery.Dado.Settings
import Joinery.Measure

/-
  This file defines the parameters of a dado joint.

  Key definitions include:
    * `Joint`
    * `Joint.make`
    * `Joint.named`
    * `Joint.converted`
-/

namespace Joinery

/-
  The parameters of a joint, each one a measure: the touch
  plate, the height to retract to, the stock whose half is
  the width of the dado, the cutter, the offset of the work
  piece, and the length of the dado.
-/
structure Joint where
  plateThickness : Value
  retractHeight : Value
  stockThickness : Value
  cutterDiameter : Value
  workOffsetX : Value
  passLength : Value

namespace Joint

/- A parameter by the name that job files use. -/
structure Parameter where
  name : Text
  get : Joint → Value

/- The parameters, in order. -/
def parameters : List Parameter :=
  [ ⟨"plate_thickness", plateThickness⟩,
    ⟨"retract_height", retractHeight⟩,
    ⟨"stock_thickness", stockThickness⟩,
    ⟨"cutter_diameter", cutterDiameter⟩,
    ⟨"work_offset_x", workOffsetX⟩,
    ⟨"pass_length", passLength⟩ ]

/- The names of the parameters. -/
def names : List Text :=
  parameters.map (·.name)

/- The parameters of a joint with their names. -/
def named
    (joint : Joint) : Named :=
  parameters.map fun p => (p.name, p.get joint)

/-
  A joint whose cutter is positive as far as its bare number
  tells; a quantity is checked once it is converted.
-/
def make
    (joint : Joint) : Outcome Joint := do
  let check : Outcome Unit :=
    match joint.cutterDiameter with
    | .bool _ | .int _ | .float _ => do
        if ← joint.cutterDiameter.atMostZero then
          fail (.cutterNotPositive joint.cutterDiameter)
    | _ => .ok ()
  check
  return joint

/- Every parameter as a plain value in the ambient unit, in order. -/
def converted
    (ambient : LengthUnit)
    (joint : Joint) : Outcome Joint := do
  let plain (measure : Value) := convert ambient measure none
  return {
    plateThickness := ← plain joint.plateThickness
    retractHeight := ← plain joint.retractHeight
    stockThickness := ← plain joint.stockThickness
    cutterDiameter := ← plain joint.cutterDiameter
    workOffsetX := ← plain joint.workOffsetX
    passLength := ← plain joint.passLength }

end Joint

end Joinery
