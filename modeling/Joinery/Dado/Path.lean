import Joinery.Dado.Depths
import Joinery.Dado.Joint
import Joinery.Program.Build

/-
  This file generates the program that cuts a dado.

  The geometry, in the ambient unit:
    * the cutter's radius is the step of the passes;
    * the dado is half as wide as the stock is thick;
    * one side of the dado is cut at `x1`, the other at
      `x2`, which differ by the width less the cutter.

  Key definitions include:
    * `Geometry`
    * `Geometry.ofJoint`
    * `pass`
    * `cut`
    * `generate`
-/

namespace Joinery

------------------------------------------------------------
-- Geometry
------------------------------------------------------------

/- The numbers that the moves of a cut are made of. -/
structure Geometry where
  width : Number
  radius : Number
  x1 : Number
  x2 : Number
  depths : List Number

/- The geometry of a joint whose parameters are plain numbers. -/
def Geometry.ofJoint
    (settings : Settings)
    (joint : Joint) : Outcome Geometry := do
  if ← joint.cutterDiameter.atMostZero then
    fail (.cutterNotPositive joint.cutterDiameter)
  let cutter ← joint.cutterDiameter.asNumber
  let radius ← cutter.div (.int 2)
  let stock ← joint.stockThickness.asNumber
  let width ← stock.div (.int 2)
  let travel ← width.sub cutter
  let offset ← joint.workOffsetX.asNumber
  let x1 ← (← offset.sub radius).add stock
  let x2 ← x1.sub travel
  let depths ←
    passDepths radius.toValue width.toValue settings.depthTolerance
  return ⟨width, radius, x1, x2, depths⟩

------------------------------------------------------------
-- Moves
------------------------------------------------------------

/- A prompt with a fixed message. -/
def say
    (message : String) : Operation :=
  Instruction.prompt (.text message)

/-
  One pass: go to the near end of the first side, plunge,
  cut along it, across, and back along the second side.
-/
def pass
    (x1 x2 depth : Number)
    (length : Value) : Operation :=
  let zero : Value := .int 0
  .group
    [ Instruction.rapid [("x", x1.toValue), ("y", zero)],
      Instruction.rapid [("z", depth.neg.toValue)],
      Instruction.move [("x", x1.toValue), ("y", length)],
      Instruction.move [("x", x2.toValue), ("y", length)],
      Instruction.move [("x", x2.toValue), ("y", zero)] ]

/- All passes of a cut, one deeper than the other. -/
def passes
    (geometry : Geometry)
    (length : Value) : Operation :=
  .group
    (geometry.depths.map fun depth =>
      pass geometry.x1 geometry.x2 depth length)

/-
  What happens between switching the machine to its modes
  and switching it back: zero the machine and probe, let the
  operator prepare the part, and cut.
-/
def setupAndCut
    (settings : Settings)
    (joint : Joint)
    (geometry : Geometry) : Operation :=
  let zero : Value := .int 0
  .group
    [ Instruction.resetCoordinates [("x", zero), ("y", zero)],
      say "Attach ZProbe - Top",
      Instruction.known "g28" [.token (.text "z")],
      Instruction.resetCoordinates [("z", joint.plateThickness)],
      Instruction.rapid
        [("z", joint.retractHeight), ("f", settings.retractFeed)],
      Instruction.awaitMoves,
      say "Detach ZProbe",
      say "Position Part for Dado",
      say "Start Spindle",
      passes geometry joint.passLength ]

------------------------------------------------------------
-- Programs
------------------------------------------------------------

/-
  The program of a cut: the work in absolute coordinates
  and millimetres, then a prompt to stop the spindle.
-/
def cut
    (settings : Settings)
    (joint : Joint)
    (geometry : Geometry) : Build Operation := do
  let work ←
    Build.positioningScope .absolute
      (Build.unitScope .millimeter
        (return setupAndCut settings joint geometry))
  return .group [work, say "Stop Spindle"]

/-
  Generate the program that cuts a joint. The parameters are
  converted to the ambient unit before anything is computed
  from them.
-/
def generate
    (joint : Joint)
    (settings : Settings) : Build Operation := do
  let plain ← Build.reading fun ambient => joint.converted ambient.unit
  let geometry ← Build.ofOutcome (Geometry.ofJoint settings plain)
  cut settings plain geometry

end Joinery
