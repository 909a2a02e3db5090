import Joinery.Fault
import Joinery.Program.Operation
import Joinery.Term

/-
  This file names the instructions that programs use.

  Key definitions include:
    * `Instruction.make`
    * `Instruction.prompt`
    * `Instruction.probe`
    * `Instruction.resetCoordinates`
    * `Instruction.rapid`
    * `Instruction.move`
    * `Instruction.awaitMoves`
    * `Instruction.ofUnit`
    * `Instruction.ofPositioning`
-/

namespace Joinery

namespace Instruction

------------------------------------------------------------
-- Construction
------------------------------------------------------------

/- An instruction with a mnemonic, which must not be empty. -/
def make
    (mnemonic : Value)
    (args : List Value) : Outcome Operation :=
  if mnemonic.truthy then .ok (.instruction mnemonic args)
  else fail .emptyMnemonic

/- An instruction with a mnemonic known to this library. -/
def known
    (mnemonic : String)
    (args : List Value) : Operation :=
  .instruction (.text mnemonic) args

------------------------------------------------------------
-- The Instructions Of A Cut
------------------------------------------------------------

/- Pause and show a message to the operator. -/
def prompt
    (message : Value) : Operation :=
  known "m0" [message]

/- Probe an axis against the touch plate. -/
def probe
    (axis : Value) : Outcome Operation := do
  return known "g28" [← axis.asToken]

/- Declare the current position to be the given one. -/
def resetCoordinates
    (coordinates : Named) : Operation :=
  known "g92" [.dict coordinates.toEntries]

/- A rapid move that does not cut. -/
def rapid
    (axes : Named) : Operation :=
  known "g0" [.dict axes.toEntries]

/- A straight cutting move. -/
def move
    (axes : Named) : Operation :=
  known "g1" [.dict axes.toEntries]

/- Wait until all queued motion has finished. -/
def awaitMoves : Operation :=
  known "m400" []

------------------------------------------------------------
-- Modes
------------------------------------------------------------

/- The mnemonic that switches the machine to a unit. -/
def unitMnemonic : LengthUnit → String
  | .millimeter => "g28"
  | .inch => "g20"

/- The mnemonic that switches the machine to a positioning mode. -/
def positioningMnemonic : Positioning → String
  | .absolute => "g90"
  | .relative => "g91"

/- Switch the machine to a unit. -/
def ofUnit
    (u : LengthUnit) : Operation :=
  known (unitMnemonic u) []

/- Switch the machine to a positioning mode. -/
def ofPositioning
    (mode : Positioning) : Operation :=
  known (positioningMnemonic mode) []

end Instruction

end Joinery
