import Joinery.Number.Arithmetic

/-
  This file defines the machine settings of a cut.

  Key definitions include:
    * `Value.atMostZero`
    * `Value.belowZero`
    * `Settings`
    * `Settings.make`
    * `Settings.ofNamed`
-/

namespace Joinery

------------------------------------------------------------
-- Comparison With Zero
------------------------------------------------------------

/- The number a value stands for, where an order is asked for. -/
def Value.asOrdered
    (v : Value) : Outcome Number :=
  match v.number? with
  | some n => .ok n
  | none => fail (.notOrdered v.kind "int")

/- Zero or less; NaN is not. -/
def Value.atMostZero
    (v : Value) : Outcome Bool := do
  return (← v.asOrdered).atMost (.int 0)

/- Less than zero; NaN is not. -/
def Value.belowZero
    (v : Value) : Outcome Bool := do
  return (← v.asOrdered).less (.int 0)

------------------------------------------------------------
-- Settings
------------------------------------------------------------

/-
  The feed rate of the retract after probing, and the slack
  with which a pass depth reaches the dado depth.
-/
structure Settings where
  retractFeed : Value := .int 300
  depthTolerance : Value := .float 0.001

namespace Settings

/- The settings that are used where a job gives none. -/
def standard : Settings := { }

/- Settings with a positive feed and a tolerance not below zero. -/
def make
    (retractFeed depthTolerance : Value) : Outcome Settings := do
  if ← retractFeed.atMostZero then fail (.feedNotPositive retractFeed)
  if ← depthTolerance.belowZero then
    fail (.toleranceNegative depthTolerance)
  return ⟨retractFeed, depthTolerance⟩

/- The names of the settings. -/
def names : List Text :=
  ["retract_feed", "depth_tolerance"]

/- Settings by name; those not named keep their standard. -/
def ofNamed
    (named : Named) : Outcome Settings :=
  match named.find? fun e => !names.contains e.1 with
  | some e => fail (.unknownSetting e.1)
  | none =>
      make
        ((named.get? "retract_feed").getD standard.retractFeed)
        ((named.get? "depth_tolerance").getD standard.depthTolerance)

end Settings

end Joinery
