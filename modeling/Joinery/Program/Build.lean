import Joinery.Fault
import Joinery.Program.Instruction

/-
  This file defines computations that build programs in an
  ambient state, and the scopes that change the state for
  the time of one such computation.

  Key definitions include:
    * `Build`
    * `Build.withinUnit`
    * `Build.withinPositioning`
    * `Build.unitScope`
    * `Build.positioningScope`
-/

namespace Joinery

------------------------------------------------------------
-- Building
------------------------------------------------------------

/-
  A computation in an ambient state. It succeeds or fails,
  and in both cases it leaves a state behind.
-/
abbrev Build :=
  ExceptT Fault (StateM Ambient)

namespace Build

variable {α : Type}

/- A computation that only reads the ambient state. -/
def reading
    (read : Ambient → Outcome α) : Build α :=
  fun ambient => (read ambient, ambient)

/- A computation that does not use the ambient state. -/
def ofOutcome
    (outcome : Outcome α) : Build α :=
  reading fun _ => outcome

/-
  Run a computation in a unit. The unit that was in force
  before comes back, whether the computation succeeds or
  fails.
-/
def withinUnit
    (u : LengthUnit)
    (body : Build α) : Build α :=
  fun ambient =>
    let (result, after) := body { ambient with unit := u }
    (result, { after with unit := ambient.unit })

/-
  Run a computation in a positioning mode. The mode that was
  in force before comes back, whether the computation
  succeeds or fails.
-/
def withinPositioning
    (mode : Positioning)
    (body : Build α) : Build α :=
  fun ambient =>
    let (result, after) := body { ambient with mode := mode }
    (result, { after with mode := ambient.mode })

/- Run a computation, and another one in case it fails. -/
def orElse
    (body fallback : Build α) : Build α :=
  fun ambient =>
    match body ambient with
    | (.ok result, after) => (.ok result, after)
    | (.error _, after) => fallback after

------------------------------------------------------------
-- Scopes
------------------------------------------------------------

/- The items of a value that is a collection or text. -/
def items
    (v : Value) : Outcome (List Value) :=
  match v with
  | .list vs => .ok vs
  | .tuple vs => .ok vs
  | .set vs => .ok vs
  | .dict entries => .ok (entries.map (·.1))
  | .bytes bs => .ok (bs.map fun b => .int b.toNat)
  | _ =>
      match v.text? with
      | some s =>
          .ok (s.letters.map fun l => .text (.ofLetter l))
      | none => fail (.notIterable v.kind)

/- What a scope makes of its body: a value becomes the group of its items. -/
def ofBody
    (op : Operation) : Outcome Operation :=
  match op with
  | .value v => do return .group ((← items v).map .value)
  | _ => .ok op

/-
  A body built in a unit, between the instruction that
  switches the machine to the unit and the one that switches
  it back to the unit in force before.
-/
def unitScope
    (u : LengthUnit)
    (body : Build Operation) : Build Operation := do
  let before := (← get).unit
  let inner ← withinUnit u do ofOutcome (ofBody (← body))
  return .group
    [Instruction.ofUnit u, inner, Instruction.ofUnit before]

/-
  A body built in a positioning mode, between the instruction
  that switches the machine to the mode and the one that
  switches it back to the mode in force before.
-/
def positioningScope
    (mode : Positioning)
    (body : Build Operation) : Build Operation := do
  let before := (← get).mode
  let inner ← withinPositioning mode do ofOutcome (ofBody (← body))
  return .group
    [Instruction.ofPositioning mode, inner,
      Instruction.ofPositioning before]

end Build

end Joinery
