import Joinery.Dado.Path
import Joinery.Gcode.Line
import Joinery.Program.Recipe

/-
  This file defines sessions: an ambient state with a stack
  of open scopes, in which measures are converted, values
  compiled, and programs built.

  Key definitions include:
    * `Ambient.entering`
    * `Session`
    * `Session.Step`
    * `Session.perform`
    * `Session.run`
-/

namespace Joinery

------------------------------------------------------------
-- Entering An Ambient State
------------------------------------------------------------

/-
  The ambient state inside a scope for the unit and a scope
  for the positioning mode, where they are given.
-/
def Ambient.entering
    (ambient : Ambient)
    (unit mode : Option Value) : Outcome Ambient := do
  let u ← match unit with
    | some v => LengthUnit.ofValue v
    | none => .ok ambient.unit
  let m ← match mode with
    | some v => Positioning.ofValue v
    | none => .ok ambient.mode
  return ⟨u, m⟩

------------------------------------------------------------
-- Sessions
------------------------------------------------------------

/- An open scope remembers the value that comes back after it. -/
inductive Scope where
  | unit
      (before : LengthUnit)
  | positioning
      (before : Positioning)
  deriving DecidableEq, Repr

/- The ambient state and the open scopes, the innermost first. -/
structure Session where
  ambient : Ambient := { }
  scopes : List Scope := []
  deriving DecidableEq, Repr

namespace Session

/- Something that is done in a session. -/
inductive Step where
  | enterUnit
      (unit : Term)
  | enterPositioning
      (mode : Term)
  | leave
  | abandon
  | convert
      (measure : Term)
      (target : Option Term)
  | compile
      (value : Term)
  | build
      (recipe : Recipe)
  | generate
      (joint : Joint)
      (settings : Settings)

/- What a step gives. -/
inductive Answer where
  | entered
      (word : String)
  | left
  | value
      (v : Value)
  | text
      (t : Text)
  | operation
      (op : Operation)

/- Enter a unit and remember the one before. -/
def enterUnit
    (session : Session)
    (u : LengthUnit) : Session :=
  { ambient := { session.ambient with unit := u }
    scopes := .unit session.ambient.unit :: session.scopes }

/- Enter a positioning mode and remember the one before. -/
def enterPositioning
    (session : Session)
    (mode : Positioning) : Session :=
  { ambient := { session.ambient with mode := mode }
    scopes := .positioning session.ambient.mode :: session.scopes }

/- Leave the innermost scope, if there is one. -/
def leave
    (session : Session) : Session :=
  match session.scopes with
  | [] => session
  | .unit before :: rest =>
      { ambient := { session.ambient with unit := before }
        scopes := rest }
  | .positioning before :: rest =>
      { ambient := { session.ambient with mode := before }
        scopes := rest }

/- Leave the innermost scope, which must be there. -/
def leaving
    (session : Session) : Outcome Answer × Session :=
  if session.scopes.isEmpty then (.error .noScope, session)
  else (.ok .left, session.leave)

/- Run a computation in the ambient state of a session. -/
def building
    (session : Session)
    (body : Build Operation) : Outcome Answer × Session :=
  let (result, after) := body session.ambient
  (result.map .operation, { session with ambient := after })

/- Do one step. A step that fails enters no scope. -/
def perform
    (session : Session)
    (step : Step) : Outcome Answer × Session :=
  match step with
  | .enterUnit t =>
      match t.eval session.ambient >>= LengthUnit.ofValue with
      | .ok u => (.ok (.entered u.symbol), session.enterUnit u)
      | .error fault => (.error fault, session)
  | .enterPositioning t =>
      match t.eval session.ambient >>= Positioning.ofValue with
      | .ok mode =>
          (.ok (.entered mode.word), session.enterPositioning mode)
      | .error fault => (.error fault, session)
  | .leave => session.leaving
  | .abandon => session.leaving
  | .convert measure target =>
      (do
        let m ← measure.eval session.ambient
        let t ← target.mapM fun t => t.eval session.ambient
        return .value (← Joinery.convert session.ambient.unit m t),
      session)
  | .compile value =>
      (do
        let v ← value.eval session.ambient
        return .text (← Line.ofValue session.ambient.unit v),
      session)
  | .build recipe => session.building recipe.build
  | .generate joint settings =>
      session.building (Joinery.generate joint settings)

/- Do steps one after the other. -/
def run
    (session : Session)
    (steps : List Step) : Session :=
  steps.foldl (fun s step => (s.perform step).2) session

end Session

end Joinery
