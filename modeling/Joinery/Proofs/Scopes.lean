import Joinery.Proofs.Program.Building
import Joinery.Scopes

/-
  Scopes nest. The ambient state of a session is always told
  by the scopes that are open in it, whatever has been done
  in the session: the unit by the innermost scope for a unit,
  and the positioning mode by the innermost scope for a mode.

  Key definitions include:
    * `Opened`
    * `Opened.ambient`
    * `Opened.following`
    * `Opened.session`

  Key theorems include:
    * `Session.perform_opened`
    * `Session.run_opened`
    * `Session.ambient_of_scopes`
-/

namespace Joinery

------------------------------------------------------------
-- Open Scopes
------------------------------------------------------------

/- A scope that has been entered, with the value it is for. -/
inductive Opened where
  | unit
      (u : LengthUnit)
  | positioning
      (mode : Positioning)

namespace Opened

/- The unit that a scope is for, if it is for one. -/
def unit? : Opened → Option LengthUnit
  | .unit u => some u
  | .positioning _ => none

/- The positioning mode that a scope is for, if it is for one. -/
def mode? : Opened → Option Positioning
  | .unit _ => none
  | .positioning mode => some mode

/-
  The ambient state in open scopes, the innermost first: of
  each kind, what the innermost scope is for. Outside of all
  scopes it is millimetres and absolute coordinates.
-/
def ambient
    (opened : List Opened) : Ambient where
  unit := (opened.findSome? unit?).getD .millimeter
  mode := (opened.findSome? mode?).getD .absolute

/-
  The open scopes after a step. A scope is entered only with
  a value that there is a scope for, and only the innermost
  scope is left. No other step enters or leaves a scope.
-/
def following
    (opened : List Opened) : Session.Step → List Opened
  | .enterUnit t =>
      match t.eval (ambient opened) >>= LengthUnit.ofValue with
      | .ok u => .unit u :: opened
      | .error _ => opened
  | .enterPositioning t =>
      match t.eval (ambient opened) >>= Positioning.ofValue with
      | .ok mode => .positioning mode :: opened
      | .error _ => opened
  | .leave => opened.tail
  | .abandon => opened.tail
  | .convert _ _ => opened
  | .compile _ => opened
  | .build _ => opened
  | .generate _ _ => opened

/- The open scopes after steps from the start of a session. -/
def after
    (steps : List Session.Step) : List Opened :=
  steps.foldl following []

/- What is remembered for open scopes: what was before each of them. -/
def remembered : List Opened → List Scope
  | [] => []
  | .unit _ :: outer => .unit (ambient outer).unit :: remembered outer
  | .positioning _ :: outer =>
      .positioning (ambient outer).mode :: remembered outer

/- The session that has these scopes open. -/
def session
    (opened : List Opened) : Session where
  ambient := ambient opened
  scopes := remembered opened

@[simp] theorem ambient_nil :
    ambient [] = { } := rfl

/- A scope for a unit changes the unit only. -/
@[simp] theorem ambient_unit
    (u : LengthUnit)
    (outer : List Opened) :
    ambient (.unit u :: outer) = { ambient outer with unit := u } := rfl

/- A scope for a positioning mode changes the mode only. -/
@[simp] theorem ambient_positioning
    (mode : Positioning)
    (outer : List Opened) :
    ambient (.positioning mode :: outer) =
      { ambient outer with mode := mode } := rfl

/- One value is remembered for every open scope. -/
theorem remembered_length
    (opened : List Opened) :
    (remembered opened).length = opened.length := by
  induction opened with
  | nil => rfl
  | cons inner outer ih =>
      cases inner with
      | unit u => exact congrArg Nat.succ ih
      | positioning mode => exact congrArg Nat.succ ih

end Opened

------------------------------------------------------------
-- Generating
------------------------------------------------------------

/- Generating a cut keeps the ambient state, if it fails as well. -/
theorem generate_keeps
    (joint : Joint)
    (settings : Settings) :
    (generate joint settings).Keeps := by
  refine (Build.Keeps.reading _).bind fun plain => ?_
  refine (Build.Keeps.ofOutcome _).bind fun geometry => ?_
  refine Build.Keeps.bind ?_ fun work => Build.Keeps.pure _
  have hBody :
      Build.Keeps
        (pure (setupAndCut settings plain geometry) : Build Operation) :=
    Build.Keeps.pure _
  exact (hBody.unitScope .millimeter).positioningScope .absolute

namespace Session

------------------------------------------------------------
-- Steps
------------------------------------------------------------

/- A computation that keeps the ambient state keeps the session. -/
theorem building_of_keeps
    {body : Build Operation}
    (hKeeps : body.Keeps)
    (session : Session) :
    (session.building body).2 = session := by
  rw [building, Build.apply_eq hKeeps]

/- The innermost scope is left to what was before it. -/
theorem leaving_opened
    (opened : List Opened) :
    ((Opened.session opened).leaving).2 = Opened.session opened.tail := by
  cases opened with
  | nil => rfl
  | cons inner outer =>
      cases inner with
      | unit u => rfl
      | positioning mode => rfl

/-
  A step leads from the session with some scopes open to the
  session with the scopes open that follow.
-/
theorem perform_opened
    (opened : List Opened)
    (step : Step) :
    ((Opened.session opened).perform step).2 =
      Opened.session (Opened.following opened step) := by
  cases step with
  | enterUnit t =>
      rw [perform, Opened.following, Opened.session]
      cases t.eval (Opened.ambient opened) >>= LengthUnit.ofValue with
      | ok u => rfl
      | error fault => rfl
  | enterPositioning t =>
      rw [perform, Opened.following, Opened.session]
      cases t.eval (Opened.ambient opened) >>= Positioning.ofValue with
      | ok mode => rfl
      | error fault => rfl
  | leave => exact leaving_opened opened
  | abandon => exact leaving_opened opened
  | convert measure target => rfl
  | compile value => rfl
  | build recipe => exact building_of_keeps recipe.build_keeps _
  | generate joint settings =>
      exact building_of_keeps (generate_keeps joint settings) _

/- A run leads to the session with the scopes open that follow. -/
theorem run_opened
    (opened : List Opened)
    (steps : List Step) :
    (Opened.session opened).run steps =
      Opened.session (steps.foldl Opened.following opened) := by
  induction steps generalizing opened with
  | nil => rfl
  | cons step steps ih =>
      rw [run, List.foldl_cons, perform_opened, List.foldl_cons]
      exact ih _

------------------------------------------------------------
-- Runs
------------------------------------------------------------

/- What there is no scope for is refused, and nothing is entered. -/
theorem perform_refused
    (session : Session)
    (t : Term)
    (fault : Fault) :
    (t.eval session.ambient >>= LengthUnit.ofValue = .error fault →
      session.perform (.enterUnit t) = (.error fault, session)) ∧
    (t.eval session.ambient >>= Positioning.ofValue = .error fault →
      session.perform (.enterPositioning t) =
        (.error fault, session)) := by
  constructor
  · intro hRefused
    rw [perform, hRefused]
  · intro hRefused
    rw [perform, hRefused]

/-
  Whatever is done in a session, its ambient unit is that of
  the innermost open scope for a unit, and its ambient mode
  that of the innermost open scope for a mode. A value that
  there is no scope for enters none. Leaving a scope of one
  kind keeps the ambient value of the other kind. Building
  and generating keep the whole session, also when they fail.
-/
theorem ambient_of_scopes
    (steps : List Step) :
    (run { } steps).ambient = Opened.ambient (Opened.after steps) ∧
      (run { } steps).scopes.length = (Opened.after steps).length ∧
      (∀ t fault,
        t.eval (run { } steps).ambient >>= LengthUnit.ofValue =
            .error fault →
          (run { } steps).perform (.enterUnit t) =
            (.error fault, run { } steps)) ∧
      (∀ t fault,
        t.eval (run { } steps).ambient >>= Positioning.ofValue =
            .error fault →
          (run { } steps).perform (.enterPositioning t) =
            (.error fault, run { } steps)) ∧
      (∀ step, step = .leave ∨ step = .abandon →
        (∀ u outer, Opened.after steps = .unit u :: outer →
          ((run { } steps).perform step).2.ambient.mode =
            (run { } steps).ambient.mode) ∧
        (∀ mode outer, Opened.after steps = .positioning mode :: outer →
          ((run { } steps).perform step).2.ambient.unit =
            (run { } steps).ambient.unit)) ∧
      (∀ recipe,
        ((run { } steps).perform (.build recipe)).2 = run { } steps) ∧
      (∀ joint settings,
        ((run { } steps).perform (.generate joint settings)).2 =
          run { } steps) := by
  have hRun : run { } steps = Opened.session (Opened.after steps) :=
    run_opened [] steps
  refine ⟨by rw [hRun]; rfl, ?_, fun t fault => (perform_refused _ t fault).1,
    fun t fault => (perform_refused _ t fault).2, ?_, ?_, ?_⟩
  · rw [hRun]
    exact Opened.remembered_length _
  · intro step hStep
    have hLeaving :
        ((run { } steps).perform step).2 =
          Opened.session (Opened.after steps).tail := by
      rcases hStep with rfl | rfl
      · rw [hRun, perform_opened, Opened.following]
      · rw [hRun, perform_opened, Opened.following]
    rw [hLeaving, hRun]
    constructor
    · intro u outer hOpened
      rw [hOpened]
      rfl
    · intro mode outer hOpened
      rw [hOpened]
      rfl
  · intro recipe
    rw [hRun, perform_opened, Opened.following]
  · intro joint settings
    rw [hRun, perform_opened, Opened.following]

end Session

end Joinery
