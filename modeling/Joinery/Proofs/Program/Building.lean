import Mathlib.Data.List.Basic
import Joinery.Program.Recipe
import Joinery.Proofs.Outcome

/-
  Whatever a recipe does, the ambient state is afterwards
  what it was before. So what a recipe builds is a function
  of the state it is built in, and its parts are built in
  that state or in the one their scope sets.

  Key definitions include:
    * `Build.Keeps`
    * `Build.result`

  Key theorems include:
    * `Build.result_bind`
    * `Recipe.build_keeps`
    * `Recipe.exists_of_unitScope`
    * `Recipe.exists_of_positioningScope`
-/

namespace Joinery

------------------------------------------------------------
-- Results And States
------------------------------------------------------------

namespace Build

variable {α β : Type}

/- A computation that leaves the ambient state as it was. -/
def Keeps
    (body : Build α) : Prop :=
  ∀ ambient, (body ambient).2 = ambient

/- What a computation gives in an ambient state. -/
def result
    (body : Build α)
    (ambient : Ambient) : Outcome α :=
  (body ambient).1

theorem apply_eq
    {body : Build α}
    (hKeeps : Keeps body)
    (ambient : Ambient) :
    body ambient = (result body ambient, ambient) :=
  Prod.ext rfl (hKeeps ambient)

/- A second computation starts from the state the first one leaves. -/
theorem bind_apply
    (body : Build α)
    (next : α → Build β)
    (ambient : Ambient) :
    (body >>= next) ambient =
      match body ambient with
      | (.ok v, after) => next v after
      | (.error fault, after) => (.error fault, after) := by
  simp only [bind, ExceptT.bind, ExceptT.mk, StateT.bind]
  rcases body ambient with ⟨outcome, after⟩
  cases outcome with
  | ok v => rfl
  | error fault => rfl

theorem Keeps.pure
    (v : α) :
    Keeps (pure v : Build α) := by
  intro ambient
  rfl

theorem Keeps.throw
    (fault : Fault) :
    Keeps (throw fault : Build α) := by
  intro ambient
  rfl

theorem Keeps.reading
    (read : Ambient → Outcome α) :
    Keeps (reading read) := by
  intro ambient
  rfl

theorem Keeps.ofOutcome
    (outcome : Outcome α) :
    Keeps (ofOutcome outcome) := by
  intro ambient
  rfl

theorem Keeps.bind
    {body : Build α}
    {next : α → Build β}
    (hBody : Keeps body)
    (hNext : ∀ v, Keeps (next v)) :
    Keeps (body >>= next) := by
  intro ambient
  rw [bind_apply, apply_eq hBody]
  cases result body ambient with
  | ok v => exact hNext v ambient
  | error fault => rfl

theorem Keeps.withinUnit
    {body : Build α}
    (u : LengthUnit)
    (hBody : Keeps body) :
    Keeps (withinUnit u body) := by
  intro ambient
  simp only [Build.withinUnit, apply_eq hBody]

theorem Keeps.withinPositioning
    {body : Build α}
    (mode : Positioning)
    (hBody : Keeps body) :
    Keeps (withinPositioning mode body) := by
  intro ambient
  simp only [Build.withinPositioning, apply_eq hBody]

theorem Keeps.orElse
    {body fallback : Build α}
    (hBody : Keeps body)
    (hFallback : Keeps fallback) :
    Keeps (Build.orElse body fallback) := by
  intro ambient
  simp only [Build.orElse, apply_eq hBody]
  cases result body ambient with
  | ok v => rfl
  | error fault => exact hFallback ambient

theorem Keeps.get :
    Keeps (get : Build Ambient) := by
  intro ambient
  rfl

theorem Keeps.unitScope
    {body : Build Operation}
    (u : LengthUnit)
    (hBody : Keeps body) :
    Keeps (Build.unitScope u body) := by
  unfold Build.unitScope
  refine Keeps.get.bind fun before => ?_
  refine Keeps.bind ?_ fun inner => Keeps.pure _
  exact Keeps.withinUnit u (hBody.bind fun op => Keeps.ofOutcome _)

theorem Keeps.positioningScope
    {body : Build Operation}
    (mode : Positioning)
    (hBody : Keeps body) :
    Keeps (Build.positioningScope mode body) := by
  unfold Build.positioningScope
  refine Keeps.get.bind fun before => ?_
  refine Keeps.bind ?_ fun inner => Keeps.pure _
  exact Keeps.withinPositioning mode
    (hBody.bind fun op => Keeps.ofOutcome _)

------------------------------------------------------------
-- Results Of Computations
------------------------------------------------------------

@[simp] theorem result_pure
    (v : α)
    (ambient : Ambient) :
    result (pure v : Build α) ambient = .ok v := rfl

@[simp] theorem result_throw
    (fault : Fault)
    (ambient : Ambient) :
    result (throw fault : Build α) ambient = .error fault := rfl

@[simp] theorem result_reading
    (read : Ambient → Outcome α)
    (ambient : Ambient) :
    result (reading read) ambient = read ambient := rfl

@[simp] theorem result_ofOutcome
    (outcome : Outcome α)
    (ambient : Ambient) :
    result (ofOutcome outcome) ambient = outcome := rfl

/- The result of two computations is that of the second, if the first has one. -/
theorem result_bind
    {body : Build α}
    (hBody : Keeps body)
    (next : α → Build β)
    (ambient : Ambient) :
    result (body >>= next) ambient =
      (result body ambient >>= fun v => result (next v) ambient) := by
  unfold result
  rw [bind_apply, apply_eq hBody]
  cases result body ambient with
  | ok v => rfl
  | error fault => rfl

theorem result_withinUnit
    (u : LengthUnit)
    (body : Build α)
    (ambient : Ambient) :
    result (withinUnit u body) ambient =
      result body { ambient with unit := u } := rfl

theorem result_withinPositioning
    (mode : Positioning)
    (body : Build α)
    (ambient : Ambient) :
    result (withinPositioning mode body) ambient =
      result body { ambient with mode := mode } := rfl

theorem result_orElse
    {body : Build α}
    (hBody : Keeps body)
    (fallback : Build α)
    (ambient : Ambient) :
    result (Build.orElse body fallback) ambient =
      match result body ambient with
      | .ok v => .ok v
      | .error _ => result fallback ambient := by
  unfold result
  simp only [Build.orElse, apply_eq hBody]
  cases result body ambient with
  | ok v => rfl
  | error fault => rfl

/- A scope brackets what its body gives in the scope's unit. -/
theorem result_unitScope
    {body : Build Operation}
    (u : LengthUnit)
    (hBody : Keeps body)
    (ambient : Ambient) :
    result (Build.unitScope u body) ambient =
      (result body { ambient with unit := u } >>= ofBody).map
        fun inner =>
          .group
            [Instruction.ofUnit u, inner,
              Instruction.ofUnit ambient.unit] := by
  have hInner :
      Keeps (Build.withinUnit u
        (body >>= fun op => Build.ofOutcome (ofBody op))) :=
    Keeps.withinUnit u (hBody.bind fun op => Keeps.ofOutcome _)
  have hScope :
      result (Build.unitScope u body) ambient =
        result
          (Build.withinUnit u
              (body >>= fun op => Build.ofOutcome (ofBody op)) >>=
            fun inner =>
              (pure (.group
                [Instruction.ofUnit u, inner,
                  Instruction.ofUnit ambient.unit]) : Build Operation))
          ambient :=
    result_bind Keeps.get _ ambient
  rw [hScope, result_bind hInner, result_withinUnit, result_bind hBody]
  rfl

/- A scope brackets what its body gives in the scope's mode. -/
theorem result_positioningScope
    {body : Build Operation}
    (mode : Positioning)
    (hBody : Keeps body)
    (ambient : Ambient) :
    result (Build.positioningScope mode body) ambient =
      (result body { ambient with mode := mode } >>= ofBody).map
        fun inner =>
          .group
            [Instruction.ofPositioning mode, inner,
              Instruction.ofPositioning ambient.mode] := by
  have hInner :
      Keeps (Build.withinPositioning mode
        (body >>= fun op => Build.ofOutcome (ofBody op))) :=
    Keeps.withinPositioning mode (hBody.bind fun op => Keeps.ofOutcome _)
  have hScope :
      result (Build.positioningScope mode body) ambient =
        result
          (Build.withinPositioning mode
              (body >>= fun op => Build.ofOutcome (ofBody op)) >>=
            fun inner =>
              (pure (.group
                [Instruction.ofPositioning mode, inner,
                  Instruction.ofPositioning ambient.mode]) :
                Build Operation))
          ambient :=
    result_bind Keeps.get _ ambient
  rw [hScope, result_bind hInner, result_withinPositioning,
    result_bind hBody]
  rfl

end Build

------------------------------------------------------------
-- Recipes
------------------------------------------------------------

namespace Recipe

theorem term_keeps
    (t : Term) :
    Build.Keeps (term t) :=
  Build.Keeps.reading _

theorem named_keeps
    (terms : List (Text × Term)) :
    Build.Keeps (named terms) :=
  Build.Keeps.reading _

theorem unit_keeps
    (t : Term) :
    Build.Keeps (unit t) :=
  Build.Keeps.reading _

theorem mode_keeps
    (t : Term) :
    Build.Keeps (mode t) :=
  Build.Keeps.reading _

theorem times_keeps
    {body : Build Operation}
    (hBody : Build.Keeps body)
    (count : Nat) :
    Build.Keeps (times body count) := by
  induction count with
  | zero => exact Build.Keeps.pure []
  | succ count ih =>
      exact hBody.bind fun op => ih.bind fun ops => Build.Keeps.pure _

mutual

/- Building an operation leaves the ambient state as it was. -/
theorem build_keeps
    (recipe : Recipe) :
    Build.Keeps recipe.build := by
  cases recipe with
  | instruction mnemonic args =>
      rw [build]
      refine (term_keeps mnemonic).bind fun m => ?_
      exact (Build.Keeps.reading _).bind fun vs =>
        Build.Keeps.ofOutcome _
  | group parts =>
      rw [build]
      exact (buildAll_keeps parts).bind fun ops => Build.Keeps.pure _
  | nest levels part =>
      rw [build]
      exact (build_keeps part).bind fun op => Build.Keeps.pure _
  | copies count part =>
      rw [build]
      exact (times_keeps (build_keeps part) count).bind fun ops =>
        Build.Keeps.pure _
  | prompt message =>
      rw [build]
      exact (term_keeps message).bind fun v => Build.Keeps.pure _
  | probe axis =>
      rw [build]
      exact (term_keeps axis).bind fun v => Build.Keeps.ofOutcome _
  | resetCoordinates coordinates =>
      rw [build]
      exact (named_keeps coordinates).bind fun vs => Build.Keeps.pure _
  | rapid axes =>
      rw [build]
      exact (named_keeps axes).bind fun vs => Build.Keeps.pure _
  | move axes =>
      rw [build]
      exact (named_keeps axes).bind fun vs => Build.Keeps.pure _
  | awaitMoves =>
      rw [build]
      exact Build.Keeps.pure _
  | unitMode u =>
      rw [build]
      exact (unit_keeps u).bind fun v => Build.Keeps.pure _
  | positioningMode m =>
      rw [build]
      exact (mode_keeps m).bind fun v => Build.Keeps.pure _
  | unitScope u body =>
      rw [build]
      exact (unit_keeps u).bind fun v => (build_keeps body).unitScope v
  | positioningScope m body =>
      rw [build]
      exact (mode_keeps m).bind fun v =>
        (build_keeps body).positioningScope v
  | inUnit u part =>
      rw [build]
      exact (unit_keeps u).bind fun v => (build_keeps part).withinUnit v
  | inPositioning m part =>
      rw [build]
      exact (mode_keeps m).bind fun v =>
        (build_keeps part).withinPositioning v
  | orElse part fallback =>
      rw [build]
      exact (build_keeps part).orElse (build_keeps fallback)
  | failing message =>
      rw [build]
      exact Build.Keeps.throw _
  | foreign name =>
      rw [build]
      exact Build.Keeps.pure _
  | value t =>
      rw [build]
      exact (term_keeps t).bind fun v => Build.Keeps.pure _

/- Building a group leaves the ambient state as it was. -/
theorem buildAll_keeps
    (parts : List Recipe) :
    Build.Keeps (buildAll parts) := by
  cases parts with
  | nil =>
      rw [buildAll]
      exact Build.Keeps.pure []
  | cons part rest =>
      rw [buildAll]
      exact (build_keeps part).bind fun op =>
        (buildAll_keeps rest).bind fun ops => Build.Keeps.pure _

end

section Scopes

variable {body : Recipe}
variable {ambient : Ambient}
variable {op : Operation}

/- A scope is what its body gives in the scope's unit, in brackets. -/
theorem exists_of_unitScope
    {u : Term}
    (hBuilt : (unitScope u body).run ambient = .ok op) :
    ∃ v made inner,
      (unit u).result ambient = .ok v ∧
      body.run { ambient with unit := v } = .ok made ∧
      Build.ofBody made = .ok inner ∧
      op =
        .group
          [Instruction.ofUnit v, inner,
            Instruction.ofUnit ambient.unit] := by
  change (build (.unitScope u body)).result ambient = _ at hBuilt
  rw [build, Build.result_bind (unit_keeps u),
    Outcome.bind_eq_ok_iff] at hBuilt
  rcases hBuilt with ⟨v, hUnit, hScope⟩
  rw [Build.result_unitScope v (build_keeps body),
    Outcome.map_eq_ok_iff] at hScope
  rcases hScope with ⟨inner, hInner, hGroup⟩
  rcases Outcome.bind_eq_ok_iff.mp hInner with ⟨made, hMade, hBody⟩
  exact ⟨v, made, inner, hUnit, hMade, hBody, hGroup.symm⟩

/- A scope is what its body gives in the scope's mode, in brackets. -/
theorem exists_of_positioningScope
    {m : Term}
    (hBuilt : (positioningScope m body).run ambient = .ok op) :
    ∃ v made inner,
      (mode m).result ambient = .ok v ∧
      body.run { ambient with mode := v } = .ok made ∧
      Build.ofBody made = .ok inner ∧
      op =
        .group
          [Instruction.ofPositioning v, inner,
            Instruction.ofPositioning ambient.mode] := by
  change (build (.positioningScope m body)).result ambient = _ at hBuilt
  rw [build, Build.result_bind (mode_keeps m),
    Outcome.bind_eq_ok_iff] at hBuilt
  rcases hBuilt with ⟨v, hMode, hScope⟩
  rw [Build.result_positioningScope v (build_keeps body),
    Outcome.map_eq_ok_iff] at hScope
  rcases hScope with ⟨inner, hInner, hGroup⟩
  rcases Outcome.bind_eq_ok_iff.mp hInner with ⟨made, hMade, hBody⟩
  exact ⟨v, made, inner, hMode, hMade, hBody, hGroup.symm⟩

end Scopes

/- What is built instead is built in the same ambient state. -/
theorem run_orElse
    (part fallback : Recipe)
    (ambient : Ambient) :
    (orElse part fallback).run ambient =
      match part.run ambient with
      | .ok op => .ok op
      | .error _ => fallback.run ambient := by
  change (build (.orElse part fallback)).result ambient = _
  rw [build, Build.result_orElse (build_keeps part)]
  change _ =
    (match part.build.result ambient with
      | .ok op => .ok op
      | .error _ => fallback.build.result ambient : Outcome Operation)
  cases part.build.result ambient <;> rfl

end Recipe

end Joinery
