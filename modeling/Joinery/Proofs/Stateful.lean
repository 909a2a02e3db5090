import Joinery.Fault

/-
  Operations on files and runs of the command change a state
  and have an outcome. Each way to combine them is told by
  what it makes of a state.

  Key definitions include:
    * `Stateful`

  Key theorems include:
    * `Stateful.bind_apply`
    * `Stateful.tryCatch_apply`
-/

namespace Joinery

/- A computation that changes a state and may fail. -/
abbrev Stateful (σ : Type) :=
  ExceptT Fault (StateM σ)

namespace Stateful

variable {σ α β : Type}

@[simp] theorem pure_apply
    (a : α)
    (s : σ) :
    (pure a : Stateful σ α) s = (.ok a, s) := rfl

@[simp] theorem throw_apply
    (fault : Fault)
    (s : σ) :
    (throw fault : Stateful σ α) s = (.error fault, s) := rfl

@[simp] theorem liftM_apply
    (outcome : Outcome α)
    (s : σ) :
    (liftM outcome : Stateful σ α) s = (outcome, s) := by
  cases outcome <;> rfl

@[simp] theorem get_apply
    (s : σ) :
    (get : Stateful σ σ) s = (.ok s, s) := rfl

@[simp] theorem set_apply
    (later s : σ) :
    (set later : Stateful σ PUnit) s = (.ok ⟨⟩, later) := rfl

@[simp] theorem modify_apply
    (change : σ → σ)
    (s : σ) :
    (modify change : Stateful σ PUnit) s = (.ok ⟨⟩, change s) := rfl

/- What follows a failure is not done. -/
theorem bind_apply
    (act : Stateful σ α)
    (next : α → Stateful σ β)
    (s : σ) :
    (act >>= next) s =
      match act s with
      | (.ok a, later) => next a later
      | (.error fault, later) => (.error fault, later) := by
  show ExceptT.bindCont next (act s).1 (act s).2 = _
  rcases act s with ⟨outcome, later⟩
  cases outcome <;> rfl

/- A failure that is caught is handled in the state it has left. -/
theorem tryCatch_apply
    (act : Stateful σ α)
    (handle : Fault → Stateful σ α)
    (s : σ) :
    (tryCatch act handle) s =
      match act s with
      | (.ok a, later) => (.ok a, later)
      | (.error fault, later) => handle fault later := by
  rcases hAct : act s with ⟨outcome, later⟩
  simp only [tryCatch, tryCatchThe, MonadExceptOf.tryCatch,
    ExceptT.tryCatch, ExceptT.mk, bind, StateT.bind, hAct]
  cases outcome <;> rfl

theorem bind_of_ok
    {act : Stateful σ α}
    {s later : σ}
    {a : α}
    (hAct : act s = (.ok a, later))
    (next : α → Stateful σ β) :
    (act >>= next) s = next a later := by
  rw [bind_apply, hAct]

theorem bind_of_error
    {act : Stateful σ α}
    {s later : σ}
    {fault : Fault}
    (hAct : act s = (.error fault, later))
    (next : α → Stateful σ β) :
    (act >>= next) s = (.error fault, later) := by
  rw [bind_apply, hAct]

end Stateful

end Joinery
