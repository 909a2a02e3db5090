import Mathlib.Data.List.Basic
import Joinery.Fault

/-
  What a computation yields, if it yields anything, and how
  it fails, if it fails.

  Key definitions include:
    * `Yields`
    * `Fails`
    * `Fault.IsAmong`

  Key theorems include:
    * `Yields.bind`
    * `Fails.bind`
    * `Fails.mapM`
    * `Fails.ofFail`
-/

namespace Joinery

/- If anything is yielded, a claim holds of it. -/
def Yields
    {ε α : Type}
    (claim : α → Prop)
    (result : Except ε α) : Prop :=
  ∀ a, result = .ok a → claim a

namespace Yields

variable {ε α β : Type}
variable {claim : α → Prop}

theorem ok
    {a : α}
    (hClaim : claim a) :
    Yields claim (.ok a : Except ε α) := by
  intro b hSame
  cases hSame
  exact hClaim

theorem error
    (fault : ε) :
    Yields claim (.error fault : Except ε α) := by
  intro a hSame
  cases hSame

theorem bind
    {middle : β → Prop}
    {first : Except ε β}
    {next : β → Except ε α}
    (hFirst : Yields middle first)
    (hNext : ∀ b, middle b → Yields claim (next b)) :
    Yields claim (first >>= next) := by
  cases first with
  | ok b => exact hNext b (hFirst b rfl)
  | error fault => exact error fault

/- Of anything that is yielded, something holds. -/
theorem any
    (first : Except ε α) :
    Yields (fun _ => True) first :=
  fun _ _ => trivial

/- It is the one that the computation yields. -/
theorem self
    (first : Except ε α) :
    Yields (fun a => first = .ok a) first :=
  fun _ hYielded => hYielded

/- Nothing comes of what fails, whatever would follow. -/
theorem failed
    {claim : β → Prop}
    (fault : Fault)
    (next : α → Outcome β) :
    Yields claim (fail fault >>= next) :=
  Yields.error _

end Yields

/- If a computation fails, a claim holds of the fault. -/
def Fails
    {ε α : Type}
    (claim : ε → Prop)
    (result : Except ε α) : Prop :=
  ∀ fault, result = .error fault → claim fault

namespace Fails

variable {ε α β : Type}
variable {claim : ε → Prop}

theorem ok
    (a : α) :
    Fails claim (.ok a : Except ε α) := by
  intro fault hSame
  cases hSame

theorem error
    {fault : ε}
    (hClaim : claim fault) :
    Fails claim (.error fault : Except ε α) := by
  intro other hSame
  cases hSame
  exact hClaim

theorem mono
    {more : ε → Prop}
    {result : Except ε α}
    (hFails : Fails claim result)
    (hMore : ∀ fault, claim fault → more fault) :
    Fails more result :=
  fun fault hSame => hMore fault (hFails fault hSame)

/- What follows may make use of what has come so far. -/
theorem bind_of
    {first : Except ε β}
    {next : β → Except ε α}
    (hFirst : Fails claim first)
    (hNext : ∀ b, first = .ok b → Fails claim (next b)) :
    Fails claim (first >>= next) := by
  cases first with
  | ok b => exact hNext b rfl
  | error fault => exact error (hFirst fault rfl)

theorem bind
    {first : Except ε β}
    {next : β → Except ε α}
    (hFirst : Fails claim first)
    (hNext : ∀ b, Fails claim (next b)) :
    Fails claim (first >>= next) :=
  bind_of hFirst fun b _ => hNext b

theorem map
    {first : Except ε β}
    (hFirst : Fails claim first)
    (f : β → α) :
    Fails claim (first.map f) := by
  cases first with
  | ok b => exact ok (f b)
  | error fault => exact error (hFirst fault rfl)

theorem mapM
    {compute : α → Except ε β}
    {items : List α}
    (hItems : ∀ item ∈ items, Fails claim (compute item)) :
    Fails claim (items.mapM compute) := by
  induction items with
  | nil => exact ok []
  | cons item rest ih =>
      rw [List.mapM_cons]
      refine bind (hItems item (List.mem_cons_self ..)) ?_
      intro first
      refine bind (ih ?_) ?_
      · intro other hMem
        exact hItems other (List.mem_cons_of_mem _ hMem)
      · intro others
        exact ok _

end Fails

------------------------------------------------------------
-- Families Of Faults
------------------------------------------------------------

/- A fault is of one of some families. -/
def Fault.IsAmong
    (families : Family → Bool)
    (fault : Fault) : Prop :=
  families fault.family = true

/- What is reported for a cause is the cause, or a fault of value. -/
theorem Fault.family_reported
    (fault : Fault) :
    fault.reported.family = .value ∨ fault.reported = fault := by
  unfold reported
  split
  · exact Or.inl rfl
  · exact Or.inr rfl

/- A fault of value can be reported for any other. -/
theorem Fails.ofFail
    {α : Type}
    {families : Family → Bool}
    {fault : Fault}
    (hValue : families .value = true)
    (hFault : fault.IsAmong families) :
    Fails (Fault.IsAmong families) (fail fault : Outcome α) := by
  refine Fails.error ?_
  rcases fault.family_reported with hReported | hSame
  · unfold Fault.IsAmong
    rw [hReported]
    exact hValue
  · rw [hSame]
    exact hFault

/- Nothing comes of what fails, whatever would follow. -/
theorem Fails.failed
    {α β : Type}
    {claim : Fault → Prop}
    {fault : Fault}
    (hFails : Fails claim (fail fault : Outcome β))
    (next : α → Outcome β) :
    Fails claim (fail fault >>= next) :=
  hFails

end Joinery
