import Mathlib.Data.List.Forall2
import Joinery.Fault

/-
  A computation in steps has a result exactly when each of
  its steps has one. Two computations agree if they have the
  same results, however they fail.

  Key definitions include:
    * `Outcome.Agree`

  Key theorems include:
    * `Outcome.bind_eq_ok_iff`
    * `Outcome.map_eq_ok_iff`
    * `Outcome.forall₂_of_mapM`
    * `Outcome.mapM_eq_ok_iff`
    * `Outcome.exists_mapM`
    * `Outcome.Agree.bind`
    * `Outcome.Agree.mapM`
-/

namespace Joinery

namespace Outcome

variable {α β : Type}

theorem bind_eq_ok_iff
    {first : Outcome α}
    {next : α → Outcome β}
    {result : β} :
    (first >>= next) = .ok result ↔
      ∃ v, first = .ok v ∧ next v = .ok result := by
  cases first with
  | ok v =>
      constructor
      · intro hNext
        exact ⟨v, rfl, hNext⟩
      · rintro ⟨w, hFirst, hNext⟩
        cases hFirst
        exact hNext
  | error fault =>
      constructor
      · intro hFault
        cases hFault
      · rintro ⟨w, hFirst, -⟩
        cases hFirst

theorem map_eq_ok_iff
    {first : Outcome α}
    {change : α → β}
    {result : β} :
    first.map change = .ok result ↔
      ∃ v, first = .ok v ∧ change v = result := by
  cases first with
  | ok v => simp [Except.map]
  | error fault => simp [Except.map]

theorem eq_ok_of_toOption
    {outcome : Outcome α}
    {v : α}
    (hResult : outcome.toOption = some v) :
    outcome = .ok v := by
  cases outcome with
  | ok other => exact congrArg Except.ok (Option.some.inj hResult)
  | error fault => cases hResult


/- What an outcome is mapped to is what its value is mapped to. -/
theorem exists_of_toOption
    {outcome : Outcome α}
    {change : α → β}
    {result : β}
    (hResult : outcome.toOption.map change = some result) :
    ∃ v, outcome = .ok v ∧ change v = result := by
  cases outcome with
  | ok v => exact ⟨v, rfl, Option.some.inj hResult⟩
  | error fault => cases hResult

@[simp] theorem ok_bind
    (v : α)
    (next : α → Outcome β) :
    ((Except.ok v : Outcome α) >>= next) = next v := rfl

@[simp] theorem error_bind
    (fault : Fault)
    (next : α → Outcome β) :
    ((Except.error fault : Outcome α) >>= next) = .error fault := rfl

@[simp] theorem pure_eq_ok_iff
    {v result : α} :
    (pure v : Outcome α) = .ok result ↔ v = result := by
  simp [pure, Except.pure]

/- What is computed for every item of a list stands in its place. -/
theorem forall₂_of_mapM
    {compute : α → Outcome β}
    {items : List α}
    {results : List β}
    (hResults : items.mapM compute = .ok results) :
    List.Forall₂ (fun item result => compute item = .ok result)
      items results := by
  induction items generalizing results with
  | nil =>
      cases hResults
      exact .nil
  | cons item rest ih =>
      rw [List.mapM_cons, bind_eq_ok_iff] at hResults
      rcases hResults with ⟨first, hFirst, hRest⟩
      rw [bind_eq_ok_iff] at hRest
      rcases hRest with ⟨others, hOthers, hResults⟩
      cases hResults
      exact .cons hFirst (ih hOthers)

/- There are such results exactly if every item has its own. -/
theorem mapM_eq_ok_iff
    {compute : α → Outcome β}
    {items : List α}
    {results : List β} :
    items.mapM compute = .ok results ↔
      List.Forall₂ (fun item result => compute item = .ok result)
        items results := by
  refine ⟨forall₂_of_mapM, fun hEach => ?_⟩
  induction hEach with
  | nil => rfl
  | cons hFirst _ ih =>
      rw [List.mapM_cons, hFirst, ih]
      rfl

/-
  If there is a result for every item of a list, made of what
  stands for the item in another list, there are results for
  the whole list.
-/
theorem exists_mapM
    {γ δ : Type}
    {compute : α → Outcome β}
    {build : γ → β}
    {related : δ → γ → Prop}
    {items : List α}
    {others : List δ}
    (hEach :
      List.Forall₂
        (fun item other =>
          ∃ c, compute item = .ok (build c) ∧ related other c)
        items others) :
    ∃ cs, items.mapM compute = .ok (cs.map build) ∧
      List.Forall₂ related others cs := by
  induction hEach with
  | nil => exact ⟨[], rfl, .nil⟩
  | cons hFirst _ ih =>
      rcases hFirst with ⟨c, hItem, hRelated⟩
      rcases ih with ⟨cs, hItems, hRest⟩
      refine ⟨c :: cs, ?_, .cons hRelated hRest⟩
      rw [List.mapM_cons, hItem, hItems]
      rfl

/- Computations that are the same for every item are the same for a list. -/
theorem mapM_congr
    {compute other : β → Outcome α}
    {items : List β}
    (hItems : ∀ item ∈ items, compute item = other item) :
    items.mapM compute = items.mapM other := by
  induction items with
  | nil => rfl
  | cons item rest ih =>
      rw [List.mapM_cons, List.mapM_cons,
        hItems item (List.mem_cons_self ..),
        ih fun later hMem => hItems later (List.mem_cons_of_mem _ hMem)]

------------------------------------------------------------
-- Agreement
------------------------------------------------------------

variable {γ : Type}

/- Two computations give the same results; they may fail differently. -/
def Agree
    (first second : Outcome α) : Prop :=
  ∀ result, first = .ok result ↔ second = .ok result

namespace Agree

theorem refl
    (first : Outcome α) :
    Agree first first :=
  fun _ => Iff.rfl

theorem bind
    {first second : Outcome β}
    {next other : β → Outcome α}
    (hFirst : Agree first second)
    (hNext : ∀ v, Agree (next v) (other v)) :
    Agree (first >>= next) (second >>= other) := by
  intro result
  rw [bind_eq_ok_iff, bind_eq_ok_iff]
  refine exists_congr fun v => ?_
  rw [hFirst v, hNext v result]

/- Lists whose items agree one by one agree. -/
theorem mapM
    {compute : β → Outcome α}
    {other : γ → Outcome α}
    {items : List β}
    {others : List γ}
    (hItems :
      List.Forall₂ (fun b c => Agree (compute b) (other c)) items others) :
    Agree (items.mapM compute) (others.mapM other) := by
  induction hItems with
  | nil => exact refl _
  | cons hFirst _ ih =>
      rw [List.mapM_cons, List.mapM_cons]
      exact hFirst.bind fun _ => ih.bind fun _ => refl _

/- Of two that agree, both fail or none does. -/
theorem error_iff
    {first second : Outcome α}
    (hAgree : Agree first second) :
    (∃ fault, first = .error fault) ↔ ∃ fault, second = .error fault := by
  cases first with
  | ok v =>
      rw [(hAgree v).mp rfl]
  | error fault =>
      cases second with
      | ok v => cases (hAgree v).mpr rfl
      | error other => exact iff_of_true ⟨fault, rfl⟩ ⟨other, rfl⟩

end Agree

end Outcome

end Joinery
