import Mathlib.Data.List.Forall2

/-
  Two lists are related if their items are, one by one. What
  holds of the items of one list carries over to the other.

  Key theorems include:
    * `exists_forall₂`
    * `forall₂_iff_of_both`
    * `forall_iff_of_related`
-/

namespace Joinery

variable {α β γ : Type}

/- Where related items agree on two claims, so do related lists. -/
theorem forall₂_iff_of_related
    {related claim : α → β → Prop}
    {claimed : α → Prop}
    (hAgree : ∀ a b, related a b → (claim a b ↔ claimed a))
    {items : List α}
    {others : List β}
    (hRelated : List.Forall₂ related items others) :
    List.Forall₂ claim items others ↔ ∀ a ∈ items, claimed a := by
  induction hRelated with
  | nil => simp
  | cons hFirst _ ih =>
      rw [List.forall₂_cons, List.forall_mem_cons, hAgree _ _ hFirst, ih]

/- Items that are all related to something are a list's counterpart. -/
theorem exists_forall₂
    {related : α → β → Prop}
    {items : List α}
    (hEach : ∀ a ∈ items, ∃ b, related a b) :
    ∃ others, List.Forall₂ related items others := by
  induction items with
  | nil => exact ⟨[], .nil⟩
  | cons first rest ih =>
      rcases hEach first (List.mem_cons_self ..) with ⟨b, hFirst⟩
      rcases ih fun a hMem => hEach a (List.mem_cons_of_mem _ hMem) with
        ⟨others, hRest⟩
      exact ⟨b :: others, .cons hFirst hRest⟩

/- An item of a related list has an item that it is related to. -/
theorem exists_related
    {related : α → β → Prop}
    {items : List α}
    {others : List β}
    (hRelated : List.Forall₂ related items others)
    {b : β}
    (hMem : b ∈ others) :
    ∃ a ∈ items, related a b := by
  induction hRelated with
  | nil => cases hMem
  | cons hFirst _ ih =>
      rcases List.mem_cons.mp hMem with rfl | hLater
      · exact ⟨_, List.mem_cons_self .., hFirst⟩
      · rcases ih hLater with ⟨a, hItem, hPair⟩
        exact ⟨a, List.mem_cons_of_mem _ hItem, hPair⟩

/- Where lists are related to one list, a claim about both is one about it. -/
theorem forall₂_iff_of_both
    {first : α → β → Prop}
    {second : α → γ → Prop}
    {claim : β → γ → Prop}
    {claimed : α → Prop}
    (hAgree : ∀ a b c, first a b → second a c → (claim b c ↔ claimed a))
    {items : List α}
    {bs : List β}
    {cs : List γ}
    (hFirst : List.Forall₂ first items bs)
    (hSecond : List.Forall₂ second items cs) :
    List.Forall₂ claim bs cs ↔ ∀ a ∈ items, claimed a := by
  induction hFirst generalizing cs with
  | nil =>
      cases hSecond
      simp
  | cons hItem _ ih =>
      cases hSecond with
      | cons hOther hRest =>
          rw [List.forall₂_cons, List.forall_mem_cons,
            hAgree _ _ _ hItem hOther, ih hRest]

/- A claim about every item of a list is one about a related list. -/
theorem forall_iff_of_related
    {related : α → β → Prop}
    {claim : β → Prop}
    {claimed : α → Prop}
    (hAgree : ∀ a b, related a b → (claim b ↔ claimed a))
    {items : List α}
    {others : List β}
    (hRelated : List.Forall₂ related items others) :
    (∀ b ∈ others, claim b) ↔ ∀ a ∈ items, claimed a := by
  induction hRelated with
  | nil => simp
  | cons hItem _ ih =>
      rw [List.forall_mem_cons, List.forall_mem_cons, hAgree _ _ hItem, ih]

end Joinery
