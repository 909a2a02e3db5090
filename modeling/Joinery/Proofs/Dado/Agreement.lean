import Joinery.Proofs.Dado.Steps

/-
  Two machines that read programs of as many passes are told
  the same, line by line, if the plans of the programs agree
  on every dimension that is named.

  Key definitions include:
    * `Step.dimensions`
    * `IsCommanded`
    * `Plan.Agrees`
    * `Plan.IsSmall`

  Key theorems include:
    * `Plan.corresponds_iff`
    * `Plan.isStill_iff`
    * `Plan.all_correspond_iff`
    * `Plan.all_still_iff`
-/

namespace Joinery

open Machine

------------------------------------------------------------
-- Dimensions Of Steps
------------------------------------------------------------

/- The dimensions that a step names. -/
def Step.dimensions : Step → List Dimension
  | .motion _ axes _ => axes.map Prod.snd
  | .other _ => []

/- The dimensions that the steps of a cut name. -/
def IsCommanded
    (settings : Settings)
    (count : Nat)
    (d : Dimension) : Prop :=
  ∃ step ∈ programSteps settings count, d ∈ step.dimensions

/- A pass names both sides and its depth. -/
theorem isCommanded_pass
    (settings : Settings)
    {count pass : Nat}
    (hPass : pass < count) :
    IsCommanded settings count .near ∧ IsCommanded settings count .far ∧
      IsCommanded settings count (.depth pass) := by
  have hSteps :
      ∀ step ∈ passSteps pass, step ∈ programSteps settings count := by
    intro step hMem
    refine List.mem_append_left _ (List.mem_append_right _ ?_)
    exact List.mem_flatMap.mpr ⟨pass, List.mem_range.mpr hPass, hMem⟩
  refine ⟨⟨.motion "g0" [(.x, .near), (.y, .zero)] [], ?_, ?_⟩,
    ⟨.motion "g1" [(.x, .far), (.y, .zero)] [], ?_, ?_⟩,
    ⟨.motion "g0" [(.z, .depth pass)] [], ?_, ?_⟩⟩
  · exact hSteps _ (by simp [passSteps])
  · simp [Step.dimensions]
  · exact hSteps _ (by simp [passSteps])
  · simp [Step.dimensions]
  · exact hSteps _ (by simp [passSteps])
  · simp [Step.dimensions]

/- Only the passes of a cut have a depth. -/
theorem pass_lt_of_isCommanded
    {settings : Settings}
    {count pass : Nat}
    (hCommanded : IsCommanded settings count (.depth pass)) :
    pass < count := by
  rcases hCommanded with ⟨step, hMem, hDimension⟩
  rcases List.mem_append.mp hMem with hCut | hStop
  · rcases mem_cutSteps hCut with hSetup | ⟨k, hLess, hPass⟩
    · simp only [setupSteps, List.mem_cons, List.not_mem_nil, or_false]
        at hSetup
      rcases hSetup with
        rfl | rfl | rfl | rfl | rfl | rfl | rfl | rfl | rfl <;>
          simp [Step.dimensions] at hDimension
    · simp only [passSteps, List.mem_cons, List.not_mem_nil, or_false]
        at hPass
      rcases hPass with rfl | rfl | rfl | rfl | rfl <;>
        simp [Step.dimensions] at hDimension
      exact hDimension ▸ hLess
  · rw [List.mem_singleton.mp hStop] at hDimension
    simp [Step.dimensions] at hDimension

------------------------------------------------------------
-- Agreement Of Plans
------------------------------------------------------------

namespace Plan

/- A plan has a numeral for a dimension. -/
def IsShown
    (plan : Plan)
    (u : LengthUnit)
    (d : Dimension) : Prop :=
  ∃ r, Line.Shows u (plan.value d) r

/- Two plans show a dimension alike, but for a hundredth. -/
def Agrees
    (plan other : Plan)
    (u w : LengthUnit)
    (d : Dimension) : Prop :=
  ∃ q r, Line.Shows u (plan.value d) q ∧ Line.Shows w (other.value d) r ∧
    |q - r| ≤ 1 / 100

/- A plan shows a hundredth at most for a dimension. -/
def IsSmall
    (plan : Plan)
    (u : LengthUnit)
    (d : Dimension) : Prop :=
  ∃ r, Line.Shows u (plan.value d) r ∧ |r| ≤ 1 / 100

section Readers

variable {plan other : Plan}
variable {u w : LengthUnit}
variable {step : Step}
variable {s t : Situated Text}

/- Whatever a machine is commanded has been shown. -/
theorem isShown_of_commands
    (hCommands : plan.Commands u step t) :
    ∀ d ∈ step.dimensions, plan.IsShown u d := by
  intro d hMem
  cases step with
  | other op => cases hMem
  | motion mnemonic axes feeds =>
      rcases hCommands with ⟨-, words, -, hWords⟩
      rcases List.mem_map.mp hMem with ⟨e, hEntry, rfl⟩
      rcases exists_related hWords.flip hEntry with
        ⟨word, -, -, hShows⟩
      exact ⟨word.number, hShows⟩

/- Lines of one step correspond if the plans agree on its dimensions. -/
theorem corresponds_iff
    (hFirst : plan.Commands u step s)
    (hSecond : other.Commands w step t) :
    Corresponds s t ↔
      ∀ d ∈ step.dimensions, plan.Agrees other u w d := by
  cases step with
  | other op =>
      have hNone : Block.motion? s.item = none := hFirst
      have hOther : Block.motion? t.item = none := hSecond
      simp [Corresponds, hNone, hOther, Step.dimensions]
  | motion mnemonic axes feeds =>
      rcases hFirst with ⟨hUnit, words, hMotion, hWords⟩
      rcases hSecond with ⟨hOtherUnit, others, hOther, hOthers⟩
      have hSame :
          Corresponds s t ↔
            List.Forall₂ (SameWord .millimeter .millimeter)
              words others := by
        simp [Corresponds, hMotion, hOther, hUnit, hOtherUnit, SameMotion]
      rw [hSame, Step.dimensions, List.forall_mem_map]
      refine forall₂_iff_of_both ?_ hWords hOthers
      rintro e a b ⟨hAddress, hShows⟩ ⟨hOtherAddress, hOtherShows⟩
      have hNumbers :
          SameWord .millimeter .millimeter a b ↔
            |a.number - b.number| ≤ 1 / 100 := by
        norm_num [SameWord, hAddress, hOtherAddress,
          LengthUnit.millimeters]
      rw [hNumbers]
      constructor
      · intro hClose
        exact ⟨a.number, b.number, hShows, hOtherShows, hClose⟩
      · rintro ⟨q, r, hFirst, hSecond, hClose⟩
        rw [hShows.unique hFirst, hOtherShows.unique hSecond]
        exact hClose

/- A line moves by nothing if its plan shows nothing. -/
theorem isStill_iff
    (hCommands : plan.Commands u step t) :
    IsStill t.item ↔ ∀ d ∈ step.dimensions, plan.IsSmall u d := by
  cases step with
  | other op =>
      have hNone : Block.motion? t.item = none := hCommands
      simp [IsStill, hNone, Step.dimensions]
  | motion mnemonic axes feeds =>
      rcases hCommands with ⟨-, words, hMotion, hWords⟩
      have hStill :
          IsStill t.item ↔ ∀ word ∈ words, |word.number| ≤ 1 / 100 := by
        simp [IsStill, hMotion]
      rw [hStill, Step.dimensions, List.forall_mem_map]
      refine forall_iff_of_related ?_ hWords
      rintro e word ⟨-, hShows⟩
      constructor
      · intro hSmall
        exact ⟨word.number, hShows, hSmall⟩
      · rintro ⟨r, hSame, hSmall⟩
        rw [hShows.unique hSame]
        exact hSmall

end Readers

------------------------------------------------------------
-- Whole Programs
------------------------------------------------------------

/- What holds of the dimensions of all steps holds of those commanded. -/
theorem forall_isCommanded_iff
    {settings : Settings}
    {count : Nat}
    {claim : Dimension → Prop} :
    (∀ d, IsCommanded settings count d → claim d) ↔
      ∀ step ∈ programSteps settings count, ∀ d ∈ step.dimensions,
        claim d := by
  constructor
  · intro hClaim step hStep d hDimension
    exact hClaim d ⟨step, hStep, hDimension⟩
  · rintro hClaim d ⟨step, hStep, hDimension⟩
    exact hClaim step hStep d hDimension

section Programs

variable {plan other : Plan}
variable {settings : Settings}
variable {count : Nat}
variable {u w : LengthUnit}
variable {lines others : List (Situated Text)}

/- All lines correspond if the plans agree on all dimensions. -/
theorem all_correspond_iff
    (hReads :
      List.Forall₂ (plan.Commands u) (programSteps settings count) lines)
    (hOthers :
      List.Forall₂ (other.Commands w) (programSteps settings count)
        others) :
    List.Forall₂ Corresponds lines others ↔
      ∀ d, IsCommanded settings count d → plan.Agrees other u w d := by
  have hSteps :
      List.Forall₂ Corresponds lines others ↔
        ∀ step ∈ programSteps settings count, ∀ d ∈ step.dimensions,
          plan.Agrees other u w d := by
    refine forall₂_iff_of_both ?_ hReads hOthers
    intro step s t hFirst hSecond
    exact corresponds_iff hFirst hSecond
  exact hSteps.trans forall_isCommanded_iff.symm

/- All lines are still if the plan shows next to nothing. -/
theorem all_still_iff
    (hReads :
      List.Forall₂ (plan.Commands u) (programSteps settings count)
        lines) :
    (∀ t ∈ lines, IsStill t.item) ↔
      ∀ d, IsCommanded settings count d → plan.IsSmall u d := by
  have hSteps :
      (∀ t ∈ lines, IsStill t.item) ↔
        ∀ step ∈ programSteps settings count, ∀ d ∈ step.dimensions,
          plan.IsSmall u d := by
    refine forall_iff_of_related ?_ hReads
    intro step t hCommands
    exact isStill_iff hCommands
  exact hSteps.trans forall_isCommanded_iff.symm

/- Programs that are read to the end show all dimensions. -/
theorem all_shown
    (hReads :
      List.Forall₂ (plan.Commands u) (programSteps settings count) lines)
    {d : Dimension}
    (hCommanded : IsCommanded settings count d) :
    plan.IsShown u d := by
  rcases hCommanded with ⟨step, hStep, hDimension⟩
  rcases exists_related hReads.flip hStep with ⟨t, -, hCommands⟩
  exact isShown_of_commands hCommands d hDimension

end Programs

end Plan

end Joinery
