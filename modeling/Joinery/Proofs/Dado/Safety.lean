import Joinery.Proofs.Dado.Exact

/-
  A generated cut of exact parameters is safe to run. The
  machine is zeroed and probed before the spindle starts, it
  counts in absolute coordinates wherever it moves, and it
  cuts complete passes at exact spots, only while the spindle
  is on.

  Key definitions include:
    * `IsInSafeOrder`
    * `IsSafeCut`

  Key theorems include:
    * `Lengths.deeds_in_safe_order`
    * `Lengths.corners_of_cut`
    * `Lengths.generated_cut_safe`
-/

namespace Joinery

open Machine

------------------------------------------------------------
-- Safe Cuts
------------------------------------------------------------

/- To retract to a height at the feed rate that is set for it. -/
def Deed.retract
    (height : Rat) : Deed :=
  .rapid { Motion.upright height with fed := true }

/- A deed is one of the five moves of a pass. -/
def Lengths.InPass
    (lengths : Lengths)
    (deed : Deed) : Prop :=
  ∃ k, deed ∈ lengths.pass k

/-
  The spindle is on for every cut and is stopped at the end.
  The height is probed before it is declared, and declared
  before the tool retracts and the probe is detached, all of
  it before any pass.
-/
structure IsInSafeOrder
    (lengths : Lengths)
    (deeds : List Deed) : Prop where
  cutsAfterStart :
    OnlyAfter (· = .prompt "Start Spindle") Deed.IsCut deeds
  cutsBeforeStop :
    OnlyBefore (· = .prompt "Stop Spindle") Deed.IsCut deeds
  stopsLast :
    deeds.getLast? = some (.prompt "Stop Spindle")
  heightAfterProbe :
    OnlyAfter (· = .probe "z") Deed.DeclaresHeight deeds
  retractAfterHeight :
    OnlyAfter (· = .declare (Motion.upright lengths.plate))
      (· = .retract lengths.retract) deeds
  detachAfterHeight :
    OnlyAfter (· = .declare (Motion.upright lengths.plate))
      (· = .prompt "Detach ZProbe") deeds
  passesAfterRetract :
    OnlyAfter (· = .retract lengths.retract) lengths.InPass deeds
  passesAfterDetach :
    OnlyAfter (· = .prompt "Detach ZProbe") lengths.InPass deeds

/-
  The deeds of a cut are its setup and, once the spindle is
  started, complete passes and nothing else that moves. A tool
  that follows them makes the strokes of these passes, each at
  the depth of its pass.
-/
def IsOfWholePasses
    (lengths : Lengths)
    (ambient : Ambient)
    (deeds : List Deed) : Prop :=
  ∃ front back count,
    0 < count ∧
      deeds =
        front ++ lengths.setup ++ .prompt "Start Spindle" ::
          ((List.range count).flatMap lengths.pass ++ back) ∧
      (∀ deed ∈ front ++ back, ¬ deed.IsMotion) ∧
      ∀ tool : Tool, tool.modes = ambient →
        tool.strokes deeds =
          (List.range count).flatMap lengths.passStrokes

/-
  A program whose leaves, run in order by a machine that is
  in an ambient state, cut a dado of some lengths safely.
-/
structure IsSafeCut
    (lengths : Lengths)
    (ambient : Ambient)
    (program : Operation) : Prop where
  order : IsInSafeOrder lengths (Deed.ofProgram program)
  absolute :
    ∀ s ∈ visits ModeSwitch.ofLeaf? ambient program.leaves,
      (Deed.ofLeaf s.item).IsMotion → s.modes.mode = .absolute
  passes : IsOfWholePasses lengths ambient (Deed.ofProgram program)
  corners :
    ∀ motion, .cut motion ∈ Deed.ofProgram program →
      (motion.x = some (lengths.exact .near) ∨
          motion.x = some (lengths.exact .far)) ∧
        (motion.y = some 0 ∨ motion.y = some lengths.length) ∧
        motion.z = none
  inside :
    lengths.cutter ≤ lengths.stock / 2 →
      ∀ motion, .cut motion ∈ Deed.ofProgram program →
        ∀ x ∈ motion.x,
          lengths.offset + lengths.stock / 2 ≤ x - lengths.cutter / 2 ∧
            x + lengths.cutter / 2 ≤ lengths.offset + lengths.stock
  apart :
    lengths.cutter < lengths.stock / 2 →
      lengths.exact .far < lengths.exact .near

------------------------------------------------------------
-- Deeds Of A Cut
------------------------------------------------------------

namespace Lengths

section Deeds

variable (lengths : Lengths)
variable (ambient : Ambient)
variable (count : Nat)

/- The deeds of a cut end with the prompt to stop the spindle. -/
theorem deeds_eq_append_stop :
    lengths.deeds ambient count =
      (switches Plan.working ++ lengths.setup ++
        .prompt "Start Spindle" ::
          (lengths.passes count ++ (switches ambient).reverse)) ++
        [.prompt "Stop Spindle"] := by
  simp [deeds]

/-
  What is not asked for up to some deed of the setup is
  asked for only after it.
-/
theorem only_after_setup
    (place : Nat)
    {late : Deed → Prop}
    {mark : Deed}
    (hMark : lengths.setup[place]? = some mark)
    (hNotLate :
      ∀ deed ∈ switches Plan.working ++ lengths.setup.take (place + 1),
        ¬ late deed) :
    OnlyAfter (· = mark) late (lengths.deeds ambient count) := by
  rcases List.getElem?_eq_some_iff.mp hMark with ⟨hPlace, hItem⟩
  have hTake :
      lengths.setup.take (place + 1) =
        lengths.setup.take place ++ [mark] := by
    rw [List.take_succ_eq_append_getElem hPlace, hItem]
  have hSetup :
      lengths.setup =
        lengths.setup.take place ++
          mark :: lengths.setup.drop (place + 1) := by
    rw [← hItem, List.cons_getElem_drop_succ, List.take_append_drop]
  rw [hTake, ← List.append_assoc] at hNotLate
  rw [deeds, hSetup, ← List.append_assoc, List.append_assoc _ (mark :: _),
    List.cons_append]
  apply OnlyAfter.of_split
  · rfl
  · exact hNotLate mark (List.mem_append_right _ (List.mem_singleton_self _))
  · intro deed hMem
    exact hNotLate deed (List.mem_append_left _ hMem)

/- The deeds of a cut come in a safe order. -/
theorem deeds_in_safe_order :
    IsInSafeOrder lengths (lengths.deeds ambient count) where
  cutsAfterStart := by
    rw [deeds]
    apply OnlyAfter.of_split
    · rfl
    · rintro ⟨motion, ⟨⟩⟩
    · intro deed hMem
      exact lengths.no_cut_before hMem
  cutsBeforeStop := by
    rw [deeds_eq_append_stop]
    apply OnlyBefore.of_split
    · rfl
    · rintro ⟨motion, ⟨⟩⟩
    · intro deed hMem
      cases hMem
  stopsLast := by
    rw [deeds_eq_append_stop]
    exact List.getLast?_concat
  heightAfterProbe := by
    apply lengths.only_after_setup ambient count 2 rfl
    simp [switches, setup, Deed.DeclaresHeight, Motion.across]
  retractAfterHeight := by
    apply lengths.only_after_setup ambient count 3 rfl
    simp [switches, setup, Deed.retract]
  detachAfterHeight := by
    apply lengths.only_after_setup ambient count 3 rfl
    have hOther : ("Attach ZProbe - Top" : Text) ≠ "Detach ZProbe" := by
      decide
    simp [switches, setup, hOther]
  passesAfterRetract := by
    apply lengths.only_after_setup ambient count 4 rfl
    simp [switches, setup, InPass, pass, Motion.upright, Motion.across]
  passesAfterDetach := by
    apply lengths.only_after_setup ambient count 6 rfl
    simp [switches, setup, InPass, pass, Motion.upright, Motion.across]

/- What is cut in the deeds of a cut is cut in a pass. -/
theorem cut_mem_pass
    {motion : Motion}
    (hMem : .cut motion ∈ lengths.deeds ambient count) :
    ∃ k < count, .cut motion ∈ lengths.pass k := by
  rw [deeds] at hMem
  rcases List.mem_append.mp hMem with hFront | hMem
  · exact absurd ⟨motion, rfl⟩ (lengths.no_cut_before hFront)
  · simp only [List.append_assoc, List.mem_cons, reduceCtorEq, false_or] at hMem
    rcases List.mem_append.mp hMem with hPass | hBack
    · rcases List.mem_flatMap.mp hPass with ⟨k, hRange, hCut⟩
      exact ⟨k, List.mem_range.mp hRange, hCut⟩
    · exact absurd ⟨motion, Or.inr (Or.inl rfl)⟩ (no_motion_after hBack)

/- The cuts of a cut lead to three corners. -/
theorem corners_of_cut
    {motion : Motion}
    (hMem : .cut motion ∈ lengths.deeds ambient count) :
    motion = Motion.across (lengths.exact .near) lengths.length ∨
      motion = Motion.across (lengths.exact .far) lengths.length ∨
      motion = Motion.across (lengths.exact .far) 0 := by
  rcases lengths.cut_mem_pass ambient count hMem with ⟨k, -, hCut⟩
  simpa [pass] using hCut

end Deeds

/-
  Whatever the settings and wherever it is started, a
  generated cut of exact lengths is safe.
-/
theorem generated_cut_safe
    (lengths : Lengths)
    (settings : Settings)
    (ambient : Ambient)
    (program : Operation)
    (hGenerated :
      (generate lengths.joint settings).result ambient = .ok program) :
    IsSafeCut lengths ambient program := by
  rcases Plan.exists_exact hGenerated with ⟨plan, hPlan, rfl, hPass⟩
  have hDeeds := Plan.deeds_eq hPlan ambient
  have hCorners :
      ∀ motion,
        .cut motion ∈ Deed.ofProgram (plan.program settings ambient) →
          motion = Motion.across (lengths.exact .near) lengths.length ∨
            motion = Motion.across (lengths.exact .far) lengths.length ∨
            motion = Motion.across (lengths.exact .far) 0 := by
    intro motion hMem
    rw [hDeeds] at hMem
    exact lengths.corners_of_cut ambient _ hMem
  constructor
  case order =>
    rw [hDeeds]
    exact lengths.deeds_in_safe_order ambient _
  case absolute =>
    intro s hVisit hMotion
    rw [(plan.program_coheres settings ambient).1] at hVisit
    rcases List.mem_append.mp hVisit with hCut | hStop
    · rcases List.mem_map.mp hCut with ⟨step, -, rfl⟩
      rfl
    · cases List.mem_singleton.mp hStop
      rcases hMotion with ⟨motion, hRapid | hCut | hDeclare⟩
      · cases hRapid
      · cases hCut
      · cases hDeclare
  case passes =>
    rw [hDeeds]
    refine ⟨switches Plan.working,
      (switches ambient).reverse ++ [.prompt "Stop Spindle"],
      plan.geometry.depths.length, hPass, ?_, ?_, ?_⟩
    · rw [deeds, passes, List.append_assoc (List.flatMap _ _)]
    · intro deed hMem
      rcases List.mem_append.mp hMem with hFront | hBack
      · rintro ⟨motion, rfl | rfl | rfl⟩ <;> simp [switches] at hFront
      · exact no_motion_after hBack
    · intro tool hModes
      exact lengths.strokes_deeds ambient _ tool
  case corners =>
    intro motion hMem
    rcases hCorners motion hMem with rfl | rfl | rfl
    · exact ⟨Or.inl rfl, Or.inr rfl, rfl⟩
    · exact ⟨Or.inr rfl, Or.inr rfl, rfl⟩
    · exact ⟨Or.inr rfl, Or.inl rfl, rfl⟩
  case inside =>
    intro hNarrow motion hMem x hNamed
    have hSides : x = lengths.exact .near ∨ x = lengths.exact .far := by
      rcases hCorners motion hMem with rfl | rfl | rfl
      · exact Or.inl (Option.some.inj hNamed).symm
      · exact Or.inr (Option.some.inj hNamed).symm
      · exact Or.inr (Option.some.inj hNamed).symm
    rcases hSides with rfl | rfl
    · constructor <;> rw [exact] <;> linarith
    · constructor <;> rw [exact] <;> linarith
  case apart =>
    intro hNarrow
    rw [exact, exact]
    linarith

/- The lengths of a joint that takes four passes. -/
def quarterInch : Lengths where
  plate := 21 / 5
  retract := 5
  stock := 127 / 10
  cutter := 127 / 40
  offset := 20
  length := 762 / 5

/-
  A cut of four passes is safe, even if it is generated for a
  machine in inches and relative coordinates.
-/
theorem quarterInch_cut_safe :
    ∃ program,
      (generate quarterInch.joint
          { depthTolerance := .ratio (1 / 1000) }).result
        { unit := .inch, mode := .relative } = .ok program ∧
      IsSafeCut quarterInch { unit := .inch, mode := .relative }
        program := by
  have hBuilt :
      ((generate quarterInch.joint
          { depthTolerance := .ratio (1 / 1000) }).result
        { unit := .inch, mode := .relative }).toOption.map
          (fun _ => true) = some true := by
    decide +kernel
  rcases Outcome.exists_of_toOption hBuilt with ⟨program, hGenerated, -⟩
  exact ⟨program, hGenerated,
    generated_cut_safe quarterInch _ _ program hGenerated⟩

end Lengths

end Joinery
