import Joinery.Dado.Path
import Joinery.Proofs.Machine.Motions
import Joinery.Proofs.Machine.Placement

/-
  The program of a cut is made from a plan: the parameters
  as plain numbers, and the geometry computed from them. It
  is a fixed sequence of steps, whatever the plan, but for
  the number of passes. What the plan says is only which
  numbers stand where.

  Key definitions include:
    * `Plan`
    * `Plan.program`
    * `Dimension`
    * `Step`
    * `programSteps`

  Key theorems include:
    * `generate_result`
    * `Plan.leaves_setupAndCut`
    * `Plan.leaves_program`
    * `Plan.program_coheres`
-/

namespace Joinery

------------------------------------------------------------
-- Plans
------------------------------------------------------------

/- What the program of a cut is made from. -/
structure Plan where
  joint : Joint
  geometry : Geometry

/- The plan of a joint in a unit. -/
def Joint.plan
    (settings : Settings)
    (u : LengthUnit)
    (joint : Joint) : Outcome Plan := do
  let plain ← joint.converted u
  let geometry ← Geometry.ofJoint settings plain
  return ⟨plain, geometry⟩

/- The program that is made from a plan in an ambient state. -/
def Plan.program
    (plan : Plan)
    (settings : Settings)
    (ambient : Ambient) : Operation :=
  .group
    [ .group
        [ Instruction.ofPositioning .absolute,
          .group
            [ Instruction.ofUnit .millimeter,
              setupAndCut settings plan.joint plan.geometry,
              Instruction.ofUnit ambient.unit ],
          Instruction.ofPositioning ambient.mode ],
      say "Stop Spindle" ]

/- A cut is made into the program of its plan. -/
theorem cut_result
    (plan : Plan)
    (settings : Settings)
    (ambient : Ambient) :
    (cut settings plan.joint plan.geometry).result ambient =
      .ok (plan.program settings ambient) := by
  have hBody :
      Build.Keeps
        (pure (setupAndCut settings plan.joint plan.geometry) :
          Build Operation) :=
    Build.Keeps.pure _
  rw [cut, Build.result_bind
    ((hBody.unitScope .millimeter).positioningScope .absolute),
    Build.result_positioningScope _ (hBody.unitScope .millimeter),
    Build.result_unitScope _ hBody]
  rfl

/- A program is generated exactly if there is a plan, and from the plan. -/
theorem generate_result
    (joint : Joint)
    (settings : Settings)
    (ambient : Ambient) :
    (generate joint settings).result ambient =
      (joint.plan settings ambient.unit).map
        (·.program settings ambient) := by
  rw [generate, Build.result_bind (Build.Keeps.reading _),
    Build.result_reading, Joint.plan]
  cases joint.converted ambient.unit with
  | error fault => rfl
  | ok plain =>
      rw [Outcome.ok_bind, Outcome.ok_bind,
        Build.result_bind (Build.Keeps.ofOutcome _),
        Build.result_ofOutcome]
      cases Geometry.ofJoint settings plain with
      | error fault => rfl
      | ok geometry => exact cut_result ⟨plain, geometry⟩ settings ambient

------------------------------------------------------------
-- Steps
------------------------------------------------------------

/- A number that a plan gives to the moves of a cut. -/
inductive Dimension where
  | zero
  | plate
  | retract
  | length
  | near
  | far
  | depth
      (pass : Nat)
  deriving DecidableEq, Repr

/- The value that a plan has for a dimension. -/
def Plan.value
    (plan : Plan) : Dimension → Value
  | .zero => .int 0
  | .plate => plan.joint.plateThickness
  | .retract => plan.joint.retractHeight
  | .length => plan.joint.passLength
  | .near => plan.geometry.x1.toValue
  | .far => plan.geometry.x2.toValue
  | .depth pass =>
      (plan.geometry.depths.getD pass (.int 0)).neg.toValue

/-
  A step of a cut: a motion along some axes, which may have
  a feed rate, or an instruction that moves nothing.
-/
inductive Step where
  | motion
      (mnemonic : String)
      (axes : List (Axis × Dimension))
      (feeds : List Value)
  | other
      (op : Operation)

/- The leaf that a plan makes of a step. -/
def Plan.leaf
    (plan : Plan) : Step → Operation
  | .motion mnemonic axes feeds =>
      Instruction.known mnemonic
        [.dict
          ((axes.map fun e => (e.1, plan.value e.2)).map Axis.entry ++
            feeds.map Instruction.feedEntry)]
  | .other op => op

/- The steps before the passes. -/
def setupSteps
    (settings : Settings) : List Step :=
  [ .motion "g92" [(.x, .zero), (.y, .zero)] [],
    .other (say "Attach ZProbe - Top"),
    .other (Instruction.known "g28" [.token (.text "z")]),
    .motion "g92" [(.z, .plate)] [],
    .motion "g0" [(.z, .retract)] [settings.retractFeed],
    .other Instruction.awaitMoves,
    .other (say "Detach ZProbe"),
    .other (say "Position Part for Dado"),
    .other (say "Start Spindle") ]

/- The steps of one pass. -/
def passSteps
    (pass : Nat) : List Step :=
  [ .motion "g0" [(.x, .near), (.y, .zero)] [],
    .motion "g0" [(.z, .depth pass)] [],
    .motion "g1" [(.x, .near), (.y, .length)] [],
    .motion "g1" [(.x, .far), (.y, .length)] [],
    .motion "g1" [(.x, .far), (.y, .zero)] [] ]

/- The steps of a cut with a number of passes. -/
def cutSteps
    (settings : Settings)
    (count : Nat) : List Step :=
  setupSteps settings ++ (List.range count).flatMap passSteps

/- All steps of a program with a number of passes. -/
def programSteps
    (settings : Settings)
    (count : Nat) : List Step :=
  cutSteps settings count ++ [.other (say "Stop Spindle")]

/- The instructions of a cut that move nothing. -/
def stillLeaves : List Operation :=
  [ say "Attach ZProbe - Top",
    Instruction.known "g28" [.token (.text "z")],
    Instruction.awaitMoves,
    say "Detach ZProbe",
    say "Position Part for Dado",
    say "Start Spindle",
    say "Stop Spindle" ]

theorem mem_cutSteps
    {settings : Settings}
    {count : Nat}
    {step : Step}
    (hMem : step ∈ cutSteps settings count) :
    step ∈ setupSteps settings ∨
      ∃ k < count, step ∈ passSteps k := by
  rcases List.mem_append.mp hMem with hSetup | hPass
  · exact Or.inl hSetup
  · rcases List.mem_flatMap.mp hPass with ⟨k, hRange, hStep⟩
    exact Or.inr ⟨k, List.mem_range.mp hRange, hStep⟩

/- Steps other than motions are the instructions that move nothing. -/
theorem mem_stillLeaves
    {settings : Settings}
    {count : Nat}
    {op : Operation}
    (hMem : .other op ∈ programSteps settings count) :
    op ∈ stillLeaves := by
  rcases List.mem_append.mp hMem with hCut | hStop
  · rcases mem_cutSteps hCut with hSetup | ⟨k, -, hPass⟩
    · simp only [setupSteps, List.mem_cons, List.not_mem_nil,
        Step.other.injEq, reduceCtorEq, false_or, or_false] at hSetup
      simp only [stillLeaves, List.mem_cons]
      rcases hSetup with rfl | rfl | rfl | rfl | rfl | rfl <;> simp
    · simp [passSteps] at hPass
  · cases List.mem_singleton.mp hStop
    simp [stillLeaves]

/- The motions of a cut have the mnemonics of motions. -/
theorem mem_motions
    {settings : Settings}
    {count : Nat}
    {mnemonic : String}
    {axes : List (Axis × Dimension)}
    {feeds : List Value}
    (hMem : .motion mnemonic axes feeds ∈ programSteps settings count) :
    mnemonic ∈ Instruction.motions := by
  rcases List.mem_append.mp hMem with hCut | hStop
  · rcases mem_cutSteps hCut with hSetup | ⟨k, -, hPass⟩
    · simp only [setupSteps, List.mem_cons, List.not_mem_nil,
        Step.motion.injEq, reduceCtorEq, false_or, or_false] at hSetup
      rcases hSetup with ⟨rfl, -, -⟩ | ⟨rfl, -, -⟩ | ⟨rfl, -, -⟩ <;>
        decide
    · simp only [passSteps, List.mem_cons, List.not_mem_nil,
        Step.motion.injEq, or_false] at hPass
      rcases hPass with
        ⟨rfl, -, -⟩ | ⟨rfl, -, -⟩ | ⟨rfl, -, -⟩ | ⟨rfl, -, -⟩ |
          ⟨rfl, -, -⟩ <;> decide
  · simp at hStop

------------------------------------------------------------
-- Leaves Of A Cut
------------------------------------------------------------

namespace Plan

/- A list is its items by their places. -/
theorem map_getD_range
    {α : Type}
    (items : List α)
    (standard : α) :
    (List.range items.length).map (items.getD · standard) = items := by
  refine List.ext_getElem (by simp) fun k hRange hItem => ?_
  simp [List.getElem?_eq_getElem hItem]

theorem allLeaves_eq_flatMap
    (ops : List Operation) :
    Operation.allLeaves ops = ops.flatMap Operation.leaves := by
  induction ops with
  | nil => simp
  | cons op rest ih => simp [ih]

/- The leaves of all passes are the steps of one after the other. -/
theorem leaves_passes
    (plan : Plan) :
    (passes plan.geometry plan.joint.passLength).leaves =
      ((List.range plan.geometry.depths.length).flatMap passSteps).map
        plan.leaf := by
  rw [passes, Operation.leaves_group, allLeaves_eq_flatMap,
    List.flatMap_map, List.map_flatMap]
  conv_lhs =>
    rw [← map_getD_range plan.geometry.depths (.int 0), List.flatMap_map]
  rfl

/- The leaves of the work are its steps. -/
theorem leaves_setupAndCut
    (settings : Settings)
    (plan : Plan) :
    (setupAndCut settings plan.joint plan.geometry).leaves =
      (cutSteps settings plan.geometry.depths.length).map plan.leaf := by
  have hSplit :
      setupAndCut settings plan.joint plan.geometry =
        .group ((setupSteps settings).map plan.leaf ++
          [passes plan.geometry plan.joint.passLength]) := rfl
  have hSetup :
      Operation.allLeaves ((setupSteps settings).map plan.leaf) =
        (setupSteps settings).map plan.leaf := rfl
  rw [hSplit, Operation.leaves_group, Operation.allLeaves_append, hSetup,
    Operation.allLeaves_cons, Operation.allLeaves_nil, List.append_nil,
    leaves_passes, cutSteps, List.map_append]

/- The leaves of a program: switches to the modes, steps, and back. -/
theorem leaves_program
    (plan : Plan)
    (settings : Settings)
    (ambient : Ambient) :
    (plan.program settings ambient).leaves =
      Instruction.ofPositioning .absolute ::
        Instruction.ofUnit .millimeter ::
          ((cutSteps settings plan.geometry.depths.length).map
              plan.leaf ++
            [ Instruction.ofUnit ambient.unit,
              Instruction.ofPositioning ambient.mode,
              say "Stop Spindle" ]) := by
  have hUnit :
      ∀ u, (Instruction.ofUnit u).leaves = [Instruction.ofUnit u] :=
    fun _ => rfl
  have hMode :
      ∀ mode,
        (Instruction.ofPositioning mode).leaves =
          [Instruction.ofPositioning mode] :=
    fun _ => rfl
  have hSay : (say "Stop Spindle").leaves = [say "Stop Spindle"] := rfl
  simp [program, ← leaves_setupAndCut, hUnit, hMode, hSay]

------------------------------------------------------------
-- Machines On A Cut
------------------------------------------------------------

open Machine

/- The state of a machine at work. -/
def working : Ambient :=
  { unit := .millimeter, mode := .absolute }

/- No step switches a mode. -/
theorem ofLeaf?_leaf
    (plan : Plan)
    {settings : Settings}
    {count : Nat}
    {step : Step}
    (hMem : step ∈ cutSteps settings count) :
    ModeSwitch.ofLeaf? (plan.leaf step) = none := by
  cases step with
  | motion mnemonic axes feeds => rfl
  | other op =>
      have hStill := mem_stillLeaves (List.mem_append_left _ hMem)
      simp only [stillLeaves, List.mem_cons, List.not_mem_nil, or_false]
        at hStill
      rcases hStill with rfl | rfl | rfl | rfl | rfl | rfl | rfl <;> rfl

/- The leaves of a program, each in the state it is reached in. -/
def placed
    (plan : Plan)
    (settings : Settings)
    (ambient : Ambient) : List (Situated Operation) :=
  (cutSteps settings plan.geometry.depths.length).map
      (fun step => ⟨working, plan.leaf step⟩) ++
    [⟨ambient, say "Stop Spindle"⟩]

/-
  A machine that starts in the ambient state takes the steps
  in millimetres and absolute coordinates, and the last
  prompt in the state that it started in.
-/
theorem program_coheres
    (plan : Plan)
    (settings : Settings)
    (ambient : Ambient) :
    Coheres ambient (plan.program settings ambient).leaves
      (plan.placed settings ambient) := by
  have hSteps :
      Coheres working
        (setupAndCut settings plan.joint plan.geometry).leaves
        ((cutSteps settings plan.geometry.depths.length).map
          fun step => ⟨working, plan.leaf step⟩) := by
    have hOther :
        ∀ leaf ∈
          (cutSteps settings plan.geometry.depths.length).map plan.leaf,
          ModeSwitch.ofLeaf? leaf = none := by
      intro leaf hMem
      rcases List.mem_map.mp hMem with ⟨step, hStep, rfl⟩
      exact plan.ofLeaf?_leaf hStep
    have hVisits := visits_of_no_switch working hOther
    rw [leaves_setupAndCut, Coheres]
    rw [List.map_map] at hVisits
    exact hVisits
  have hWork :
      Coheres ambient
        (Operation.group
          [ Instruction.ofPositioning .absolute,
            .group
              [ Instruction.ofUnit .millimeter,
                setupAndCut settings plan.joint plan.geometry,
                Instruction.ofUnit ambient.unit ],
            Instruction.ofPositioning ambient.mode ]).leaves
        ((cutSteps settings plan.geometry.depths.length).map
          fun step => ⟨working, plan.leaf step⟩) := by
    refine Coheres.bracket (ModeSwitch.ofLeaf?_ofPositioning _)
      (ModeSwitch.ofLeaf?_ofPositioning _) rfl ?_
    exact Coheres.bracket (ModeSwitch.ofLeaf?_ofUnit _)
      (ModeSwitch.ofLeaf?_ofUnit _) rfl hSteps
  have hStop :
      Coheres ambient [say "Stop Spindle"] [⟨ambient, say "Stop Spindle"⟩] :=
    ⟨rfl, rfl⟩
  have hLeaves := hWork.append hStop
  rw [program, Operation.leaves_group, Operation.allLeaves_cons,
    Operation.allLeaves_cons, Operation.allLeaves_nil]
  exact hLeaves

------------------------------------------------------------
-- Lines Of A Cut
------------------------------------------------------------

/-
  A line that is read in some modes commands what a plan has
  for a step: the numbers that the values are shown as, in
  millimetres, or no motion at all.
-/
def Commands
    (plan : Plan)
    (u : LengthUnit)
    (step : Step)
    (t : Situated Text) : Prop :=
  match step with
  | .motion mnemonic axes _ =>
      t.modes.unit = .millimeter ∧
        ∃ words,
          Block.motion? t.item =
            some ⟨(Instruction.head mnemonic).letters, words⟩ ∧
          List.Forall₂
            (fun e word => word.address = .char e.1.address ∧
              Line.Shows u (plan.value e.2) word.number)
            axes words
  | .other _ => Block.motion? t.item = none

/- An instruction that moves nothing commands no motion. -/
theorem motion?_still
    {u : LengthUnit}
    {op : Operation}
    {line : Text}
    (hStill : op ∈ stillLeaves)
    (hLine : Line.ofOperation u op = .ok line) :
    Block.motion? line = none := by
  simp only [stillLeaves, List.mem_cons, List.not_mem_nil, or_false]
    at hStill
  rcases hStill with rfl | rfl | rfl | rfl | rfl | rfl | rfl <;>
    cases hLine <;> decide +kernel

/- The line of a step commands what the plan has for it. -/
theorem commands_of_line
    {plan : Plan}
    {settings : Settings}
    {count : Nat}
    {u : LengthUnit}
    {step : Step}
    {t : Situated Text}
    (hMem : step ∈ programSteps settings count)
    (hModes : step ∈ cutSteps settings count → t.modes = working)
    (hLine : Line.ofOperation u (plan.leaf step) = .ok t.item) :
    plan.Commands u step t := by
  cases step with
  | other op => exact motion?_still (mem_stillLeaves hMem) hLine
  | motion mnemonic axes feeds =>
      have hCut :
          .motion mnemonic axes feeds ∈ cutSteps settings count := by
        rcases List.mem_append.mp hMem with hCut | hStop
        · exact hCut
        · simp at hStop
      rcases Block.motion?_ofInstruction (mem_motions hMem) hLine with
        ⟨words, hMotion, hWords⟩
      refine ⟨by rw [hModes hCut]; rfl, words, hMotion, ?_⟩
      exact List.forall₂_map_left_iff.mp hWords

/-
  A machine that reads the complete listing of a program is
  commanded what the plan has for one step after the other.
-/
theorem reads_commands
    (plan : Plan)
    (settings : Settings)
    (ambient : Ambient)
    (hComplete :
      (Listing.ofProgram ambient.unit
        (plan.program settings ambient)).fault = none) :
    List.Forall₂ (plan.Commands ambient.unit)
      (programSteps settings plan.geometry.depths.length)
      (reads ambient (plan.program settings ambient)) := by
  have hVisits :
      List.Forall₂
        (fun s t => s.modes = t.modes ∧
          Line.ofOperation ambient.unit s.item = .ok t.item)
        (plan.placed settings ambient)
        (reads ambient (plan.program settings ambient)) := by
    rw [← (plan.program_coheres settings ambient).1]
    exact visits_complete hComplete
  have hCut :=
    List.forall₂_map_left_iff.mp
      (List.forall₂_take_append _ _ _ hVisits.flip).flip
  have hStop := (List.forall₂_drop_append _ _ _ hVisits.flip).flip
  rw [programSteps, ← List.take_append_drop _ (reads ambient _)]
  refine List.rel_append ?_ ?_
  · have hBoth := (List.forall₂_and_left _ _).mpr
      ⟨fun step (hMem : step ∈ cutSteps settings _) => hMem, hCut⟩
    refine hBoth.imp ?_
    rintro step t ⟨hMem, hModes, hLine⟩
    exact commands_of_line (List.mem_append_left _ hMem)
      (fun _ => hModes.symm) hLine
  · generalize List.drop _ (reads ambient _) = late at hStop ⊢
    cases hStop with
    | cons hLine hNil =>
        cases hNil
        have hStill : say "Stop Spindle" ∈ stillLeaves := by
          simp [stillLeaves]
        exact .cons (motion?_still hStill hLine.2) .nil

end Plan

end Joinery
