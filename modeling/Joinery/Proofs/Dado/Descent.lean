import Joinery.Proofs.Dado.Faults
import Joinery.Proofs.Dado.Exact
import Joinery.Proofs.Number.Signs

/-
  Whatever a cut is asked for, the program that is generated
  has a bounded number of passes, and every pass goes down.
  What slips past one check is refused by another one: the
  step is found finite and above zero, and the ceiling of the
  steps is a number below the bound only if their ratio is.

  Key definitions include:
    * `Operation.heights`
    * `IsDownwardPass`
    * `CutsDownwards`

  Key theorems include:
    * `passDepths_positive`
    * `pass_downward`
    * `generated_cut_descends`
-/

namespace Joinery

------------------------------------------------------------
-- Downward Passes
------------------------------------------------------------

/- The values of the words that an argument is written with under Z. -/
def Value.heights : Value → List Value
  | .dict entries =>
      (entries.filter fun e =>
        e.1.text?.map Text.upperCase = some ("Z" : Text)).map (·.2)
  | _ => []

/- The values of the words that a leaf is written with under Z. -/
def Operation.heights : Operation → List Value
  | .instruction _ args => args.flatMap Value.heights
  | _ => []

/- A leaf is one that the tool cuts in. -/
def Operation.Cuts
    (leaf : Operation) : Prop :=
  (Deed.ofLeaf leaf).IsCut

/-
  The tool goes to one height, which is below zero, and only
  after that it cuts.
-/
structure IsDownwardPass
    (op : Operation) : Prop where
  plunges :
    ∃ depth : Number, depth.IsNegative ∧
      op.leaves.flatMap Operation.heights = [depth.toValue]
  plungesFirst :
    OnlyAfter (fun leaf => leaf.heights ≠ []) Operation.Cuts op.leaves
  cuts :
    ∃ leaf ∈ op.leaves, leaf.Cuts

/-
  The passes of a program, which stand at their place in it,
  are some but not too many, and nothing else in it cuts.
-/
def CutsDownwards
    (program : Operation) : Prop :=
  ∃ passes, program.at? [0, 1, 1, 9] = some (.group passes) ∧
    1 ≤ passes.length ∧ passes.length ≤ maxPasses ∧
    (∀ op ∈ passes, IsDownwardPass op) ∧
    ∃ before after,
      program.leaves = before ++ Operation.allLeaves passes ++ after ∧
        ∀ leaf ∈ before ++ after, ¬ leaf.Cuts

------------------------------------------------------------
-- Depths
------------------------------------------------------------

/- The depths of passes are some, not too many, and above zero. -/
theorem passDepths_positive
    {radius : Number}
    {width tolerance : Value}
    {depths : List Number}
    (hDepths : passDepths radius.toValue width tolerance = .ok depths) :
    1 ≤ depths.length ∧ depths.length ≤ maxPasses ∧
      ∀ depth ∈ depths, depth.IsPositive := by
  rcases passDepths_spec hDepths with ⟨hCount, r, hRadius, hEach⟩
  rw [Number.asNumber_toValue] at hRadius
  cases hRadius
  rcases passCount_spec hCount with
    ⟨hFinite, r, -, -, -, -, -, hRadius, -, -, hMore, -⟩
  rcases bothFinite_spec hFinite with ⟨r', -, q, -, hSame, -, hPlace, -⟩
  rw [Number.asNumber_toValue] at hRadius hSame
  cases hRadius
  cases hSame
  have hPos : 0 < q := by
    rw [← not_le]
    intro hLess
    have hRefused :=
      (Number.atMost_iff hPlace (Number.place_int 0)).mpr
        (by exact_mod_cast hLess)
    rw [hMore] at hRefused
    cases hRefused
  rcases passCount_bounds hCount with ⟨hSome, hFew⟩
  refine ⟨hSome, hFew, fun depth hMem => ?_⟩
  rcases List.getElem_of_mem hMem with ⟨k, hPass, rfl⟩
  exact Number.IsPositive.multiple hPlace hPos (hEach k hPass)

------------------------------------------------------------
-- Passes
------------------------------------------------------------

/- Along the axes of a motion, only a value for the third is a height. -/
theorem heights_axes
    (mnemonic : String)
    (axes : List (Axis × Value)) :
    (Instruction.known mnemonic [.dict (axes.map Axis.entry)]).heights =
      (axes.filter (·.1 = .z)).map (·.2) := by
  have hName :
      ∀ axis : Axis, axis.name.upperCase = "Z" ↔ axis = .z := by
    intro axis
    cases axis <;> decide
  rw [Instruction.known, Operation.heights, List.flatMap_singleton,
    Value.heights, List.filter_map, List.map_map]
  simp [Function.comp_def, Axis.entry, Value.text?, hName]

/- A pass to a depth that is above zero, with its sign turned, goes down. -/
theorem pass_downward
    (x1 x2 : Number)
    {depth : Number}
    (length : Value)
    (hPositive : depth.IsPositive) :
    IsDownwardPass (pass x1 x2 depth length) := by
  have hRapid :
      ∀ axes : List (Axis × Value),
        ¬ (Instruction.known "g0" [.dict (axes.map Axis.entry)]).Cuts := by
    rintro axes ⟨motion, hCut⟩
    cases hCut
  let zero : Value := .int 0
  have hLeaves :
      (pass x1 x2 depth length).leaves =
        [Instruction.known "g0"
            [.dict ([(.x, x1.toValue), (.y, zero)].map Axis.entry)]] ++
          Instruction.known "g0"
              [.dict ([(.z, depth.neg.toValue)].map Axis.entry)] ::
            [Instruction.known "g1"
              [.dict ([(.x, x1.toValue), (.y, length)].map Axis.entry)],
            Instruction.known "g1"
              [.dict ([(.x, x2.toValue), (.y, length)].map Axis.entry)],
            Instruction.known "g1"
              [.dict ([(.x, x2.toValue), (.y, zero)].map Axis.entry)]] :=
    rfl
  constructor
  case plunges =>
    refine ⟨depth.neg, hPositive.neg, ?_⟩
    rw [hLeaves]
    simp only [List.flatMap_append, List.flatMap_cons, List.flatMap_nil,
      heights_axes]
    rfl
  case plungesFirst =>
    rw [hLeaves]
    apply OnlyAfter.of_split
    · rw [heights_axes]
      exact List.cons_ne_nil _ _
    · exact hRapid _
    · intro leaf hMem
      cases List.mem_singleton.mp hMem
      exact hRapid _
  case cuts =>
    rw [hLeaves]
    refine ⟨_, List.mem_append_right _ (List.mem_cons_of_mem _
      (List.mem_cons_self ..)), ?_⟩
    exact ⟨_, rfl⟩

------------------------------------------------------------
-- Generated Programs
------------------------------------------------------------

/- Nothing is cut before the passes of a cut. -/
theorem Plan.not_cuts_setup
    (plan : Plan)
    (settings : Settings) :
    ∀ leaf ∈ (setupSteps settings).map plan.leaf, ¬ leaf.Cuts := by
  intro leaf hMem
  simp only [setupSteps, List.map_cons, List.map_nil, List.mem_cons,
    List.not_mem_nil, or_false] at hMem
  rcases hMem with rfl | rfl | rfl | rfl | rfl | rfl | rfl | rfl | rfl <;>
    rintro ⟨motion, hCut⟩ <;> cases hCut

/- The passes of a plan are all that is cut in its program. -/
theorem Plan.leaves_around_passes
    (plan : Plan)
    (settings : Settings)
    (ambient : Ambient) :
    ∃ before after,
      (plan.program settings ambient).leaves =
          before ++ (passes plan.geometry plan.joint.passLength).leaves ++
            after ∧
        ∀ leaf ∈ before ++ after, ¬ leaf.Cuts := by
  refine ⟨[Instruction.ofPositioning .absolute,
      Instruction.ofUnit .millimeter] ++ (setupSteps settings).map plan.leaf,
    [ Instruction.ofUnit ambient.unit,
      Instruction.ofPositioning ambient.mode, say "Stop Spindle" ], ?_, ?_⟩
  · rw [plan.leaves_program, plan.leaves_passes, cutSteps, List.map_append]
    simp only [List.cons_append, List.nil_append, List.append_assoc]
  · intro leaf hMem
    have hSwitch : ∀ u, ¬ (Instruction.ofUnit u).Cuts := by
      rintro u ⟨motion, hCut⟩
      rw [Deed.ofLeaf_ofUnit] at hCut
      cases hCut
    have hMode : ∀ mode, ¬ (Instruction.ofPositioning mode).Cuts := by
      rintro mode ⟨motion, hCut⟩
      rw [Deed.ofLeaf_ofPositioning] at hCut
      cases hCut
    simp only [List.mem_append, List.mem_cons, List.not_mem_nil, or_false]
      at hMem
    rcases hMem with ((rfl | rfl) | hSetup) | rfl | rfl | rfl
    · exact hMode _
    · exact hSwitch _
    · exact plan.not_cuts_setup settings leaf hSetup
    · exact hSwitch _
    · exact hMode _
    · rintro ⟨motion, hCut⟩
      cases hCut

/-
  Whatever the parameters, the settings and the ambient are,
  a program that is generated cuts downwards, in a number of
  passes that is bounded. Nothing is asked of the parameters:
  they may be of any unit and no number at all.
-/
theorem generated_cut_descends
    (joint : Joint)
    (settings : Settings)
    (ambient : Ambient)
    (program : Operation)
    (hGenerated :
      (generate joint settings).result ambient = .ok program) :
    CutsDownwards program := by
  rw [generate_result] at hGenerated
  rcases Outcome.map_eq_ok_iff.mp hGenerated with ⟨plan, hPlan, rfl⟩
  rcases Geometry.ofJoint_spec (Plan.plan_spec hPlan).2 with
    ⟨-, cutter, stock, offset, travel, shifted, -, -, -, -, -, -, -, -, -,
      hDepths⟩
  rcases passDepths_positive hDepths with ⟨hSome, hFew, hPositive⟩
  refine ⟨plan.geometry.depths.map fun depth =>
      pass plan.geometry.x1 plan.geometry.x2 depth plan.joint.passLength,
    rfl, ?_, ?_, ?_, ?_⟩
  · rwa [List.length_map]
  · rwa [List.length_map]
  · intro op hMem
    rcases List.mem_map.mp hMem with ⟨depth, hDepth, rfl⟩
    exact pass_downward _ _ _ (hPositive depth hDepth)
  · rw [← Operation.leaves_group]
    exact plan.leaves_around_passes settings ambient

/-
  A joint of mixed parameters: a plate that is no number, a
  height that is infinite, ratios and integers of the ambient
  unit, and lengths in inches and millimetres.
-/
def mixedJoint : Joint where
  plateThickness := .float (0.0 / 0.0)
  retractHeight := .float (1.0 / 0.0)
  stockThickness := .inch (.ratio (1 / 2))
  cutterDiameter := .mm (.float 3.175)
  workOffsetX := .int (-20)
  passLength := .ratio (-6)

/- A program is generated for the mixed joint, and it cuts downwards. -/
theorem mixedJoint_cut_descends :
    ∃ program,
      (generate mixedJoint .standard).result
        { unit := .inch, mode := .relative } = .ok program ∧
      CutsDownwards program := by
  have hBuilt :
      ((generate mixedJoint .standard).result
        { unit := .inch, mode := .relative }).toOption.map
          (fun _ => true) = some true := by
    decide +kernel
  rcases Outcome.exists_of_toOption hBuilt with ⟨program, hGenerated, -⟩
  exact ⟨program, hGenerated,
    generated_cut_descends mixedJoint _ _ program hGenerated⟩

end Joinery
