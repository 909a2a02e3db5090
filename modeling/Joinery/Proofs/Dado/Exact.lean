import Joinery.Proofs.Dado.Agreement
import Joinery.Proofs.Dado.Closeness
import Joinery.Proofs.Machine.Strokes

/-
  Where the parameters of a joint are exact ratios, so is
  everything that is computed from them. The deeds that the
  program of the cut asks for are then known to the letter,
  but for the number of passes.

  Key definitions include:
    * `Lengths.joint`
    * `Lengths.setup`
    * `Lengths.pass`
    * `Lengths.deeds`

  Key theorems include:
    * `Plan.exact_value`
    * `Plan.deeds_eq`
    * `Lengths.strokes_deeds`
-/

namespace Joinery

------------------------------------------------------------
-- Exact Plans
------------------------------------------------------------

namespace Lengths

/- The joint whose parameters are the lengths themselves. -/
def joint
    (lengths : Lengths) : Joint :=
  { plateThickness := .ratio lengths.plate
    retractHeight := .ratio lengths.retract
    stockThickness := .ratio lengths.stock
    cutterDiameter := .ratio lengths.cutter
    workOffsetX := .ratio lengths.offset
    passLength := .ratio lengths.length }

end Lengths

theorem Number.halve_ratio
    {q : Rat}
    {half : Number}
    (hHalf : (Number.ratio q).div (.int 2) = .ok half) :
    half = .ratio (q / 2) := by
  have hQuotient :
      (Number.ratio q).div (.int 2) = .ok (.ratio (q / (2 : Int))) := by
    rw [Number.div, Number.divRatios, if_neg (by decide)]
  rw [hQuotient] at hHalf
  cases hHalf
  norm_num

/- A ratio that is not refused is positive. -/
theorem Value.pos_of_ratio
    {q : Rat}
    (hPositive : (Value.ratio q).atMostZero = .ok false) :
    0 < q := by
  have hAtMost : (Number.ratio q).atMost (.int 0) = false :=
    Except.ok.inj hPositive
  rw [← not_le]
  intro hLess
  have hRefused :=
    (Number.atMost_iff (rfl : (Number.ratio q).place = _)
      (Number.place_int 0)).mpr (by exact_mod_cast hLess)
  rw [hAtMost] at hRefused
  cases hRefused

namespace Plan

section Exact

variable {lengths : Lengths}
variable {settings : Settings}
variable {u : LengthUnit}
variable {plan : Plan}

/- Exact parameters are kept as they are in every unit. -/
theorem exact_joint
    (hPlan : lengths.joint.plan settings u = .ok plan) :
    plan.joint = lengths.joint := by
  rcases plan_spec hPlan with ⟨hPlain, -⟩
  rcases plan with
    ⟨⟨plate, retract, stock, cutter, offset, length⟩, geometry⟩
  rcases Joint.converted_spec hPlain with
    ⟨hPlate, hRetract, hStock, hCutter, hOffset, hLength⟩
  cases hPlate
  cases hRetract
  cases hStock
  cases hCutter
  cases hOffset
  cases hLength
  rfl

/- The geometry of exact parameters is exact. -/
theorem exact_geometry
    (hPlan : lengths.joint.plan settings u = .ok plan) :
    0 < lengths.cutter ∧
      plan.geometry.radius = .ratio (lengths.cutter / 2) ∧
      plan.geometry.width = .ratio (lengths.stock / 2) ∧
      plan.geometry.x1 = .ratio (lengths.exact .near) ∧
      plan.geometry.x2 = .ratio (lengths.exact .far) ∧
      passDepths (.ratio (lengths.cutter / 2)) (.ratio (lengths.stock / 2))
        settings.depthTolerance = .ok plan.geometry.depths := by
  have hGeometry := (plan_spec hPlan).2
  rw [exact_joint hPlan] at hGeometry
  rcases plan with ⟨plain, ⟨width, radius, x1, x2, depths⟩⟩
  rcases Geometry.ofJoint_spec hGeometry with
    ⟨hPositive, cutter, stock, offset, travel, shifted, hCutter, hStock,
      hOffset, hRadius, hWidth, hTravel, hShifted, hNear, hFar, hDepths⟩
  cases hCutter
  cases hStock
  cases hOffset
  cases Number.halve_ratio hRadius
  cases Number.halve_ratio hWidth
  cases hTravel
  cases hShifted
  cases hNear
  cases hFar
  exact ⟨Value.pos_of_ratio hPositive, rfl, rfl, rfl, rfl, hDepths⟩

/- Every pass of an exact cut is an exact multiple of the step deep. -/
theorem exact_depth
    (hPlan : lengths.joint.plan settings u = .ok plan)
    {pass : Nat}
    (hPass : pass < plan.geometry.depths.length) :
    plan.value (.depth pass) = .ratio (lengths.exact (.depth pass)) := by
  rcases exact_geometry hPlan with ⟨-, -, -, -, -, hDepths⟩
  rcases passDepths_spec hDepths with ⟨-, r, hRadius, hMultiples⟩
  cases hRadius
  have hDepth := hMultiples pass hPass
  have hExact :
      plan.geometry.depths.getD pass (.int 0) =
        .ratio (((pass + 1 : Int) : Rat) * (lengths.cutter / 2)) := by
    rw [List.getD_eq_getElem?_getD, List.getElem?_eq_getElem hPass,
      Option.getD_some]
    exact (Except.ok.inj hDepth).symm
  rw [value, hExact, Lengths.exact]
  push_cast
  rfl

/- A dimension of an exact plan is exactly as long as it should be. -/
theorem exact_value
    (hPlan : lengths.joint.plan settings u = .ok plan)
    (d : Dimension)
    (hPass :
      ∀ pass, d = .depth pass → pass < plan.geometry.depths.length) :
    (plan.value d).rational? = some (lengths.exact d) := by
  have hJoint := exact_joint hPlan
  rcases exact_geometry hPlan with ⟨-, -, -, hNear, hFar, -⟩
  cases d with
  | zero => rfl
  | plate => rw [value, hJoint]; rfl
  | retract => rw [value, hJoint]; rfl
  | length => rw [value, hJoint]; rfl
  | near => rw [value, hNear]; rfl
  | far => rw [value, hFar]; rfl
  | depth pass => rw [exact_depth hPlan (hPass pass rfl)]; rfl

end Exact

end Plan

------------------------------------------------------------
-- Deeds Of A Cut
------------------------------------------------------------

namespace Lengths

/- Where a motion leads along the axes that it names. -/
def motion
    (lengths : Lengths)
    (axes : List (Axis × Dimension))
    (feeds : List Value) : Motion :=
  { x := (axes.lookup .x).map lengths.exact
    y := (axes.lookup .y).map lengths.exact
    z := (axes.lookup .z).map lengths.exact
    fed := !feeds.isEmpty }

/- What a step of a cut asks for. -/
def deed
    (lengths : Lengths) : Step → Deed
  | .motion mnemonic axes feeds =>
      .ofMotion (Instruction.head mnemonic) (lengths.motion axes feeds)
  | .other op => .ofLeaf op

/-
  What is asked for before the spindle is started: to zero
  the machine, to probe the height of the plate, and to
  retract.
-/
def setup
    (lengths : Lengths) : List Deed :=
  [ .declare (Motion.across 0 0),
    .prompt "Attach ZProbe - Top",
    .probe "z",
    .declare (Motion.upright lengths.plate),
    .rapid { Motion.upright lengths.retract with fed := true },
    .wait,
    .prompt "Detach ZProbe",
    .prompt "Position Part for Dado" ]

/- The five moves of one pass. -/
def pass
    (lengths : Lengths)
    (k : Nat) : List Deed :=
  [ .rapid (Motion.across (lengths.exact .near) 0),
    .rapid (Motion.upright (lengths.exact (.depth k))),
    .cut (Motion.across (lengths.exact .near) lengths.length),
    .cut (Motion.across (lengths.exact .far) lengths.length),
    .cut (Motion.across (lengths.exact .far) 0) ]

/- The moves of the first so many passes. -/
def passes
    (lengths : Lengths)
    (count : Nat) : List Deed :=
  (List.range count).flatMap lengths.pass

/- The switches of both modes to those of a state. -/
def switches
    (ambient : Ambient) : List Deed :=
  [ .switch (.positioning ambient.mode), .switch (.unit ambient.unit) ]

/- All that a cut with a number of passes asks for. -/
def deeds
    (lengths : Lengths)
    (ambient : Ambient)
    (count : Nat) : List Deed :=
  switches Plan.working ++ lengths.setup ++
    .prompt "Start Spindle" ::
      (lengths.passes count ++ (switches ambient).reverse ++
        [.prompt "Stop Spindle"])

end Lengths

namespace Plan

section Deeds

variable {lengths : Lengths}
variable {settings : Settings}
variable {u : LengthUnit}
variable {plan : Plan}

/-
  A motion of an exact plan leads where the lengths say,
  along the axes that it names.
-/
theorem motion_eq
    (hPlan : lengths.joint.plan settings u = .ok plan)
    (axes : List (Axis × Dimension))
    (feeds : List Value)
    (hPass :
      ∀ e ∈ axes, ∀ pass, e.2 = .depth pass →
        pass < plan.geometry.depths.length) :
    Motion.ofEntries
        ((axes.map fun e => (e.1, plan.value e.2)).map Axis.entry ++
          feeds.map Instruction.feedEntry) =
      lengths.motion axes feeds := by
  have hLookup :
      ∀ axis : Axis,
        ((axes.map fun e => (e.1, plan.value e.2)).lookup axis).bind
            Value.rational? =
          (axes.lookup axis).map lengths.exact := by
    intro axis
    induction axes with
    | nil => rfl
    | cons e rest ih =>
        rw [List.map_cons, List.lookup_cons, List.lookup_cons]
        by_cases hSame : axis = e.1
        · rw [beq_iff_eq.mpr hSame]
          exact exact_value hPlan e.2 (hPass e (List.mem_cons_self ..))
        · rw [beq_eq_false_iff_ne.mpr hSame]
          exact ih fun later hMem =>
            hPass later (List.mem_cons_of_mem _ hMem)
  rw [Motion.ofEntries_eq, hLookup, hLookup, hLookup, Lengths.motion]

/- A step of an exact plan asks for its deed. -/
theorem deed_leaf
    (hPlan : lengths.joint.plan settings u = .ok plan)
    {step : Step}
    (hStep : step ∈ programSteps settings plan.geometry.depths.length) :
    Deed.ofLeaf (plan.leaf step) = lengths.deed step := by
  cases step with
  | other op => rfl
  | motion mnemonic axes feeds =>
      rw [leaf, Deed.ofLeaf_motion, motion_eq hPlan, Lengths.deed]
      intro e hAxis pass hDepth
      have hDimension :
          Dimension.depth pass ∈
            (Step.motion mnemonic axes feeds).dimensions :=
        List.mem_map.mpr ⟨e, hAxis, hDepth⟩
      exact pass_lt_of_isCommanded ⟨_, hStep, hDimension⟩

/- The program of an exact plan asks for the deeds of the cut. -/
theorem deeds_eq
    (hPlan : lengths.joint.plan settings u = .ok plan)
    (ambient : Ambient) :
    Deed.ofProgram (plan.program settings ambient) =
      lengths.deeds ambient plan.geometry.depths.length := by
  have hCut :
      (cutSteps settings plan.geometry.depths.length).map
          (Deed.ofLeaf ∘ plan.leaf) =
        lengths.setup ++ .prompt "Start Spindle" ::
          lengths.passes plan.geometry.depths.length := by
    calc _ = (cutSteps settings plan.geometry.depths.length).map
              lengths.deed := by
            refine List.map_congr_left fun step hMem => ?_
            exact deed_leaf hPlan (List.mem_append_left _ hMem)
      _ = _ := by
            rw [cutSteps, List.map_append, List.map_flatMap]
            rfl
  rw [Deed.ofProgram, leaves_program, List.map_cons, List.map_cons,
    List.map_append, List.map_map, hCut]
  simp [Lengths.deeds, Lengths.switches, Plan.working]
  rfl

/- A generated program is that of an exact plan, which has passes. -/
theorem exists_exact
    {ambient : Ambient}
    {op : Operation}
    (hGenerated :
      (generate lengths.joint settings).result ambient = .ok op) :
    ∃ plan : Plan,
      lengths.joint.plan settings ambient.unit = .ok plan ∧
        op = plan.program settings ambient ∧
        0 < plan.geometry.depths.length := by
  rw [generate_result, Outcome.map_eq_ok_iff] at hGenerated
  rcases hGenerated with ⟨plan, hPlan, rfl⟩
  rcases exact_geometry hPlan with ⟨-, -, -, -, -, hDepths⟩
  exact ⟨plan, hPlan, rfl,
    (passCount_bounds (passDepths_spec hDepths).1).1⟩

end Deeds

end Plan

------------------------------------------------------------
-- Strokes Of A Cut
------------------------------------------------------------

namespace Lengths

/- A spot of the tool in a pass. -/
def spot
    (lengths : Lengths)
    (k : Nat)
    (x y : Rat) : Spot :=
  { x := x, y := y, z := lengths.exact (.depth k) }

/- Along the side that is next to the stock. -/
def nearStroke
    (lengths : Lengths)
    (k : Nat) : Stroke where
  start := lengths.spot k (lengths.exact .near) 0
  finish := lengths.spot k (lengths.exact .near) lengths.length

/- Across from side to side, at the far end. -/
def crossStroke
    (lengths : Lengths)
    (k : Nat) : Stroke where
  start := lengths.spot k (lengths.exact .near) lengths.length
  finish := lengths.spot k (lengths.exact .far) lengths.length

/- Back along the other side. -/
def farStroke
    (lengths : Lengths)
    (k : Nat) : Stroke where
  start := lengths.spot k (lengths.exact .far) lengths.length
  finish := lengths.spot k (lengths.exact .far) 0

/- The strokes of one pass. -/
def passStrokes
    (lengths : Lengths)
    (k : Nat) : List Stroke :=
  [lengths.nearStroke k, lengths.crossStroke k, lengths.farStroke k]

section Strokes

variable (lengths : Lengths)

/- A pass has its strokes wherever it is begun, and changes no mode. -/
theorem strokes_pass
    (k : Nat)
    {tool : Tool}
    (hModes : tool.modes = Plan.working) :
    tool.strokes (lengths.pass k) = lengths.passStrokes k ∧
      (tool.after (lengths.pass k)).modes = Plan.working := by
  rcases tool with ⟨modes, spot⟩
  cases hModes
  exact ⟨rfl, rfl⟩

/- Passes have their strokes one after the other. -/
theorem strokes_passes
    (count : Nat)
    {tool : Tool}
    (hModes : tool.modes = Plan.working) :
    tool.strokes (lengths.passes count) =
        (List.range count).flatMap lengths.passStrokes ∧
      (tool.after (lengths.passes count)).modes = Plan.working := by
  induction count with
  | zero => exact ⟨rfl, hModes⟩
  | succ count ih =>
      rcases ih with ⟨hStrokes, hKept⟩
      rcases lengths.strokes_pass count hKept with ⟨hPass, hLast⟩
      rw [passes, List.range_succ, List.flatMap_append,
        List.flatMap_append, List.flatMap_singleton,
        List.flatMap_singleton, Tool.strokes_append, Tool.after_append]
      rw [passes] at hStrokes hPass hLast
      exact ⟨by rw [hStrokes, hPass], hLast⟩

/- Nothing is cut before the passes. -/
theorem no_cut_before
    {deed : Deed}
    (hMem : deed ∈ switches Plan.working ++ lengths.setup) :
    ¬ deed.IsCut := by
  rintro ⟨motion, rfl⟩
  simp [switches, setup] at hMem

/- Nothing moves after the passes. -/
theorem no_motion_after
    {ambient : Ambient}
    {deed : Deed}
    (hMem :
      deed ∈ (switches ambient).reverse ++ [.prompt "Stop Spindle"]) :
    ¬ deed.IsMotion := by
  rintro ⟨motion, rfl | rfl | rfl⟩ <;> simp [switches] at hMem

/- A tool that follows the deeds of a cut makes the strokes of its passes. -/
theorem strokes_deeds
    (ambient : Ambient)
    (count : Nat)
    (tool : Tool) :
    tool.strokes (lengths.deeds ambient count) =
      (List.range count).flatMap lengths.passStrokes := by
  have hStart : ∀ first : Tool,
      ((first.after (switches Plan.working ++ lengths.setup)).step
        (.prompt "Start Spindle")).modes = Plan.working := fun _ => rfl
  have hBack :
      ∀ deed ∈ (switches ambient).reverse ++ [.prompt "Stop Spindle"],
        ¬ deed.IsCut := by
    rintro deed hMem ⟨motion, rfl⟩
    exact no_motion_after hMem ⟨motion, Or.inr (Or.inl rfl)⟩
  rw [deeds, Tool.strokes_append,
    Tool.strokes_of_no_cut _ fun deed => lengths.no_cut_before,
    List.nil_append, Tool.strokes_cons_other (by rintro ⟨_, ⟨⟩⟩),
    List.append_assoc, Tool.strokes_append,
    (lengths.strokes_passes count (hStart tool)).1,
    Tool.strokes_of_no_cut _ hBack, List.append_nil]

end Strokes

end Lengths

end Joinery
