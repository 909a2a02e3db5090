import Joinery.Command.Cut
import Joinery.Proofs.Config.Accepted
import Joinery.Proofs.Dado.Closeness
import Joinery.Proofs.Dado.Depths
import Joinery.Proofs.Dado.Geometry
import Joinery.Proofs.Dado.Steps
import Joinery.Proofs.Gcode.Emission
import Joinery.Proofs.Gcode.Lengths

/-
  The numbers in the program of a job are integers and
  doubles. A line of the program fails to compile only if one
  of them is a double that is not finite, or an integer that
  no double holds.

  Key definitions include:
    * `Plan.numbers`
    * `Plan.HasStray`

  Key theorems include:
    * `convert_yields`
    * `Plan.isPlain`
    * `Plan.leaf_fails`
    * `Plan.hasStray_of_fault`
-/

namespace Joinery

------------------------------------------------------------
-- Plain Numbers
------------------------------------------------------------

namespace Number

/- A number is an integer or a double. -/
def IsPlain
    (n : Number) : Prop :=
  n.toValue.IsPlain n

theorem isPlain_int
    (n : Int) :
    (Number.int n).IsPlain :=
  .int n

theorem isPlain_float
    (x : Float) :
    (Number.float x).IsPlain :=
  .float x

theorem isPlain_neg
    {n : Number}
    (hPlain : n.IsPlain) :
    n.neg.IsPlain := by
  cases n with
  | int n => exact isPlain_int _
  | float x => exact isPlain_float _
  | ratio q => cases hPlain

/- What is calculated from a double is a double. -/
theorem yields_double
    {x y : Outcome Float}
    {calculate : Float → Float → Float} :
    Yields IsPlain
      (do return .float (calculate (← x) (← y)) : Outcome Number) := by
  refine Yields.bind (Yields.any _) ?_
  intro first _
  refine Yields.bind (Yields.any _) ?_
  intro second _
  exact Yields.ok (isPlain_float _)

theorem combine_yields
    (rule : Rule)
    {a b : Number}
    (hFirst : a.IsPlain)
    (hSecond : b.IsPlain) :
    Yields IsPlain (combine rule a b) := by
  cases a with
  | ratio q => cases hFirst
  | int m =>
      cases b with
      | ratio q => cases hSecond
      | int n => exact Yields.ok (isPlain_int _)
      | float y => exact yields_double
  | float x =>
      cases b with
      | ratio q => cases hSecond
      | int n => exact yields_double
      | float y => exact yields_double

theorem div_yields
    {a b : Number}
    (hFirst : a.IsPlain)
    (hSecond : b.IsPlain) :
    Yields IsPlain (a.div b) := by
  have hDouble :
      ∀ x y : Outcome Float,
        Yields IsPlain
          (do
            let x ← x
            let y ← y
            if y == 0.0 then fail .divisionByZero
            else return .float (x / y) : Outcome Number) := by
    intro x y
    refine Yields.bind (Yields.any _) ?_
    intro first _
    refine Yields.bind (Yields.any _) ?_
    intro second _
    split
    · exact Yields.error _
    · exact Yields.ok (isPlain_float _)
  cases a with
  | ratio q => cases hFirst
  | int m =>
      cases b with
      | ratio q => cases hSecond
      | int n =>
          show Yields IsPlain (if n = 0 then _ else _)
          split
          · exact Yields.error _
          · intro r hQuotient
            rcases Outcome.map_eq_ok_iff.mp hQuotient with ⟨x, _, rfl⟩
            exact isPlain_float x
      | float y => exact hDouble _ _
  | float x =>
      cases b with
      | ratio q => cases hSecond
      | int n => exact hDouble _ _
      | float y => exact hDouble _ _

end Number

/- The number of a plain value is that of the value. -/
theorem Value.IsPlain.asNumber
    {v : Value}
    {n m : Number}
    (hPlain : v.IsPlain n)
    (hNumber : v.asNumber = .ok m) :
    m.IsPlain := by
  cases hPlain with
  | int k =>
      cases hNumber
      exact Number.isPlain_int k
  | float x =>
      cases hNumber
      exact Number.isPlain_float x

/- A measure is converted to a plain number. -/
theorem convert_yields
    (u : LengthUnit)
    {measure : Value}
    (hMeasure : measure.IsMeasure) :
    Yields (fun v => ∃ n, v.IsPlain n) (convert u measure none) := by
  cases hMeasure with
  | number hPlain =>
      cases hPlain with
      | int n => exact Yields.ok ⟨_, .int n⟩
      | float x => exact Yields.ok ⟨_, .float x⟩
  | quantity w hPlain =>
      rename_i amount n
      by_cases hSame : w = u
      · rw [hSame, convert_same (by cases u <;> rfl)]
        exact Yields.ok ⟨n, hPlain⟩
      · intro v hConvert
        cases w with
        | millimeter =>
            cases u with
            | millimeter => exact absurd rfl hSame
            | inch =>
                rw [convert_millimeter rfl hPlain.number?,
                  Outcome.map_eq_ok_iff] at hConvert
                rcases hConvert with ⟨x, _, rfl⟩
                exact ⟨_, .float _⟩
        | inch =>
            cases u with
            | millimeter =>
                rw [convert_inch rfl hPlain.number?,
                  Outcome.map_eq_ok_iff] at hConvert
                rcases hConvert with ⟨x, _, rfl⟩
                exact ⟨_, .float _⟩
            | inch => exact absurd rfl hSame

------------------------------------------------------------
-- Numbers Of A Plan
------------------------------------------------------------

namespace Plan

/- The numbers that a program is given by its plan and settings. -/
def numbers
    (plan : Plan)
    (settings : Settings) : List Value :=
  [ plan.joint.plateThickness, plan.joint.retractHeight,
    settings.retractFeed, plan.geometry.x1.toValue,
    plan.geometry.x2.toValue, plan.joint.passLength ] ++
    plan.geometry.depths.map fun depth => depth.neg.toValue

/- One of the numbers of a program is infinite, or is no number. -/
def HasStray
    (plan : Plan)
    (settings : Settings) : Prop :=
  ∃ x, .float x ∈ plan.numbers settings ∧ Decimal.isFinite x = false

/- The numbers of the geometry are plain if the parameters are. -/
structure IsPlain
    (plan : Plan) : Prop where
  plate : ∃ n, plan.joint.plateThickness.IsPlain n
  retract : ∃ n, plan.joint.retractHeight.IsPlain n
  length : ∃ n, plan.joint.passLength.IsPlain n
  near : plan.geometry.x1.IsPlain
  far : plan.geometry.x2.IsPlain
  depths : ∀ depth ∈ plan.geometry.depths, depth.IsPlain

/- The plan of measures is made of plain numbers. -/
theorem isPlain
    {settings : Settings}
    {u : LengthUnit}
    {joint : Joint}
    {plan : Plan}
    (hMeasured : joint.IsMeasured)
    (hPlan : joint.plan settings u = .ok plan) :
    plan.IsPlain := by
  rcases plan_spec hPlan with ⟨hConverted, hGeometry⟩
  rcases Joint.converted_spec hConverted with
    ⟨hPlate, hRetract, hStock, hCutter, hOffset, hLength⟩
  rcases Geometry.ofJoint_spec hGeometry with
    ⟨-, cutter, stock, offset, travel, shifted, hCutterNumber,
      hStockNumber, hOffsetNumber, hRadius, hWidth, hTravel, hShifted,
      hNear, hFar, hDepths⟩
  rcases convert_yields u hMeasured.cutter _ hCutter with
    ⟨_, hCutterPlain⟩
  rcases convert_yields u hMeasured.stock _ hStock with ⟨_, hStockPlain⟩
  rcases convert_yields u hMeasured.offset _ hOffset with
    ⟨_, hOffsetPlain⟩
  have hCutterPlain := hCutterPlain.asNumber hCutterNumber
  have hStockPlain := hStockPlain.asNumber hStockNumber
  have hOffsetPlain := hOffsetPlain.asNumber hOffsetNumber
  have hTwo := Number.isPlain_int 2
  have hRadiusPlain :=
    Number.div_yields hCutterPlain hTwo _ hRadius
  have hWidthPlain := Number.div_yields hStockPlain hTwo _ hWidth
  have hTravelPlain :=
    Number.combine_yields _ hWidthPlain hCutterPlain _ hTravel
  have hShiftedPlain :=
    Number.combine_yields _ hOffsetPlain hRadiusPlain _ hShifted
  have hNearPlain :=
    Number.combine_yields _ hShiftedPlain hStockPlain _ hNear
  refine
    ⟨convert_yields u hMeasured.plate _ hPlate,
      convert_yields u hMeasured.retract _ hRetract,
      convert_yields u hMeasured.length _ hLength, hNearPlain,
      Number.combine_yields _ hNearPlain hTravelPlain _ hFar, ?_⟩
  intro depth hMem
  rcases passDepths_spec hDepths with ⟨-, r, hNumber, hEach⟩
  have hStep : r.IsPlain := by
    have hValue : plan.geometry.radius.toValue.IsPlain _ := hRadiusPlain
    exact hValue.asNumber hNumber
  rcases List.getElem_of_mem hMem with ⟨k, hPass, rfl⟩
  exact Number.combine_yields _ (Number.isPlain_int _) hStep _
    (hEach k hPass)

/- Every number of a program is plain. -/
theorem isPlain_number
    {plan : Plan}
    (hPlain : plan.IsPlain)
    {settings : Settings}
    (hDoubles : settings.IsOfDoubles)
    {v : Value}
    (hMem : v ∈ plan.numbers settings) :
    ∃ n, v.IsPlain n := by
  rcases hDoubles.feed with ⟨feed, hFeed⟩
  simp only [numbers, List.mem_append, List.mem_cons, List.not_mem_nil,
    or_false, List.mem_map] at hMem
  rcases hMem with
    (rfl | rfl | rfl | rfl | rfl | rfl) | ⟨depth, hDepth, rfl⟩
  · exact hPlain.plate
  · exact hPlain.retract
  · exact ⟨.float feed, hFeed ▸ .float feed⟩
  · exact ⟨_, hPlain.near⟩
  · exact ⟨_, hPlain.far⟩
  · exact hPlain.length
  · exact ⟨_, Number.isPlain_neg (hPlain.depths depth hDepth)⟩

end Plan

------------------------------------------------------------
-- Lines That Fail
------------------------------------------------------------

namespace Line

/- The fault of an integer that no double holds. -/
def IsTooLarge
    (fault : Fault) : Prop :=
  fault = .integerBeyondDouble

/- A plain number that is not stray is too large if it has no numeral. -/
theorem ofValue_fails
    (u : LengthUnit)
    {v : Value}
    {n : Number}
    (hPlain : v.IsPlain n)
    (hFinite : ∀ x, v = .float x → Decimal.isFinite x = true) :
    Fails IsTooLarge (ofValue u v) := by
  intro fault hFault
  cases hPlain with
  | int k =>
      rw [ofValue_int] at hFault
      cases hDouble : (Number.int k).toDouble with
      | error cause =>
          rw [hDouble] at hFault
          cases hFault
          unfold Number.toDouble Number.nearestInRange at hDouble
          dsimp only at hDouble
          split at hDouble
          · cases hDouble
          · cases hDouble
            rfl
      | ok x =>
          rcases Numeral.ofInt_prints (abs_le_of_toDouble hDouble) with
            ⟨t, hText, _⟩
          rw [hDouble, Outcome.ok_bind, hText] at hFault
          cases hFault
  | float x =>
      have hSame := hFinite x rfl
      rcases (Number.isFinite_iff x).mp hSame with ⟨q, hValue⟩
      rcases Numeral.ofFloat_prints hValue with ⟨t, hText, _⟩
      rw [ofValue_float, if_pos hSame, hText] at hFault
      cases hFault

/- Zero has a numeral. -/
theorem ofValue_zero_fails
    (claim : Fault → Prop)
    (u : LengthUnit) :
    Fails claim (ofValue u (.int 0)) := by
  intro fault hFault
  rcases Number.toDouble_ok (Number.place_int 0) (by norm_num) with
    ⟨x, hDouble⟩
  rcases Numeral.ofInt_prints (n := 0) (by norm_num) with
    ⟨text, hText, -⟩
  rw [ofValue_int, hDouble, Outcome.ok_bind, hText] at hFault
  cases hFault

/- A word fails only with its number. -/
theorem word_fails
    {claim : Fault → Prop}
    {u : LengthUnit}
    {name : Text}
    {v : Value}
    (hValue : Fails claim (ofValue u v)) :
    Fails claim (word u (.text name) v) := by
  unfold word
  refine Fails.bind (Fails.ok _ : Fails _ (keyword (.text name))) ?_
  intro key
  exact Fails.bind hValue fun numeral => Fails.ok _

/- An instruction with words fails only with one of its numbers. -/
theorem ofOperation_fails
    {claim : Fault → Prop}
    {u : LengthUnit}
    {mnemonic : String}
    {entries : Entries}
    (hEntries :
      ∀ e ∈ entries,
        ∃ name v, e = (.text name, v) ∧ Fails claim (ofValue u v)) :
    Fails claim
      (ofOperation u (Instruction.known mnemonic [.dict entries])) := by
  have hWords : Fails claim (ofArgument u (.dict entries)) := by
    refine Fails.bind (Fails.mapM ?_) fun words => Fails.ok _
    intro e hMem
    rcases hEntries e hMem with ⟨name, v, rfl, hValue⟩
    exact word_fails hValue
  show Fails claim (ofInstruction u (.text mnemonic) [_])
  unfold ofInstruction
  refine Fails.bind (Fails.ok _ : Fails _ (keyword (.text mnemonic))) ?_
  intro head
  refine Fails.bind (Fails.mapM ?_) fun rest => Fails.ok _
  intro arg hMem
  rw [List.mem_singleton.mp hMem]
  exact hWords

end Line

/- A listing fails only as one of its leaves does. -/
theorem Listing.fault_ofLeaves
    {u : LengthUnit}
    {claim : Fault → Prop}
    {leaves : List Operation}
    (hLeaves : ∀ leaf ∈ leaves, Fails claim (Line.ofOperation u leaf))
    {fault : Fault}
    (hFault : (Listing.ofLeaves u leaves).fault = some fault) :
    claim fault := by
  induction leaves with
  | nil => cases hFault
  | cons leaf rest ih =>
      have hFirst := hLeaves leaf (List.mem_cons_self ..)
      unfold Listing.ofLeaves at hFault
      cases hLine : Line.ofOperation u leaf with
      | error cause =>
          rw [hLine] at hFault
          cases hFault
          exact hFirst _ hLine
      | ok line =>
          rw [hLine] at hFault
          refine ih ?_ hFault
          intro other hMem
          exact hLeaves other (List.mem_cons_of_mem _ hMem)

namespace Plan

variable {plan : Plan}
variable {settings : Settings}

/- The value of a dimension is zero, or a number of the program. -/
theorem value_cases
    (plan : Plan)
    (settings : Settings)
    (d : Dimension) :
    plan.value d = .int 0 ∨ plan.value d ∈ plan.numbers settings := by
  cases d with
  | zero => exact Or.inl rfl
  | plate => exact Or.inr (by simp [numbers, value])
  | retract => exact Or.inr (by simp [numbers, value])
  | length => exact Or.inr (by simp [numbers, value])
  | near => exact Or.inr (by simp [numbers, value])
  | far => exact Or.inr (by simp [numbers, value])
  | depth k =>
      by_cases hPass : k < plan.geometry.depths.length
      · refine Or.inr (List.mem_append_right _ ?_)
        refine List.mem_map.mpr
          ⟨plan.geometry.depths[k], List.getElem_mem hPass, ?_⟩
        rw [value, List.getD_eq_getElem?_getD,
          List.getElem?_eq_getElem hPass, Option.getD_some]
      · refine Or.inl ?_
        rw [value, List.getD_eq_getElem?_getD,
          List.getElem?_eq_none (Nat.le_of_not_lt hPass)]
        rfl

/- The only feed rate of a program is that of the settings. -/
theorem mem_feeds
    {count : Nat}
    {mnemonic : String}
    {axes : List (Axis × Dimension)}
    {feeds : List Value}
    (hMem : .motion mnemonic axes feeds ∈ programSteps settings count)
    {v : Value}
    (hFeed : v ∈ feeds) :
    v = settings.retractFeed := by
  rcases List.mem_append.mp hMem with hCut | hStop
  · rcases mem_cutSteps hCut with hSetup | ⟨k, -, hPass⟩
    · simp only [setupSteps, List.mem_cons, List.not_mem_nil,
        Step.motion.injEq, reduceCtorEq, false_or, or_false] at hSetup
      rcases hSetup with ⟨-, -, rfl⟩ | ⟨-, -, rfl⟩ | ⟨-, -, rfl⟩
      · cases hFeed
      · cases hFeed
      · exact List.mem_singleton.mp hFeed
    · simp only [passSteps, List.mem_cons, List.not_mem_nil,
        Step.motion.injEq, or_false] at hPass
      rcases hPass with
        ⟨-, -, rfl⟩ | ⟨-, -, rfl⟩ | ⟨-, -, rfl⟩ | ⟨-, -, rfl⟩ |
          ⟨-, -, rfl⟩ <;> cases hFeed
  · simp at hStop

/- The line of a step fails only with one of the numbers of the program. -/
theorem step_fails
    {claim : Fault → Prop}
    {u : LengthUnit}
    (hNumbers :
      ∀ v ∈ plan.numbers settings, Fails claim (Line.ofValue u v))
    {count : Nat}
    {step : Step}
    (hMem : step ∈ programSteps settings count) :
    Fails claim (Line.ofOperation u (plan.leaf step)) := by
  cases step with
  | other op =>
      have hStill := mem_stillLeaves hMem
      simp only [stillLeaves, List.mem_cons, List.not_mem_nil, or_false]
        at hStill
      intro fault hFault
      rcases hStill with rfl | rfl | rfl | rfl | rfl | rfl | rfl <;>
        cases hFault
  | motion mnemonic axes feeds =>
      refine Line.ofOperation_fails ?_
      intro e hEntry
      rcases List.mem_append.mp hEntry with hAxis | hFeed
      · rcases List.mem_map.mp hAxis with ⟨valued, hValued, rfl⟩
        rcases List.mem_map.mp hValued with ⟨axis, _, rfl⟩
        refine ⟨axis.1.name, plan.value axis.2, rfl, ?_⟩
        rcases value_cases plan settings axis.2 with hZero | hIn
        · rw [hZero]
          exact Line.ofValue_zero_fails claim u
        · exact hNumbers _ hIn
      · rcases List.mem_map.mp hFeed with ⟨v, hIn, rfl⟩
        refine ⟨"f", v, rfl, ?_⟩
        rw [mem_feeds hMem hIn]
        exact hNumbers _ (by simp [numbers])

/- The leaves of a program are its steps, and switches of modes. -/
theorem mem_leaves_program
    {ambient : Ambient}
    {leaf : Operation}
    (hMem : leaf ∈ (plan.program settings ambient).leaves) :
    (∃ mode, leaf = Instruction.ofPositioning mode) ∨
      (∃ u, leaf = Instruction.ofUnit u) ∨
      ∃ step ∈ programSteps settings plan.geometry.depths.length,
        leaf = plan.leaf step := by
  rw [leaves_program] at hMem
  simp only [List.mem_cons, List.mem_append, List.mem_map,
    List.not_mem_nil, or_false] at hMem
  rcases hMem with
    rfl | rfl | ⟨step, hStep, rfl⟩ | rfl | rfl | rfl
  · exact Or.inl ⟨_, rfl⟩
  · exact Or.inr (Or.inl ⟨_, rfl⟩)
  · exact Or.inr (Or.inr ⟨step, List.mem_append_left _ hStep, rfl⟩)
  · exact Or.inr (Or.inl ⟨_, rfl⟩)
  · exact Or.inl ⟨_, rfl⟩
  · refine Or.inr (Or.inr ⟨.other (say "Stop Spindle"), ?_, rfl⟩)
    exact List.mem_append_right _ (List.mem_singleton_self _)

/- The lines of a program fail only with one of its numbers. -/
theorem leaf_fails
    {claim : Fault → Prop}
    {u : LengthUnit}
    (hNumbers :
      ∀ v ∈ plan.numbers settings, Fails claim (Line.ofValue u v))
    {ambient : Ambient}
    {leaf : Operation}
    (hMem : leaf ∈ (plan.program settings ambient).leaves) :
    Fails claim (Line.ofOperation u leaf) := by
  rcases mem_leaves_program hMem with
    ⟨mode, rfl⟩ | ⟨w, rfl⟩ | ⟨step, hStep, rfl⟩
  · intro fault hFault
    cases mode <;> cases hFault
  · intro fault hFault
    cases w <;> cases hFault
  · exact step_fails hNumbers hStep

/-
  A program of plain numbers fails to compile as the command
  expects it to only if one of its numbers is stray.
-/
theorem hasStray_of_fault
    (hPlain : plan.IsPlain)
    (hDoubles : settings.IsOfDoubles)
    {ambient : Ambient}
    {fault : Fault}
    (hFault :
      (Listing.ofProgram ambient.unit
        (plan.program settings ambient)).fault = some fault)
    (hFamily : Command.isPathFault fault.family = true) :
    plan.HasStray settings := by
  by_contra hFinite
  have hNumbers :
      ∀ v ∈ plan.numbers settings,
        Fails Line.IsTooLarge (Line.ofValue ambient.unit v) := by
    intro v hIn
    rcases isPlain_number hPlain hDoubles hIn with ⟨n, hValue⟩
    refine Line.ofValue_fails ambient.unit hValue ?_
    rintro x rfl
    by_contra hStray
    exact hFinite ⟨x, hIn, Bool.eq_false_iff.mpr hStray⟩
  have hLarge : Line.IsTooLarge fault :=
    Listing.fault_ofLeaves (fun leaf hMem => leaf_fails hNumbers hMem)
      hFault
  rw [hLarge] at hFamily
  cases hFamily

end Plan

end Joinery
