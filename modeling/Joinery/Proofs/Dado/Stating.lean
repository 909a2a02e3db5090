import Joinery.Proofs.Dado.Rendering
import Joinery.Proofs.Gcode.Ambient

/-
  A joint may state its parameters with their units, or as
  the numbers that these are in the ambient unit. Both give
  the same program, or fail alike: a cutter that is stated as
  a number is checked at once, one with a unit is checked
  when it has been converted, and both checks come before
  anything else that can fail. No quantity is left in the
  program, so its listing is the same in every ambient state.

  Key definitions include:
    * `Value.IsBare`
    * `Joint.IsOfNumbers`
    * `Joint.build`

  Key theorems include:
    * `Joint.make_plan`
    * `Plan.program_areUnmeasured`
    * `Joint.build_converted`
-/

namespace Joinery

------------------------------------------------------------
-- Numbers With And Without Units
------------------------------------------------------------

namespace Value

/- An integer, a double or a ratio. -/
def IsBare
    (v : Value) : Prop :=
  ∃ n : Number, v = n.toValue

/- A bare number, or a quantity whose amount is one. -/
inductive IsOfNumber : Value → Prop where
  | bare
      {v : Value}
      (hBare : v.IsBare) :
      IsOfNumber v
  | quantity
      (unit : Value)
      {amount : Value}
      (hBare : amount.IsBare) :
      IsOfNumber (.quantity unit amount)

theorem IsBare.not_isQuantity
    {v : Value}
    (hBare : v.IsBare) :
    ¬ v.IsQuantity := by
  rcases hBare with ⟨n, rfl⟩
  rintro ⟨unit, amount, hSame⟩
  cases n <;> cases hSame

/- A bare number is taken to be in the unit that is asked for. -/
theorem IsBare.convert_eq
    {v : Value}
    (hBare : v.IsBare)
    (u : LengthUnit) :
    convert u v none = .ok v := by
  rcases hBare with ⟨n, rfl⟩
  cases n <;> rfl

/- What is converted is a bare number in the end. -/
theorem IsOfNumber.convert_isBare
    {v plain : Value}
    (hNumber : v.IsOfNumber)
    {u : LengthUnit}
    (hConvert : convert u v none = .ok plain) :
    plain.IsBare := by
  cases hNumber with
  | bare hBare =>
      rw [hBare.convert_eq] at hConvert
      cases hConvert
      exact hBare
  | quantity unit hBare =>
      rename_i amount
      change convertAmount unit amount (.unit u) = .ok plain at hConvert
      unfold convertAmount at hConvert
      split at hConvert
      · cases hConvert
        exact hBare
      · split at hConvert
        · rcases Outcome.bind_eq_ok_iff.mp hConvert with ⟨n, -, hRest⟩
          rcases Outcome.bind_eq_ok_iff.mp hRest with ⟨m, -, hEnd⟩
          cases hEnd
          exact ⟨m, rfl⟩
        · rcases Outcome.bind_eq_ok_iff.mp hConvert with ⟨n, -, hRest⟩
          rcases Outcome.bind_eq_ok_iff.mp hRest with ⟨m, -, hEnd⟩
          cases hEnd
          exact ⟨m, rfl⟩
        · cases hConvert

end Value

------------------------------------------------------------
-- Joints With And Without Units
------------------------------------------------------------

namespace Joint

/- Every parameter is a bare number. -/
def IsBare
    (joint : Joint) : Prop :=
  ∀ p ∈ parameters, (p.get joint).IsBare

/- Every parameter is a bare number or a quantity of one. -/
def IsOfNumbers
    (joint : Joint) : Prop :=
  ∀ p ∈ parameters, (p.get joint).IsOfNumber

/- The program of a joint that is made and then generated. -/
def build
    (settings : Settings)
    (joint : Joint) : Build Operation := do
  let made ← Build.ofOutcome joint.make
  generate made settings

/- What is converted is a joint of bare numbers. -/
theorem IsOfNumbers.converted_isBare
    {joint plain : Joint}
    (hNumbers : joint.IsOfNumbers)
    {u : LengthUnit}
    (hConverted : joint.converted u = .ok plain) :
    plain.IsBare := by
  rcases converted_spec hConverted with
    ⟨hPlate, hRetract, hStock, hCutter, hOffset, hLength⟩
  simp only [IsOfNumbers, IsBare, parameters, List.forall_mem_cons,
    List.not_mem_nil, false_implies, implies_true, and_true] at hNumbers ⊢
  rcases hNumbers with ⟨plate, retract, stock, cutter, offset, length⟩
  exact ⟨plate.convert_isBare hPlate, retract.convert_isBare hRetract,
    stock.convert_isBare hStock, cutter.convert_isBare hCutter,
    offset.convert_isBare hOffset, length.convert_isBare hLength⟩

/- Converting bare numbers keeps them as they are. -/
theorem IsBare.converted_eq
    {joint : Joint}
    (hBare : joint.IsBare)
    (u : LengthUnit) :
    joint.converted u = .ok joint := by
  simp only [IsBare, parameters, List.forall_mem_cons,
    List.not_mem_nil, false_implies, implies_true, and_true] at hBare
  rcases hBare with ⟨plate, retract, stock, cutter, offset, length⟩
  unfold converted
  dsimp only
  rw [plate.convert_eq, retract.convert_eq, stock.convert_eq,
    cutter.convert_eq, offset.convert_eq, length.convert_eq]
  rfl

/- A joint that is made is the one that was given. -/
theorem make_eq
    {joint made : Joint}
    (hMade : joint.make = .ok made) :
    made = joint := by
  rcases Outcome.bind_eq_ok_iff.mp hMade with ⟨-, -, hEnd⟩
  cases hEnd
  rfl

/-
  A joint is refused for its cutter only, and for one that is
  refused again as the number that it is converted to.
-/
theorem make_refused
    {joint : Joint}
    {fault : Fault}
    (hRefused : joint.make = .error fault)
    {u : LengthUnit}
    {plain : Value}
    (hConvert : convert u joint.cutterDiameter none = .ok plain) :
    plain.atMostZero = .ok true ∧
      fault = (Fault.cutterNotPositive plain).reported := by
  have hNumber :
      ∀ (v : Value) (n : Number), v.number? = some n →
        (do
            (do if ← v.atMostZero then fail (.cutterNotPositive v) :
              Outcome Unit)
            return joint : Outcome Joint) = .error fault →
          v.atMostZero = .ok true ∧
            fault = (Fault.cutterNotPositive v).reported := by
    intro v n hNumber hFault
    have hOrder : v.atMostZero = .ok (n.atMost (.int 0)) := by
      rw [Value.atMostZero, Value.asOrdered, hNumber]
      rfl
    rw [hOrder] at hFault ⊢
    cases hLess : n.atMost (.int 0) with
    | true =>
        rw [hLess] at hFault
        cases hFault
        exact ⟨rfl, rfl⟩
    | false =>
        rw [hLess] at hFault
        cases hFault
  unfold make at hRefused
  split at hRefused
  · rename_i b hCutter
    rw [hCutter] at hConvert
    cases hConvert
  · rename_i n hCutter
    rw [hCutter] at hConvert hRefused
    cases hConvert
    exact hNumber _ (.int n) rfl hRefused
  · rename_i x hCutter
    rw [hCutter] at hConvert hRefused
    cases hConvert
    exact hNumber _ (.float x) rfl hRefused
  · cases hRefused

/-
  Where all parameters can be converted, a joint that is made
  and planned is one that is planned only.
-/
theorem make_plan
    (settings : Settings)
    {u : LengthUnit}
    {joint plain : Joint}
    (hConverted : joint.converted u = .ok plain) :
    (joint.make >>= fun made => made.plan settings u) =
      joint.plan settings u := by
  cases hMade : joint.make with
  | ok made =>
      rw [make_eq hMade]
      rfl
  | error fault =>
      rcases make_refused hMade (converted_spec hConverted).2.2.2.1 with
        ⟨hRefused, rfl⟩
      rw [plan, hConverted, Outcome.ok_bind, Geometry.ofJoint, hRefused]
      rfl

/- A plan depends on the numbers that the parameters are converted to. -/
theorem plan_converted
    (settings : Settings)
    {u : LengthUnit}
    {joint plain : Joint}
    (hNumbers : joint.IsOfNumbers)
    (hConverted : joint.converted u = .ok plain) :
    joint.plan settings u = plain.plan settings u := by
  have hPlain := (hNumbers.converted_isBare hConverted).converted_eq u
  rw [plan, plan, hConverted, hPlain]

/- The result of a joint that is made and generated is that of its plan. -/
theorem build_result
    (settings : Settings)
    (joint : Joint)
    (ambient : Ambient) :
    (joint.build settings).result ambient =
      (joint.make >>= fun made => made.plan settings ambient.unit).map
        (·.program settings ambient) := by
  rw [build, Build.result_bind (Build.Keeps.ofOutcome _),
    Build.result_ofOutcome]
  cases joint.make with
  | ok made => exact generate_result made settings ambient
  | error fault => rfl

end Joint

------------------------------------------------------------
-- Programs Without Quantities
------------------------------------------------------------

namespace Plan

/- No value of a plan of bare numbers is a quantity. -/
theorem value_isBare
    {plan : Plan}
    (hBare : plan.joint.IsBare)
    (d : Dimension) :
    (plan.value d).IsBare := by
  simp only [Joint.IsBare, Joint.parameters, List.forall_mem_cons,
    List.not_mem_nil, false_implies, implies_true, and_true] at hBare
  rcases hBare with ⟨hPlate, hRetract, -, -, -, hLength⟩
  cases d with
  | zero => exact ⟨.int 0, rfl⟩
  | plate => exact hPlate
  | retract => exact hRetract
  | length => exact hLength
  | near => exact ⟨_, rfl⟩
  | far => exact ⟨_, rfl⟩
  | depth k => exact ⟨_, rfl⟩

/-
  The program of a plan of bare numbers gives no quantity to
  any axis, if the feed rate is none either.
-/
theorem program_areUnmeasured
    {plan : Plan}
    {settings : Settings}
    (hBare : plan.joint.IsBare)
    (hFeed : ¬ settings.retractFeed.IsQuantity)
    (ambient : Ambient) :
    ∀ leaf ∈ (plan.program settings ambient).leaves,
      ∀ v ∈ leaf.axisValues, ¬ v.IsQuantity := by
  intro leaf hMem v hAxis
  rcases mem_leaves_program hMem with
    ⟨mode, rfl⟩ | ⟨u, rfl⟩ | ⟨step, hStep, rfl⟩
  · cases hAxis
  · cases hAxis
  · cases step with
    | other op =>
        have hStill := mem_stillLeaves hStep
        simp only [stillLeaves, List.mem_cons, List.not_mem_nil, or_false]
          at hStill
        rcases hStill with rfl | rfl | rfl | rfl | rfl | rfl | rfl <;>
          cases hAxis
    | motion mnemonic axes feeds =>
        simp only [leaf, Instruction.known, Operation.axisValues,
          List.flatMap_singleton, Value.axisValues, List.map_append,
          List.map_map, List.mem_append, List.mem_map] at hAxis
        rcases hAxis with ⟨e, -, rfl⟩ | ⟨feed, hIn, rfl⟩
        · exact (value_isBare hBare e.2).not_isQuantity
        · rw [mem_feeds hStep hIn]
          exact hFeed

end Plan

/- A feed rate that has been compared with zero is no quantity. -/
theorem Settings.make_feed
    {feed tolerance : Value}
    {settings : Settings}
    (hSettings : Settings.make feed tolerance = .ok settings) :
    ¬ settings.retractFeed.IsQuantity := by
  rintro ⟨unit, amount, hQuantity⟩
  rcases Outcome.bind_eq_ok_iff.mp hSettings with ⟨refused, hFeed, hRest⟩
  cases refused with
  | true => cases hRest
  | false =>
      rcases Outcome.bind_eq_ok_iff.mp hRest with ⟨below, -, hRest⟩
      cases below with
      | true => cases hRest
      | false =>
          cases hRest
          subst hQuantity
          cases hFeed

/-
  A joint that states its parameters in units, or in numbers
  of the ambient unit, or in both, gives the same program as
  the joint of the numbers that they are converted to, or
  fails with the same fault. The program has the same listing
  in every ambient state.
-/
theorem Joint.build_converted
    (joint plain : Joint)
    (ambient : Ambient)
    (feed tolerance : Value)
    (settings : Settings)
    (hSettings : Settings.make feed tolerance = .ok settings)
    (hNumbers : joint.IsOfNumbers)
    (hConverted : joint.converted ambient.unit = .ok plain) :
    (joint.build settings).result ambient =
        (plain.build settings).result ambient ∧
      ∀ program, (joint.build settings).result ambient = .ok program →
        ∃ ops, program = .group ops ∧
          ∀ first second : Ambient,
            Listing.inAmbient first ops = Listing.inAmbient second ops := by
  have hBare := hNumbers.converted_isBare hConverted
  have hResult :
      (joint.build settings).result ambient =
        (joint.plan settings ambient.unit).map
          (·.program settings ambient) := by
    rw [build_result, make_plan settings hConverted]
  refine ⟨?_, fun program hProgram => ?_⟩
  · rw [hResult, build_result,
      make_plan settings (hBare.converted_eq ambient.unit),
      plan_converted settings hNumbers hConverted]
  · rw [hResult] at hProgram
    rcases Outcome.map_eq_ok_iff.mp hProgram with ⟨plan, hPlan, rfl⟩
    have hPlain := (Plan.plan_spec hPlan).1
    rw [hConverted] at hPlain
    cases hPlain
    refine ⟨_, rfl, fun first second => ?_⟩
    refine Listing.ofLeaves_congr fun leaf hMem => ?_
    exact Line.ofOperation_of_not_isQuantity
      (Plan.program_areUnmeasured hBare (Settings.make_feed hSettings)
        ambient leaf hMem)
      first.unit second.unit

/- A joint in inches, millimetres, and numbers of either one. -/
def statedJoint : Joint where
  plateThickness := .mm (.float 4.2)
  retractHeight := .int 1
  stockThickness := .inch (.ratio (1 / 2))
  cutterDiameter := .mm (.float 3.175)
  workOffsetX := .float (-0.75)
  passLength := .ratio 6

/- It is built into one program, stated either way, in inches. -/
theorem statedJoint_build_converted :
    ∃ plain program,
      statedJoint.converted .inch = .ok plain ∧
        (statedJoint.build .standard).result ⟨.inch, .relative⟩ =
          .ok program ∧
        (plain.build .standard).result ⟨.inch, .relative⟩ = .ok program ∧
        ∃ ops, program = .group ops ∧
          ∀ first second : Ambient,
            Listing.inAmbient first ops = Listing.inAmbient second ops := by
  have hPlain :
      (statedJoint.converted .inch).toOption.map (fun _ => true) =
        some true := by
    decide +kernel
  have hBuilt :
      ((statedJoint.build .standard).result
        ⟨.inch, .relative⟩).toOption.map (fun _ => true) = some true := by
    decide +kernel
  have hNumbers : statedJoint.IsOfNumbers := by
    simp only [Joint.IsOfNumbers, Joint.parameters, List.forall_mem_cons,
      List.not_mem_nil, false_implies, implies_true, and_true]
    exact ⟨.quantity _ ⟨.float 4.2, rfl⟩, .bare ⟨.int 1, rfl⟩,
      .quantity _ ⟨.ratio (1 / 2), rfl⟩, .quantity _ ⟨.float 3.175, rfl⟩,
      .bare ⟨.float (-0.75), rfl⟩, .bare ⟨.ratio 6, rfl⟩⟩
  have hSettings :
      Settings.make (.int 300) (.float 0.001) = .ok .standard := by
    have hFeed : (Number.int 300).atMost (.int 0) = false := by
      decide +kernel
    have hSlack : (Number.float 0.001).less (.int 0) = false := by
      decide +kernel
    have hChecks :
        (Value.int 300).atMostZero = .ok false ∧
          (Value.float 0.001).belowZero = .ok false :=
      ⟨congrArg Except.ok hFeed, congrArg Except.ok hSlack⟩
    rw [Settings.make, hChecks.1, hChecks.2]
    rfl
  rcases Outcome.exists_of_toOption hPlain with ⟨plain, hConverted, -⟩
  rcases Outcome.exists_of_toOption hBuilt with ⟨program, hProgram, -⟩
  have hSame :=
    Joint.build_converted statedJoint plain ⟨.inch, .relative⟩ _ _ .standard
      hSettings hNumbers hConverted
  exact ⟨plain, program, hConverted, hProgram, hSame.1 ▸ hProgram,
    hSame.2 program hProgram⟩

end Joinery
