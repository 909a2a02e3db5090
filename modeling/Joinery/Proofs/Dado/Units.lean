import Joinery.Proofs.Dado.Agreement
import Joinery.Proofs.Dado.Closeness
import Joinery.Proofs.Machine.Lengths

/-
  A cut is planned in the ambient unit, but always switches
  the machine to millimetres. So the programs of one joint in
  the two units command the same lengths only if there is
  next to nothing to cut.

  Key definitions include:
    * `Joint.passes`

  Key theorems include:
    * `Lengths.scale_le`
    * `Joint.agrees_iff_isSmall`
    * `Joint.same_cut_in_both_units_iff`
    * `Joint.inches_read_as_millimeters`
-/

namespace Joinery

open Machine

------------------------------------------------------------
-- Hundredths In Both Units
------------------------------------------------------------

/-
  A length that is shown as a hundredth at most, or alike in
  both units, is short, but for the roundings.
-/
theorem length_short
    {length scale first second : Rat}
    (hFirst : IsShownFor .millimeter length scale first)
    (hSecond : IsShownFor .inch length scale second)
    (hShown : |first| ≤ 1 / 100 ∨ |first - second| ≤ 1 / 100)
    (hScale : 0 ≤ scale) :
    |length| ≤ 3 / 100 + scale / 2 ^ 30 := by
  simp only [IsShownFor, LengthUnit.inUnit, LengthUnit.millimeters,
    div_one] at hFirst hSecond
  rw [abs_div, abs_of_pos (by norm_num : (0 : Rat) < 127 / 5)] at hSecond
  have hNonneg := abs_nonneg length
  rcases hShown with hSmall | hAlike
  · have hTriangle := abs_sub_abs_le_abs_sub length first
    rw [abs_sub_comm] at hTriangle
    linarith
  · have hSplit :
        length * (122 / 127) =
          -(first - length) + (second - length / (127 / 5)) +
            (first - second) := by
      ring
    have hThree := abs_add_three (-(first - length))
      (second - length / (127 / 5)) (first - second)
    rw [← hSplit, abs_neg, abs_mul,
      abs_of_pos (by norm_num : (0 : Rat) < 122 / 127)] at hThree
    linarith

/-
  Hundredths for one length in the two units are alike only
  if those of millimetres are one at most.
-/
theorem hundredths_alike_iff
    {length scale first second : Rat}
    (hHundredths : ∃ k : Int, second = k / 100)
    (hFirst : IsShownFor .millimeter length scale first)
    (hSecond : IsShownFor .inch length scale second)
    (hScale : 0 ≤ scale)
    (hFew : scale ≤ 2) :
    |first - second| ≤ 1 / 100 ↔ |first| ≤ 1 / 100 := by
  have hEither :
      |first| ≤ 1 / 100 ∨ |first - second| ≤ 1 / 100 →
        (|first - second| ≤ 1 / 100 ↔ |first| ≤ 1 / 100) := by
    intro hShown
    have hShort := length_short hFirst hSecond hShown hScale
    simp only [IsShownFor, LengthUnit.inUnit, LengthUnit.millimeters,
      div_one] at hFirst hSecond
    have hSmall : |length| ≤ 4 / 100 := by linarith
    -- Such a length is less than a hundredth of an inch.
    rcases hHundredths with ⟨k, rfl⟩
    have hTriangle := abs_sub_abs_le_abs_sub ((k : Rat) / 100)
      (length / (127 / 5))
    rw [abs_div length, abs_of_pos (by norm_num : (0 : Rat) < 127 / 5)]
      at hSecond hTriangle
    have hNone : (k : Rat) / 100 = 0 :=
      Machine.hundredths_eq_zero (by linarith)
    rw [hNone, sub_zero]
  constructor
  · intro hAlike
    exact (hEither (Or.inr hAlike)).mp hAlike
  · intro hSmall
    exact (hEither (Or.inl hSmall)).mpr hSmall

namespace Lengths

theorem scale_nonneg
    (lengths : Lengths)
    (d : Dimension) :
    0 ≤ lengths.scale d := by
  cases d <;> simp only [scale] <;> positivity

/-
  If both sides and the first depth of a cut are short, so
  are the parameters that the sides are computed from.
-/
theorem scale_le
    (lengths : Lengths)
    (hNear :
      |lengths.exact .near| ≤ 3 / 100 + lengths.scale .near / 2 ^ 30)
    (hFar :
      |lengths.exact .far| ≤ 3 / 100 + lengths.scale .far / 2 ^ 30)
    (hDepth :
      |lengths.exact (.depth 0)| ≤
        3 / 100 + lengths.scale (.depth 0) / 2 ^ 30)
    (d : Dimension) :
    lengths.scale d ≤ 2 := by
  have hCutter :
      lengths.cutter = -2 * lengths.exact (.depth 0) := by
    simp only [exact]
    push_cast
    ring
  have hStock :
      lengths.stock =
        2 * lengths.exact .near + -(2 * lengths.exact .far) +
          2 * lengths.cutter := by
    simp only [exact]
    ring
  have hOffset :
      lengths.offset =
        lengths.exact .far + -(lengths.cutter / 2) +
          -(lengths.stock / 2) := by
    simp only [exact]
    ring
  have hCutterSize := congrArg abs hCutter
  have hStockSize := abs_add_three (2 * lengths.exact .near)
    (-(2 * lengths.exact .far)) (2 * lengths.cutter)
  have hOffsetSize := abs_add_three (lengths.exact .far)
    (-(lengths.cutter / 2)) (-(lengths.stock / 2))
  rw [← hStock] at hStockSize
  rw [← hOffset] at hOffsetSize
  simp only [abs_neg, abs_mul, abs_div, abs_two]
    at hCutterSize hStockSize hOffsetSize
  simp only [scale] at hNear hFar hDepth
  cases d <;> simp only [scale] <;> linarith

end Lengths

------------------------------------------------------------
-- Plans In Both Units
------------------------------------------------------------

namespace Joint

/- How many passes the cut of a joint takes, planned in a unit. -/
def passes
    (settings : Settings)
    (u : LengthUnit)
    (joint : Joint) : Outcome Nat :=
  (joint.plan settings u).map (·.geometry.depths.length)

section Plans

variable {joint : Joint}
variable {lengths : Lengths}
variable {settings : Settings}
variable {plan other : Plan}

/- What both plans show for a dimension that is commanded. -/
theorem shown_in_both
    (hLengths : joint.HasLengths lengths)
    (hPlan : joint.plan settings .millimeter = .ok plan)
    (hOther : joint.plan settings .inch = .ok other)
    (hPasses :
      plan.geometry.depths.length = other.geometry.depths.length)
    {d : Dimension}
    (hCommanded : IsCommanded settings plan.geometry.depths.length d)
    (hShown : plan.IsShown .millimeter d)
    (hOtherShown : other.IsShown .inch d) :
    (plan.Agrees other .millimeter .inch d ∨ plan.IsSmall .millimeter d →
      |lengths.exact d| ≤ 3 / 100 + lengths.scale d / 2 ^ 30) ∧
    (lengths.scale d ≤ 2 →
      (plan.Agrees other .millimeter .inch d ↔
        plan.IsSmall .millimeter d)) := by
  rcases hShown with ⟨q, hShows⟩
  rcases hOtherShown with ⟨r, hOtherShows⟩
  have hPass :
      ∀ pass, d = .depth pass → pass < plan.geometry.depths.length := by
    intro pass hDepth
    exact pass_lt_of_isCommanded (hDepth ▸ hCommanded)
  rcases Plan.shows_close hLengths hPlan hPass hShows with
    ⟨-, hFirst⟩
  rcases Plan.shows_close hLengths hOther
      (fun pass hDepth => hPasses ▸ hPass pass hDepth) hOtherShows with
    ⟨hOthers, hSecond⟩
  have hAgrees :
      plan.Agrees other .millimeter .inch d ↔ |q - r| ≤ 1 / 100 := by
    constructor
    · rintro ⟨q', r', hSame, hOtherSame, hClose⟩
      rw [hShows.unique hSame, hOtherShows.unique hOtherSame]
      exact hClose
    · intro hClose
      exact ⟨q, r, hShows, hOtherShows, hClose⟩
  have hSmall : plan.IsSmall .millimeter d ↔ |q| ≤ 1 / 100 := by
    constructor
    · rintro ⟨q', hSame, hLess⟩
      rw [hShows.unique hSame]
      exact hLess
    · intro hLess
      exact ⟨q, hShows, hLess⟩
  rw [hAgrees, hSmall]
  refine ⟨fun hEither => ?_, fun hFew => ?_⟩
  · exact length_short hFirst hSecond hEither.symm (lengths.scale_nonneg d)
  · exact hundredths_alike_iff hOthers hFirst hSecond
      (lengths.scale_nonneg d) hFew

/- A plan has a pass. -/
theorem passes_pos
    (hPlan : joint.plan settings .millimeter = .ok plan) :
    0 < plan.geometry.depths.length := by
  rcases Geometry.ofJoint_spec (Plan.plan_spec hPlan).2 with
    ⟨-, -, -, -, -, -, -, -, -, -, -, -, -, -, -, hDepths⟩
  exact (passCount_bounds (passDepths_spec hDepths).1).1

/-
  Two plans that show all dimensions agree on all of them
  exactly if the one in millimetres shows next to nothing.
-/
theorem agrees_iff_isSmall
    (hLengths : joint.HasLengths lengths)
    (hPlan : joint.plan settings .millimeter = .ok plan)
    (hOther : joint.plan settings .inch = .ok other)
    (hPasses :
      plan.geometry.depths.length = other.geometry.depths.length)
    (hShown :
      ∀ d, IsCommanded settings plan.geometry.depths.length d →
        plan.IsShown .millimeter d ∧ other.IsShown .inch d) :
    (∀ d, IsCommanded settings plan.geometry.depths.length d →
        plan.Agrees other .millimeter .inch d) ↔
      ∀ d, IsCommanded settings plan.geometry.depths.length d →
        plan.IsSmall .millimeter d := by
  have hBoth :
      ∀ d, IsCommanded settings plan.geometry.depths.length d → _ :=
    fun d hCommanded =>
      shown_in_both hLengths hPlan hOther hPasses hCommanded
        (hShown d hCommanded).1 (hShown d hCommanded).2
  rcases isCommanded_pass settings (passes_pos hPlan) with
    ⟨hNear, hFar, hDepth⟩
  have hIff :
      (∀ d, IsCommanded settings plan.geometry.depths.length d →
        plan.Agrees other .millimeter .inch d ∨
          plan.IsSmall .millimeter d) →
      ∀ d, IsCommanded settings plan.geometry.depths.length d →
        (plan.Agrees other .millimeter .inch d ↔
          plan.IsSmall .millimeter d) := by
    intro hEither d hCommanded
    refine (hBoth d hCommanded).2 (lengths.scale_le ?_ ?_ ?_ d)
    · exact (hBoth _ hNear).1 (hEither _ hNear)
    · exact (hBoth _ hFar).1 (hEither _ hFar)
    · exact (hBoth _ hDepth).1 (hEither _ hDepth)
  constructor
  · intro hAgrees d hCommanded
    exact (hIff (fun e hMem => Or.inl (hAgrees e hMem)) d hCommanded).mp
      (hAgrees d hCommanded)
  · intro hSmall d hCommanded
    exact (hIff (fun e hMem => Or.inr (hSmall e hMem)) d hCommanded).mpr
      (hSmall d hCommanded)

/- A generated program is one of a plan, with the plan's passes. -/
theorem exists_plan
    {ambient : Ambient}
    {op : Operation}
    (hBuilt : (generate joint settings).result ambient = .ok op) :
    ∃ plan, joint.plan settings ambient.unit = .ok plan ∧
      op = plan.program settings ambient ∧
      joint.passes settings ambient.unit =
        .ok plan.geometry.depths.length := by
  rw [generate_result, Outcome.map_eq_ok_iff] at hBuilt
  rcases hBuilt with ⟨plan, hPlan, rfl⟩
  refine ⟨plan, hPlan, rfl, ?_⟩
  rw [passes, hPlan]
  rfl

end Plans

/-
  A joint of quantities whose program can be generated in
  millimetres and in inches. The two programs have as many
  passes and command the same lengths exactly if they have as
  many passes, both can be compiled, and the one that is made
  in millimetres moves by a hundredth of one at most.
-/
theorem same_cut_in_both_units_iff
    (joint : Joint)
    (lengths : Lengths)
    (settings : Settings)
    (mode otherMode : Positioning)
    (inMillimeters inInches : Operation)
    (hLengths : joint.HasLengths lengths)
    (hMillimeters :
      (generate joint settings).result ⟨.millimeter, mode⟩ =
        .ok inMillimeters)
    (hInches :
      (generate joint settings).result ⟨.inch, otherMode⟩ =
        .ok inInches) :
    (joint.passes settings .millimeter = joint.passes settings .inch ∧
      SameMotions ⟨.millimeter, mode⟩ ⟨.inch, otherMode⟩
        inMillimeters inInches) ↔
    (joint.passes settings .millimeter = joint.passes settings .inch ∧
      (Listing.ofProgram .millimeter inMillimeters).fault = none ∧
      (Listing.ofProgram .inch inInches).fault = none ∧
      ∀ t ∈ reads ⟨.millimeter, mode⟩ inMillimeters, IsStill t.item) := by
  rcases exists_plan hMillimeters with ⟨plan, hPlan, rfl, hCount⟩
  rcases exists_plan hInches with ⟨other, hOther, rfl, hOtherCount⟩
  rw [hCount, hOtherCount]
  have hIff :
      plan.geometry.depths.length = other.geometry.depths.length →
      (Listing.ofProgram .millimeter
        (plan.program settings ⟨.millimeter, mode⟩)).fault = none →
      (Listing.ofProgram .inch
        (other.program settings ⟨.inch, otherMode⟩)).fault = none →
      (List.Forall₂ Corresponds
          (reads ⟨.millimeter, mode⟩
            (plan.program settings ⟨.millimeter, mode⟩))
          (reads ⟨.inch, otherMode⟩
            (other.program settings ⟨.inch, otherMode⟩)) ↔
        ∀ t ∈ reads ⟨.millimeter, mode⟩
            (plan.program settings ⟨.millimeter, mode⟩),
          IsStill t.item) := by
    intro hPasses hComplete hOtherComplete
    have hReads :=
      plan.reads_commands settings ⟨.millimeter, mode⟩ hComplete
    have hOtherReads :=
      other.reads_commands settings ⟨.inch, otherMode⟩ hOtherComplete
    rw [← hPasses] at hOtherReads
    rw [Plan.all_correspond_iff hReads hOtherReads,
      Plan.all_still_iff hReads]
    exact agrees_iff_isSmall hLengths hPlan hOther hPasses
      fun d hCommanded =>
        ⟨Plan.all_shown hReads hCommanded,
          Plan.all_shown hOtherReads hCommanded⟩
  constructor
  · rintro ⟨hPasses, hSame⟩
    refine ⟨hPasses, hSame.firstComplete, hSame.secondComplete, ?_⟩
    exact (hIff (Except.ok.inj hPasses) hSame.firstComplete
      hSame.secondComplete).mp hSame.lines
  · rintro ⟨hPasses, hComplete, hOtherComplete, hStill⟩
    refine ⟨hPasses, hComplete, hOtherComplete, ?_⟩
    exact (hIff (Except.ok.inj hPasses) hComplete hOtherComplete).mpr
      hStill

/- An integer of millimetres. -/
def millimeters
    (n : Int) : Value :=
  .quantity (.unit .millimeter) (.int n)

/- A joint as thick as a hundred and twenty-eighth of a millimetre. -/
def speck : Joint :=
  let least : Value := .quantity (.unit .millimeter) (.float 0.0078125)
  { plateThickness := millimeters 0
    retractHeight := millimeters 0
    stockThickness := least
    cutterDiameter := least
    workOffsetX := millimeters 0
    passLength := millimeters 0 }

theorem speck_hasLengths :
    speck.HasLengths ⟨0, 0, 1 / 128, 1 / 128, 0, 0⟩ where
  plate := by decide +kernel
  retract := by decide +kernel
  stock := by decide +kernel
  cutter := by decide +kernel
  offset := by decide +kernel
  length := by decide +kernel

/- A speck is cut alike in both units: there is nothing to cut. -/
theorem speck_same_cut :
    ∃ inMillimeters inInches,
      (generate speck { }).result { } = .ok inMillimeters ∧
      (generate speck { }).result { unit := .inch } = .ok inInches ∧
      SameMotions { } { unit := .inch } inMillimeters inInches := by
  have hMillimeters :
      ((generate speck { }).result { }).toOption.map
        (fun op => decide
          ((Listing.ofProgram .millimeter op).fault = none ∧
            ∀ t ∈ reads { } op, IsStill t.item)) = some true := by
    decide +kernel
  have hInches :
      ((generate speck { }).result { unit := .inch }).toOption.map
        (fun op => decide ((Listing.ofProgram .inch op).fault = none)) =
          some true := by
    decide +kernel
  have hOne :
      ∀ u, (speck.passes { } u).toOption.map (· == 1) = some true := by
    intro u
    cases u <;> decide +kernel
  rcases Outcome.exists_of_toOption hMillimeters with
    ⟨inMillimeters, hBuilt, hStill⟩
  rcases Outcome.exists_of_toOption hInches with
    ⟨inInches, hOther, hComplete⟩
  rcases Outcome.exists_of_toOption (hOne .millimeter) with
    ⟨count, hCount, hSame⟩
  rcases Outcome.exists_of_toOption (hOne .inch) with
    ⟨others, hOthers, hOtherSame⟩
  have hPasses : speck.passes { } .millimeter = speck.passes { } .inch := by
    rw [hCount, hOthers, eq_of_beq hSame, eq_of_beq hOtherSame]
  rcases of_decide_eq_true hStill with ⟨hFirst, hStill⟩
  exact ⟨inMillimeters, inInches, hBuilt, hOther,
    ((same_cut_in_both_units_iff speck _ { } .absolute .absolute
      inMillimeters inInches speck_hasLengths hBuilt hOther).mpr
        ⟨hPasses, hFirst, of_decide_eq_true hComplete, hStill⟩).2⟩

/- A joint of one pass, all in millimetres. -/
def shallow : Joint where
  plateThickness := millimeters 4
  retractHeight := millimeters 5
  stockThickness := millimeters 10
  cutterDiameter := millimeters 10
  workOffsetX := millimeters 20
  passLength := millimeters 60

/- The fourth line that is no switch, in a listing of a cut. -/
theorem reads_plate
    (ambient : Ambient)
    (op : Operation)
    {line : Text}
    (hLines :
      (Listing.ofProgram ambient.unit op).lines.take 6 =
        [("G90" : Text), "G28", "G92 X0 Y0", "M0 Attach ZProbe - Top",
          "G28 Z", line])
    (hOther : ModeSwitch.ofLine? line = none) :
    ∃ first second third rest,
      reads ambient op =
        first :: second :: third :: ⟨Plan.working, line⟩ :: rest := by
  rw [reads, ← List.take_append_drop 6
    (Listing.ofProgram ambient.unit op).lines, hLines]
  refine ⟨⟨Plan.working, "G92 X0 Y0"⟩,
    ⟨Plan.working, "M0 Attach ZProbe - Top"⟩, ⟨Plan.working, "G28 Z"⟩,
    visits ModeSwitch.ofLine? Plan.working
      ((Listing.ofProgram ambient.unit op).lines.drop 6), ?_⟩
  rw [← visits_cons_other hOther]
  rfl

/-
  Generated in inches, a touch plate of four millimetres is
  declared to be 0.16 millimetres thick.
-/
theorem inches_read_as_millimeters :
    ∃ inMillimeters inInches,
      shallow.HasLengths ⟨4, 5, 10, 10, 20, 60⟩ ∧
      (generate shallow { }).result { } = .ok inMillimeters ∧
      (generate shallow { }).result { unit := .inch } = .ok inInches ∧
      (Listing.ofProgram .millimeter inMillimeters).fault = none ∧
      (Listing.ofProgram .millimeter inMillimeters).lines.take 6 =
        [("G90" : Text), "G28", "G92 X0 Y0", "M0 Attach ZProbe - Top",
          "G28 Z", "G92 Z4"] ∧
      (Listing.ofProgram .inch inInches).fault = none ∧
      (Listing.ofProgram .inch inInches).lines.take 6 =
        [("G90" : Text), "G28", "G92 X0 Y0", "M0 Attach ZProbe - Top",
          "G28 Z", "G92 Z0.16"] ∧
      ¬ List.Forall₂ Corresponds (reads { } inMillimeters)
        (reads { unit := .inch } inInches) := by
  have hMillimeters :
      ((generate shallow { }).result { }).toOption.map
        (fun op => decide
          ((Listing.ofProgram .millimeter op).fault = none ∧
            (Listing.ofProgram .millimeter op).lines.take 6 =
              [("G90" : Text), "G28", "G92 X0 Y0",
                "M0 Attach ZProbe - Top", "G28 Z", "G92 Z4"])) =
          some true := by
    decide +kernel
  have hInches :
      ((generate shallow { }).result { unit := .inch }).toOption.map
        (fun op => decide
          ((Listing.ofProgram .inch op).fault = none ∧
            (Listing.ofProgram .inch op).lines.take 6 =
              [("G90" : Text), "G28", "G92 X0 Y0",
                "M0 Attach ZProbe - Top", "G28 Z", "G92 Z0.16"])) =
          some true := by
    decide +kernel
  rcases Outcome.exists_of_toOption hMillimeters with
    ⟨inMillimeters, hBuilt, hListed⟩
  rcases Outcome.exists_of_toOption hInches with
    ⟨inInches, hOther, hOtherListed⟩
  rcases of_decide_eq_true hListed with ⟨hComplete, hLines⟩
  rcases of_decide_eq_true hOtherListed with
    ⟨hOtherComplete, hOtherLines⟩
  refine ⟨inMillimeters, inInches, ?_, hBuilt, hOther, hComplete, hLines,
    hOtherComplete, hOtherLines, fun hAll => ?_⟩
  · constructor <;> decide +kernel
  · have hPlate :
        Block.motion? "G92 Z4" =
          some ⟨(Instruction.head "g92").letters, [⟨.char 'Z', 4⟩]⟩ := by
      decide +kernel
    have hOtherPlate :
        Block.motion? "G92 Z0.16" =
          some ⟨(Instruction.head "g92").letters,
            [⟨.char 'Z', 16 / 100⟩]⟩ := by
      decide +kernel
    rcases reads_plate { } inMillimeters hLines rfl with
      ⟨_, _, _, _, hReads⟩
    rcases reads_plate { unit := .inch } inInches hOtherLines rfl with
      ⟨_, _, _, _, hOtherReads⟩
    rw [hReads, hOtherReads] at hAll
    simp only [List.forall₂_cons, Corresponds, hPlate, hOtherPlate,
      Option.rel_some_some, SameMotion, SameWord] at hAll
    norm_num [Plan.working, LengthUnit.millimeters, abs_le] at hAll

end Joint

end Joinery
