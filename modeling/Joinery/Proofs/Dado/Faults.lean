import Joinery.Proofs.Dado.Rendering
import Joinery.Proofs.Number.Faults

/-
  The plan of a job and the lines of its program fail with a
  fault of value, of compilation, or with a number that is out
  of the range of doubles. There is no division by zero: the
  cutter has been found to be positive.

  Key definitions include:
    * `Family.isOfPath`

  Key theorems include:
    * `passCount_fails`
    * `Geometry.ofJoint_fails`
    * `Joint.plan_fails`
    * `Plan.count_fails`
    * `Plan.outline_fails`
-/

namespace Joinery

------------------------------------------------------------
-- Faults Of Paths
------------------------------------------------------------

/- The families of faults that the G-code of a job can have. -/
def Family.isOfPath
    (family : Family) : Bool :=
  Command.isPathFault family || family = .overflow

/- A fault is one of the G-code of a job. -/
def Fault.IsOfPath : Fault → Prop :=
  IsAmong Family.isOfPath

theorem Fault.IsOverflow.isOfPath
    (fault : Fault)
    (hRange : fault.IsOverflow) :
    fault.IsOfPath :=
  IsOverflow.isAmong rfl fault hRange

/- A computation that fails for a cause of the G-code fails so. -/
theorem Fails.ofPath
    {α : Type}
    {fault : Fault}
    (hFault : fault.IsOfPath) :
    Fails Fault.IsOfPath (fail fault : Outcome α) :=
  Fails.ofFail rfl hFault

------------------------------------------------------------
-- Plain Values
------------------------------------------------------------

theorem Value.IsPlain.asNumber_eq
    {v : Value}
    {n : Number}
    (hPlain : v.IsPlain n) :
    v.asNumber = .ok n := by
  unfold Value.asNumber
  rw [hPlain.number?]

/- A measure is converted unless its number is out of range. -/
theorem convert_fails
    (u : LengthUnit)
    {measure : Value}
    (hMeasure : measure.IsMeasure) :
    Fails Fault.IsOverflow (convert u measure none) := by
  cases hMeasure with
  | number hPlain =>
      cases hPlain with
      | int n => exact Fails.ok _
      | float x => exact Fails.ok _
  | quantity w hPlain =>
      rename_i amount n
      by_cases hSame : w = u
      · rw [hSame, convert_same (by cases u <;> rfl)]
        exact Fails.ok _
      · cases w with
        | millimeter =>
            cases u with
            | millimeter => exact absurd rfl hSame
            | inch =>
                rw [convert_millimeter rfl hPlain.number?]
                exact n.toDouble_fails.map _
        | inch =>
            cases u with
            | millimeter =>
                rw [convert_inch rfl hPlain.number?]
                exact n.toDouble_fails.map _
            | inch => exact absurd rfl hSame

theorem Joint.converted_fails
    (u : LengthUnit)
    {joint : Joint}
    (hMeasured : joint.IsMeasured) :
    Fails Fault.IsOverflow (joint.converted u) := by
  refine Fails.bind (convert_fails u hMeasured.plate) fun plate => ?_
  refine Fails.bind (convert_fails u hMeasured.retract) fun retract => ?_
  refine Fails.bind (convert_fails u hMeasured.stock) fun stock => ?_
  refine Fails.bind (convert_fails u hMeasured.cutter) fun cutter => ?_
  refine Fails.bind (convert_fails u hMeasured.offset) fun offset => ?_
  refine Fails.bind (convert_fails u hMeasured.length) fun length => ?_
  exact Fails.ok _

------------------------------------------------------------
-- Geometries
------------------------------------------------------------

/- A number that is not found to be at most zero is not zero. -/
theorem Number.place_ne_zero
    {n : Number}
    (hPositive : n.atMost (.int 0) = false) :
    n.place ≠ .finite 0 := by
  intro hZero
  have hAtMost : n.atMost (.int 0) = true :=
    (atMost_iff hZero (place_int 0)).mpr (le_refl _)
  rw [hPositive] at hAtMost
  cases hAtMost

theorem Number.ceiling_fails
    (n : Number) :
    Fails Fault.IsOfPath n.ceiling := by
  unfold ceiling
  split
  · exact Fails.ok _
  · exact Fails.ok _
  · split
    · exact Fails.ok _
    · split
      · exact Fails.ofPath rfl
      · exact Fails.ofPath rfl

theorem bothFinite_fails
    {radius width : Value}
    {r w : Number}
    (hRadius : radius.asNumber = .ok r)
    (hWidth : width.asNumber = .ok w) :
    Fails Fault.IsOverflow (bothFinite radius width) := by
  unfold bothFinite
  rw [hRadius, hWidth, Outcome.ok_bind]
  refine Fails.bind (r.toDouble_fails.map _) fun finite => ?_
  split
  · exact w.toDouble_fails.map _
  · exact Fails.ok _

/- The passes of a radius are counted, unless they are too many. -/
theorem passCount_fails
    {radius width tolerance : Value}
    {x : Float}
    {w t : Number}
    (hRadius : radius.asNumber = .ok (.float x))
    (hWidth : width.asNumber = .ok w)
    (hTolerance : tolerance.asNumber = .ok t) :
    Fails Fault.IsOfPath (passCount radius width tolerance) := by
  have hFinite :=
    (bothFinite_fails hRadius hWidth).mono Fault.IsOverflow.isOfPath
  unfold passCount
  rw [hRadius, hWidth, hTolerance]
  refine Fails.bind hFinite fun finite => ?_
  split
  · refine Fails.failed (Fails.ofPath ?_) _
    exact rfl
  · rw [Outcome.ok_bind]
    split
    · refine Fails.failed (Fails.ofPath ?_) _
      exact rfl
    · rename_i hPositive
      rw [Bool.not_eq_true] at hPositive
      have hSome := Number.place_ne_zero hPositive
      rw [Outcome.ok_bind, Outcome.ok_bind]
      refine Fails.bind ?_ fun reach => ?_
      · exact (Number.combine_fails _ w t).mono Fault.IsOverflow.isOfPath
      · refine Fails.bind ?_ fun steps => ?_
        · exact (reach.div_double_fails hSome).mono
            Fault.IsOverflow.isOfPath
        · split
          · refine Fails.failed (Fails.ofPath ?_) _
            exact rfl
          · exact Fails.bind steps.ceiling_fails fun n => Fails.ok _

/- The depths of the passes are computed once they are counted. -/
theorem passDepths_fails
    {radius width tolerance : Value}
    {x : Float}
    {w t : Number}
    (hRadius : radius.asNumber = .ok (.float x))
    (hWidth : width.asNumber = .ok w)
    (hTolerance : tolerance.asNumber = .ok t) :
    Fails Fault.IsOfPath (passDepths radius width tolerance) := by
  have hCount := passCount_fails hRadius hWidth hTolerance
  unfold passDepths
  refine Fails.bind hCount fun count => ?_
  rw [hRadius, Outcome.ok_bind]
  refine Fails.mono (Fails.mapM ?_) Fault.IsOverflow.isOfPath
  intro k _
  exact Number.combine_fails _ _ _

theorem Number.asNumber_toValue
    (n : Number) :
    n.toValue.asNumber = .ok n := by
  unfold Value.asNumber
  rw [number?_toValue]

/- Half of a number without fractions is a double. -/
theorem Number.halve_yields
    {a : Number}
    (hPlain : a.IsPlain) :
    Yields (fun c => ∃ x, c = .float x) (a.div (.int 2)) := by
  cases a with
  | ratio q => cases hPlain
  | int n =>
      intro c hHalf
      rcases Outcome.map_eq_ok_iff.mp hHalf with ⟨x, _, rfl⟩
      exact ⟨x, rfl⟩
  | float x =>
      unfold div
      dsimp only
      refine Yields.bind (Yields.any _) fun first _ => ?_
      refine Yields.bind (Yields.any _) fun second _ => ?_
      split
      · exact Yields.error _
      · exact Yields.ok ⟨_, rfl⟩

/- The geometry of plain numbers fails with the numbers of its passes. -/
theorem Geometry.ofJoint_fails
    {settings : Settings}
    {joint : Joint}
    {cutter stock offset tolerance : Number}
    (hCutter : joint.cutterDiameter.IsPlain cutter)
    (hStock : joint.stockThickness.IsPlain stock)
    (hOffset : joint.workOffsetX.IsPlain offset)
    (hTolerance : settings.depthTolerance.IsPlain tolerance) :
    Fails Fault.IsOfPath (Geometry.ofJoint settings joint) := by
  have hLess :
      ∀ {outcome : Outcome Number}, Fails Fault.IsOverflow outcome →
        Fails Fault.IsOfPath outcome :=
    fun hFails => hFails.mono Fault.IsOverflow.isOfPath
  unfold Geometry.ofJoint
  rw [hCutter.atMostZero_eq, hCutter.asNumber_eq, hStock.asNumber_eq,
    hOffset.asNumber_eq, Outcome.ok_bind]
  split
  · refine Fails.failed (Fails.ofPath ?_) _
    exact rfl
  · rw [Outcome.ok_bind]
    refine Fails.bind_of (hLess cutter.halve_fails) fun radius hRadius => ?_
    rcases Number.halve_yields (hCutter.asNumber hCutter.asNumber_eq)
      _ hRadius with ⟨x, rfl⟩
    rw [Outcome.ok_bind]
    refine Fails.bind (hLess stock.halve_fails) fun width => ?_
    refine Fails.bind (hLess (Number.combine_fails _ _ _)) fun travel => ?_
    rw [Outcome.ok_bind]
    refine Fails.bind (hLess (Number.combine_fails _ _ _)) fun shifted => ?_
    refine Fails.bind (hLess (Number.combine_fails _ _ _)) fun x1 => ?_
    refine Fails.bind (hLess (Number.combine_fails _ _ _)) fun x2 => ?_
    refine Fails.bind ?_ fun depths => Fails.ok _
    exact passDepths_fails (Number.asNumber_toValue _)
      (Number.asNumber_toValue _) hTolerance.asNumber_eq

/- A job of measures and doubles has a plan, or fails so. -/
theorem Joint.plan_fails
    {settings : Settings}
    {joint : Joint}
    (hMeasured : joint.IsMeasured)
    (hDoubles : settings.IsOfDoubles)
    (u : LengthUnit) :
    Fails Fault.IsOfPath (joint.plan settings u) := by
  rcases hDoubles.tolerance with ⟨x, hTolerance⟩
  unfold Joint.plan
  refine Fails.bind_of ?_ fun plain hConverted => ?_
  · exact (Joint.converted_fails u hMeasured).mono
      Fault.IsOverflow.isOfPath
  · rcases Joint.converted_spec hConverted with
      ⟨-, -, hStock, hCutter, hOffset, -⟩
    rcases convert_yields u hMeasured.cutter _ hCutter with
      ⟨cutter, hCutterPlain⟩
    rcases convert_yields u hMeasured.stock _ hStock with
      ⟨stock, hStockPlain⟩
    rcases convert_yields u hMeasured.offset _ hOffset with
      ⟨offset, hOffsetPlain⟩
    refine Fails.bind ?_ fun geometry => Fails.ok _
    apply Geometry.ofJoint_fails hCutterPlain hStockPlain hOffsetPlain
    rw [hTolerance]
    exact .float x

------------------------------------------------------------
-- Lines And Outlines
------------------------------------------------------------

theorem Line.ofValue_plain_fails
    (u : LengthUnit)
    {v : Value}
    {n : Number}
    (hPlain : v.IsPlain n) :
    Fails Fault.IsOfPath (ofValue u v) := by
  by_cases hStray : ∃ x, v = .float x ∧ Decimal.isFinite x = false
  · rcases hStray with ⟨x, rfl, hBeyond⟩
    rw [ofValue_float, hBeyond, if_neg Bool.false_ne_true]
    exact Fails.ofPath rfl
  · refine (ofValue_fails u hPlain ?_).mono ?_
    · rintro x rfl
      by_contra hBeyond
      exact hStray ⟨x, rfl, Bool.eq_false_iff.mpr hBeyond⟩
    · rintro fault rfl
      exact rfl

namespace Outline

mutual

/- An outline fails only as the line of one of the leaves does. -/
theorem entries_fails
    {claim : Fault → Prop}
    {u : LengthUnit} :
    ∀ (depth : Nat) (op : Operation),
      (∀ leaf ∈ op.leaves, Fails claim (Line.ofOperation u leaf)) →
        Fails claim (entries u depth op)
  | depth, .group ops, hLeaves => by
      rw [entries]
      refine Fails.bind (allEntries_fails (depth + 1) ops hLeaves) ?_
      intro rest
      exact Fails.ok _
  | depth, .instruction mnemonic args, hLeaves => by
      rw [entries]
      refine Fails.bind (hLeaves _ (List.mem_singleton_self _)) ?_
      intro line
      exact Fails.ok _
  | depth, .foreign name, hLeaves => by
      intro fault hFault
      cases hFault
      exact hLeaves _ (List.mem_singleton_self _) _ rfl
  | depth, .value v, hLeaves => by
      intro fault hFault
      cases hFault
      exact hLeaves _ (List.mem_singleton_self _) _ rfl

theorem allEntries_fails
    {claim : Fault → Prop}
    {u : LengthUnit} :
    ∀ (depth : Nat) (ops : List Operation),
      (∀ leaf ∈ Operation.allLeaves ops,
        Fails claim (Line.ofOperation u leaf)) →
        Fails claim (allEntries u depth ops)
  | depth, [], hLeaves => by
      rw [allEntries]
      exact Fails.ok _
  | depth, op :: rest, hLeaves => by
      rw [allEntries]
      refine Fails.bind (entries_fails depth op ?_) ?_
      · intro leaf hMem
        exact hLeaves leaf (List.mem_append_left _ hMem)
      · intro first
        refine Fails.bind (allEntries_fails depth rest ?_) ?_
        · intro leaf hMem
          exact hLeaves leaf (List.mem_append_right _ hMem)
        · intro others
          exact Fails.ok _

end

end Outline

namespace Plan

variable {plan : Plan}
variable {settings : Settings}

/- The lines of a plan of plain numbers fail so. -/
theorem plain_leaf_fails
    (hPlain : plan.IsPlain)
    (hDoubles : settings.IsOfDoubles)
    (u : LengthUnit)
    {ambient : Ambient}
    {leaf : Operation}
    (hMem : leaf ∈ (plan.program settings ambient).leaves) :
    Fails Fault.IsOfPath (Line.ofOperation u leaf) := by
  refine leaf_fails ?_ hMem
  intro v hIn
  rcases isPlain_number hPlain hDoubles hIn with ⟨n, hValue⟩
  exact Line.ofValue_plain_fails u hValue

theorem count_fails
    (hPlain : plan.IsPlain)
    (hDoubles : settings.IsOfDoubles)
    (u : LengthUnit)
    (ambient : Ambient) :
    Fails Fault.IsOfPath
      (Listing.ofProgram u (plan.program settings ambient)).count := by
  intro fault hCount
  unfold Listing.count at hCount
  cases hFault :
      (Listing.ofProgram u (plan.program settings ambient)).fault with
  | none =>
      rw [hFault] at hCount
      cases hCount
  | some cause =>
      rw [hFault] at hCount
      cases hCount
      refine Listing.fault_ofLeaves ?_ hFault
      intro leaf hMem
      exact plain_leaf_fails hPlain hDoubles u hMem

theorem outline_fails
    (hPlain : plan.IsPlain)
    (hDoubles : settings.IsOfDoubles)
    (u : LengthUnit)
    (indent : Text)
    (ambient : Ambient) :
    Fails Fault.IsOfPath
      (outline u indent (plan.program settings ambient)) := by
  refine Fails.bind ?_ fun entries => Fails.ok _
  refine Outline.entries_fails 0 _ ?_
  intro leaf hMem
  exact plain_leaf_fails hPlain hDoubles u hMem

end Plan

end Joinery
