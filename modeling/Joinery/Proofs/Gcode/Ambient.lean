import Joinery.Program.Instruction
import Joinery.Proofs.Gcode.Emission
import Joinery.Proofs.Gcode.Lengths
import Joinery.Proofs.Outcome

/-
  What the ambient state can change in the listing of a
  program: nothing but the numbers of its quantities. The
  positioning mode changes nothing. A program that holds no
  quantity has the same listing in every ambient state, and
  the quantities of a program may be converted beforehand,
  to the unit in which it is going to be compiled.

  Key definitions include:
    * `Value.plainIn`
    * `Operation.plainIn`
    * `Operation.AreUnmeasured`
    * `Listing.inAmbient`
    * `Listing.stoppedAt?`
    * `Listing.FailsAt`

  Key theorems include:
    * `Operation.allLeaves_plainIn`
    * `Line.ofOperation_plainIn`
    * `Listing.stoppedAt?_eq_some_iff`
    * `Listing.told_by_quantities`
-/

namespace Joinery

------------------------------------------------------------
-- Quantities Converted Beforehand
------------------------------------------------------------

namespace Value

/- A quantity of an integer or a double, in a unit of length. -/
def isLength : Value → Bool
  | .quantity name (.int _) => (LengthUnit.ofValue? name).isSome
  | .quantity name (.float _) => (LengthUnit.ofValue? name).isSome
  | _ => false

/- A value with a length converted to a unit; others are kept. -/
def plainIn
    (unit : LengthUnit)
    (v : Value) : Outcome Value :=
  if v.isLength then convert unit v (some (.unit unit)) else .ok v

theorem plainIn_of_isLength
    (unit : LengthUnit)
    {v : Value}
    (hLength : v.isLength = true) :
    v.plainIn unit = convert unit v none := by
  rw [plainIn, if_pos hLength]
  cases v <;> rfl

/- An argument with the lengths of its axes converted to a unit. -/
def axesPlainIn
    (unit : LengthUnit)
    (arg : Value) : Outcome Value :=
  match arg with
  | .dict entries => do
      return .dict (← entries.mapM fun e => do
        return (e.1, ← e.2.plainIn unit))
  | _ => .ok arg

/- The values that an argument gives to axes. -/
def axisValues : Value → List Value
  | .dict entries => entries.map (·.2)
  | _ => []

/- An amount with a unit, whatever the two are. -/
def IsQuantity
    (v : Value) : Prop :=
  ∃ name amount, v = .quantity name amount

end Value

namespace Operation

mutual

/- An operation with the lengths of all axes converted to a unit. -/
def plainIn
    (unit : LengthUnit) : Operation → Outcome Operation
  | .instruction mnemonic args => do
      return .instruction mnemonic (← args.mapM (Value.axesPlainIn unit))
  | .group ops => do return .group (← allPlainIn unit ops)
  | .foreign name => .ok (.foreign name)
  | .value v => .ok (.value v)

/- Operations with the lengths of all axes converted to a unit. -/
def allPlainIn
    (unit : LengthUnit) : List Operation → Outcome (List Operation)
  | [] => .ok []
  | op :: rest => do
      let first ← op.plainIn unit
      return first :: (← allPlainIn unit rest)

end

/- The values that an instruction gives to axes. -/
def axisValues : Operation → List Value
  | .instruction _ args => args.flatMap Value.axisValues
  | _ => []

/- No leaf of the operations gives a quantity to an axis. -/
def AreUnmeasured
    (ops : List Operation) : Prop :=
  ∀ leaf ∈ allLeaves ops, ∀ v ∈ leaf.axisValues, ¬ v.IsQuantity

mutual

/- Converting the lengths of a program converts them leaf by leaf. -/
theorem leaves_plainIn
    (unit : LengthUnit)
    {op plain : Operation}
    (hPlain : op.plainIn unit = .ok plain) :
    List.Forall₂ (fun leaf other => leaf.plainIn unit = .ok other)
      op.leaves plain.leaves := by
  cases op with
  | group ops =>
      rw [plainIn, Outcome.bind_eq_ok_iff] at hPlain
      rcases hPlain with ⟨others, hOthers, hSame⟩
      cases hSame
      rw [leaves_group, leaves_group]
      exact allLeaves_plainIn unit hOthers
  | instruction mnemonic args =>
      have hOpen := hPlain
      rw [plainIn, Outcome.bind_eq_ok_iff] at hOpen
      rcases hOpen with ⟨others, -, hSame⟩
      cases hSame
      rw [leaves_of_isLeaf (by rintro ops ⟨⟩),
        leaves_of_isLeaf (by rintro ops ⟨⟩)]
      exact .cons hPlain .nil
  | foreign name =>
      cases hPlain
      rw [leaves_of_isLeaf (by rintro ops ⟨⟩)]
      exact .cons rfl .nil
  | value v =>
      cases hPlain
      rw [leaves_of_isLeaf (by rintro ops ⟨⟩)]
      exact .cons rfl .nil

theorem allLeaves_plainIn
    (unit : LengthUnit)
    {ops plain : List Operation}
    (hPlain : allPlainIn unit ops = .ok plain) :
    List.Forall₂ (fun leaf other => leaf.plainIn unit = .ok other)
      (allLeaves ops) (allLeaves plain) := by
  cases ops with
  | nil =>
      cases hPlain
      rw [allLeaves_nil]
      exact .nil
  | cons op rest =>
      rw [allPlainIn, Outcome.bind_eq_ok_iff] at hPlain
      rcases hPlain with ⟨first, hFirst, hRest⟩
      rw [Outcome.bind_eq_ok_iff] at hRest
      rcases hRest with ⟨others, hOthers, hSame⟩
      cases hSame
      rw [allLeaves_cons, allLeaves_cons]
      exact List.rel_append (leaves_plainIn unit hFirst)
        (allLeaves_plainIn unit hOthers)

end

end Operation

------------------------------------------------------------
-- Lines
------------------------------------------------------------

namespace Line

/- A length is converted to an integer or a double. -/
theorem exists_isPlain_of_convert
    {unit : LengthUnit}
    {v r : Value}
    (hLength : v.isLength = true)
    (hConvert : convert unit v none = .ok r) :
    (∃ name amount, v = .quantity name amount) ∧ ∃ n, r.IsPlain n := by
  have hKind :
      ∃ name amount n u, v = .quantity name amount ∧ amount.IsPlain n ∧
        LengthUnit.ofValue? name = some u := by
    unfold Value.isLength at hLength
    split at hLength
    · rcases Option.isSome_iff_exists.mp hLength with ⟨u, hUnit⟩
      exact ⟨_, _, _, u, rfl, .int _, hUnit⟩
    · rcases Option.isSome_iff_exists.mp hLength with ⟨u, hUnit⟩
      exact ⟨_, _, _, u, rfl, .float _, hUnit⟩
    · cases hLength
  rcases hKind with ⟨name, amount, n, u, rfl, hPlain, hUnit⟩
  refine ⟨⟨name, amount, rfl⟩, ?_⟩
  by_cases hSame : u = unit
  · rw [convert_same (hSame ▸ hUnit)] at hConvert
    cases hConvert
    exact ⟨n, hPlain⟩
  · cases unit with
    | millimeter =>
        cases u with
        | millimeter => exact absurd rfl hSame
        | inch =>
            rw [convert_inch hUnit hPlain.number?,
              Outcome.map_eq_ok_iff] at hConvert
            rcases hConvert with ⟨x, -, rfl⟩
            exact ⟨_, .float _⟩
    | inch =>
        cases u with
        | millimeter =>
            rw [convert_millimeter hUnit hPlain.number?,
              Outcome.map_eq_ok_iff] at hConvert
            rcases hConvert with ⟨x, -, rfl⟩
            exact ⟨_, .float _⟩
        | inch => exact absurd rfl hSame

/- A length has the numeral of the number that it is converted to. -/
theorem ofValue_plainIn
    {unit : LengthUnit}
    {v plain : Value}
    (hPlain : v.plainIn unit = .ok plain) :
    Outcome.Agree (ofValue unit v) (ofValue unit plain) := by
  by_cases hLength : v.isLength = true
  · rw [Value.plainIn_of_isLength unit hLength] at hPlain
    rcases exists_isPlain_of_convert hLength hPlain with
      ⟨⟨name, amount, rfl⟩, n, hNumber⟩
    exact fun s => ofValue_converted hPlain hNumber
  · rw [Value.plainIn, if_neg hLength] at hPlain
    cases hPlain
    exact .refl _

theorem ofArgument_plainIn
    {unit : LengthUnit}
    {arg plain : Value}
    (hPlain : arg.axesPlainIn unit = .ok plain) :
    Outcome.Agree (ofArgument unit arg) (ofArgument unit plain) := by
  unfold Value.axesPlainIn at hPlain
  split at hPlain
  · rename_i entries
    rw [Outcome.bind_eq_ok_iff] at hPlain
    rcases hPlain with ⟨others, hOthers, hSame⟩
    cases hSame
    have hWords :
        Outcome.Agree (entries.mapM fun e => word unit e.1 e.2)
          (others.mapM fun e => word unit e.1 e.2) := by
      refine .mapM ((Outcome.forall₂_of_mapM hOthers).imp ?_)
      intro e other hEntry
      rw [Outcome.bind_eq_ok_iff] at hEntry
      rcases hEntry with ⟨v, hValue, hSame⟩
      cases hSame
      exact (Outcome.Agree.refl (keyword e.1)).bind fun key =>
        (ofValue_plainIn hValue).bind fun numeral => .refl _
    exact hWords.bind fun words => .refl _
  · cases hPlain
    exact .refl _

/- A leaf has the line that it has with its lengths converted. -/
theorem ofOperation_plainIn
    {unit : LengthUnit}
    {op plain : Operation}
    (hPlain : op.plainIn unit = .ok plain) :
    Outcome.Agree (ofOperation unit op) (ofOperation unit plain) := by
  cases op with
  | instruction mnemonic args =>
      rw [Operation.plainIn, Outcome.bind_eq_ok_iff] at hPlain
      rcases hPlain with ⟨others, hOthers, hSame⟩
      cases hSame
      have hArgs :
          Outcome.Agree (args.mapM (ofArgument unit))
            (others.mapM (ofArgument unit)) :=
        .mapM ((Outcome.forall₂_of_mapM hOthers).imp fun _ _ hArg =>
          ofArgument_plainIn hArg)
      exact (Outcome.Agree.refl (keyword mnemonic)).bind fun head =>
        hArgs.bind fun rest => .refl _
  | group ops =>
      rw [Operation.plainIn, Outcome.bind_eq_ok_iff] at hPlain
      rcases hPlain with ⟨others, -, hSame⟩
      cases hSame
      exact .refl _
  | foreign name =>
      cases hPlain
      exact .refl _
  | value v =>
      cases hPlain
      exact .refl _

/- A value that is no quantity has one numeral in all units. -/
theorem ofValue_of_not_isQuantity
    {v : Value}
    (hOther : ¬ v.IsQuantity)
    (unit other : LengthUnit) :
    ofValue unit v = ofValue other v := by
  have hResolve : ∀ u, resolve u v = .ok v := by
    intro u
    unfold resolve
    split
    · rename_i name amount
      exact absurd ⟨name, amount, rfl⟩ hOther
    · rfl
  rw [ofValue, ofValue, hResolve, hResolve]

theorem ofArgument_of_not_isQuantity
    {arg : Value}
    (hOther : ∀ v ∈ arg.axisValues, ¬ v.IsQuantity)
    (unit other : LengthUnit) :
    ofArgument unit arg = ofArgument other arg := by
  unfold ofArgument
  split
  · rename_i entries
    have hWords :
        entries.mapM (fun e => word unit e.1 e.2) =
          entries.mapM (fun e => word other e.1 e.2) := by
      refine Outcome.mapM_congr ?_
      intro e hMem
      have hValue := ofValue_of_not_isQuantity
        (hOther e.2 (List.mem_map_of_mem hMem)) unit other
      rw [word, word, hValue]
    rw [hWords]
  · rfl
  · rfl

/- A leaf without quantities has one line in all units. -/
theorem ofOperation_of_not_isQuantity
    {op : Operation}
    (hOther : ∀ v ∈ op.axisValues, ¬ v.IsQuantity)
    (unit other : LengthUnit) :
    ofOperation unit op = ofOperation other op := by
  cases op with
  | instruction mnemonic args =>
      have hArgs :
          args.mapM (ofArgument unit) = args.mapM (ofArgument other) := by
        refine Outcome.mapM_congr ?_
        intro arg hMem
        refine ofArgument_of_not_isQuantity ?_ unit other
        intro v hAxis
        exact hOther v (List.mem_flatMap.mpr ⟨arg, hMem, hAxis⟩)
      rw [ofOperation, ofOperation, ofInstruction, ofInstruction, hArgs]
  | group ops => rfl
  | foreign name => rfl
  | value v => rfl

end Line

------------------------------------------------------------
-- Listings
------------------------------------------------------------

namespace Listing

/- The listing of a program that is compiled in an ambient state. -/
def inAmbient
    (ambient : Ambient)
    (ops : List Operation) : Listing :=
  ofProgram ambient.unit (.group ops)

/- The place of the leaf that has no line, if there is one. -/
def stoppedAt?
    (listing : Listing) : Option Nat :=
  listing.fault.map fun _ => listing.lines.length

/- The leaf at a place has no line, and all leaves before it have one. -/
def FailsAt
    (unit : LengthUnit)
    (leaves : List Operation)
    (place : Nat) : Prop :=
  (∃ leaf fault, leaves[place]? = some leaf ∧
    Line.Refuses unit leaf fault) ∧
    ∀ leaf ∈ leaves.take place, ∃ line, Line.Gives unit leaf line

theorem ofLeaves_cons_ok
    {unit : LengthUnit}
    {leaf : Operation}
    {line : Text}
    (hLine : Line.ofOperation unit leaf = .ok line)
    (rest : List Operation) :
    ofLeaves unit (leaf :: rest) =
      ⟨line :: (ofLeaves unit rest).lines, (ofLeaves unit rest).fault⟩ := by
  rw [ofLeaves, hLine]

theorem ofLeaves_cons_error
    {unit : LengthUnit}
    {leaf : Operation}
    {fault : Fault}
    (hFault : Line.ofOperation unit leaf = .error fault)
    (rest : List Operation) :
    ofLeaves unit (leaf :: rest) = ⟨[], some fault⟩ := by
  rw [ofLeaves, hFault]

/- Behind a leaf that has a line, a listing stops where the rest does. -/
theorem stoppedAt?_cons_ok
    {unit : LengthUnit}
    {leaf : Operation}
    {line : Text}
    (hLine : Line.ofOperation unit leaf = .ok line)
    (rest : List Operation) :
    (ofLeaves unit (leaf :: rest)).stoppedAt? =
      (ofLeaves unit rest).stoppedAt?.map (· + 1) := by
  rw [ofLeaves_cons_ok hLine]
  unfold stoppedAt?
  cases (ofLeaves unit rest).fault <;> rfl

/- A listing stops at the first leaf that has no line. -/
theorem stoppedAt?_eq_some_iff
    (unit : LengthUnit)
    {leaves : List Operation}
    (hLeaves : ∀ leaf ∈ leaves, leaf.IsLeaf)
    (place : Nat) :
    (ofLeaves unit leaves).stoppedAt? = some place ↔
      FailsAt unit leaves place := by
  induction leaves generalizing place with
  | nil => simp [ofLeaves, stoppedAt?, FailsAt]
  | cons leaf rest ih =>
      have hLeaf := hLeaves leaf (List.mem_cons_self ..)
      have hRest := ih fun other hMem =>
        hLeaves other (List.mem_cons_of_mem _ hMem)
      cases hLine : Line.ofOperation unit leaf with
      | error fault =>
          have hRefuses := (Line.refuses_iff unit hLeaf fault).mpr hLine
          rw [ofLeaves_cons_error hLine]
          constructor
          · intro hStop
            cases hStop
            exact ⟨⟨leaf, fault, rfl, hRefuses⟩, fun _ hMem => by cases hMem⟩
          · rintro ⟨-, hBefore⟩
            cases place with
            | zero => rfl
            | succ place =>
                rcases hBefore leaf (List.mem_cons_self ..) with
                  ⟨line, hGives⟩
                rw [Line.gives_iff, hLine] at hGives
                cases hGives
      | ok line =>
          have hGives := (Line.gives_iff unit leaf line).mpr hLine
          rw [stoppedAt?_cons_ok hLine]
          cases place with
          | zero =>
              refine iff_of_false (by simp) ?_
              rintro ⟨⟨other, fault, hFirst, hRefuses⟩, -⟩
              cases hFirst
              rw [Line.refuses_iff unit hLeaf, hLine] at hRefuses
              cases hRefuses
          | succ place =>
              have hShift :
                  (ofLeaves unit rest).stoppedAt?.map (· + 1) =
                      some (place + 1) ↔
                    (ofLeaves unit rest).stoppedAt? = some place := by
                simp
              rw [hShift, hRest place]
              unfold FailsAt
              rw [List.getElem?_cons_succ, List.take_succ_cons,
                List.forall_mem_cons]
              exact and_congr_right fun _ =>
                (and_iff_right ⟨line, hGives⟩).symm

/- Leaves that agree one by one give the same lines and stop at one place. -/
theorem ofLeaves_agree
    {unit : LengthUnit}
    {leaves others : List Operation}
    (hLeaves :
      List.Forall₂
        (fun leaf other =>
          Outcome.Agree (Line.ofOperation unit leaf)
            (Line.ofOperation unit other))
        leaves others) :
    (ofLeaves unit others).lines = (ofLeaves unit leaves).lines ∧
      (ofLeaves unit others).stoppedAt? =
        (ofLeaves unit leaves).stoppedAt? := by
  induction hLeaves with
  | nil => exact ⟨rfl, rfl⟩
  | cons hFirst _ ih =>
      rename_i leaf other leaves others _
      cases hLine : Line.ofOperation unit leaf with
      | ok line =>
          have hOther := (hFirst line).mp hLine
          rcases ih with ⟨hLines, hStop⟩
          rw [stoppedAt?_cons_ok hLine, stoppedAt?_cons_ok hOther, hStop,
            ofLeaves_cons_ok hLine, ofLeaves_cons_ok hOther]
          exact ⟨congrArg (line :: ·) hLines, rfl⟩
      | error fault =>
          rcases hFirst.error_iff.mp ⟨fault, hLine⟩ with ⟨cause, hOther⟩
          rw [ofLeaves_cons_error hLine, ofLeaves_cons_error hOther]
          exact ⟨rfl, rfl⟩

/- Leaves with one line in two units have one listing in both. -/
theorem ofLeaves_congr
    {unit other : LengthUnit}
    {leaves : List Operation}
    (hLeaves :
      ∀ leaf ∈ leaves,
        Line.ofOperation unit leaf = Line.ofOperation other leaf) :
    ofLeaves unit leaves = ofLeaves other leaves := by
  induction leaves with
  | nil => rfl
  | cons leaf rest ih =>
      rw [ofLeaves, ofLeaves, hLeaves leaf (List.mem_cons_self ..),
        ih fun later hMem => hLeaves later (List.mem_cons_of_mem _ hMem)]

/-
  The ambient state decides on the numbers of the quantities
  of a program, and on nothing else. The positioning mode
  changes nothing. Without quantities the unit changes
  nothing either. Where all quantities of integers and
  doubles in units of length can be converted to the unit of
  the ambient state, converting them beforehand gives the same
  lines, and the same leaf, if any, is the first without one.
-/
theorem told_by_quantities
    (ops : List Operation) :
    (∀ unit mode other,
      inAmbient ⟨unit, mode⟩ ops = inAmbient ⟨unit, other⟩ ops) ∧
    (Operation.AreUnmeasured ops →
      ∀ ambient other, inAmbient ambient ops = inAmbient other ops) ∧
    (∀ ambient plain,
      Operation.allPlainIn ambient.unit ops = .ok plain →
        (inAmbient ambient plain).lines = (inAmbient ambient ops).lines ∧
        (inAmbient ambient plain).stoppedAt? =
          (inAmbient ambient ops).stoppedAt?) ∧
    (∀ ambient place,
      (inAmbient ambient ops).stoppedAt? = some place ↔
        FailsAt ambient.unit (Operation.allLeaves ops) place) := by
  refine ⟨fun unit mode other => rfl, ?_, ?_, ?_⟩
  · intro hOther ambient other
    refine ofLeaves_congr fun leaf hMem => ?_
    exact Line.ofOperation_of_not_isQuantity (hOther leaf hMem)
      ambient.unit other.unit
  · intro ambient plain hPlain
    have hLeaves := Operation.allLeaves_plainIn ambient.unit hPlain
    exact ofLeaves_agree
      (hLeaves.imp fun _ _ hLeaf => Line.ofOperation_plainIn hLeaf)
  · intro ambient place
    exact stoppedAt?_eq_some_iff ambient.unit
      (fun leaf hMem => Operation.isLeaf_of_mem_allLeaves ops hMem) place

/- A program in two units that stops at a feed that is no number. -/
def mixedCut : List Operation :=
  [ Instruction.rapid [("x", .inch (.int 1)), ("y", .int 5)],
    .group
      [ Instruction.move
          [("x", .mm (.float 12.7)), ("f", .text "fast")] ] ]

/- The same program in plain numbers of inches. -/
def plainCut : List Operation :=
  [ Instruction.rapid [("x", .int 1), ("y", .int 5)],
    .group
      [ Instruction.move
          [("x", .float 0.5), ("f", .text "fast")] ] ]

theorem plainCut_areUnmeasured :
    Operation.AreUnmeasured plainCut := by
  unfold Operation.AreUnmeasured
  simp [plainCut, Operation.allLeaves, Operation.leaves,
    Operation.axisValues, Value.axisValues, Value.IsQuantity,
    Instruction.rapid, Instruction.move, Instruction.known,
    Named.toEntries]

/- Both stop behind the first line, which is the same, in inches. -/
theorem mixedCut_told_in_inches :
    Operation.allPlainIn .inch mixedCut = .ok plainCut ∧
      (inAmbient ⟨.inch, .relative⟩ plainCut).lines =
        (inAmbient ⟨.inch, .absolute⟩ mixedCut).lines ∧
      (inAmbient ⟨.inch, .relative⟩ plainCut).stoppedAt? = some 1 ∧
      inAmbient ⟨.millimeter, .relative⟩ plainCut =
        inAmbient ⟨.inch, .relative⟩ plainCut := by
  have hSame : (Value.inch (.int 1)).plainIn .inch = .ok (.int 1) :=
    (Value.plainIn_of_isLength .inch rfl).trans (convert_same rfl)
  have hQuotient : (12.7 : Float) / 25.4 = 0.5 := by decide +kernel
  have hHalf :
      (Value.mm (.float 12.7)).plainIn .inch = .ok (.float 0.5) := by
    rw [Value.plainIn_of_isLength .inch rfl, Value.mm,
      convert_millimeter rfl rfl, Number.toDouble, Except.map, hQuotient]
  have hKept :
      (Value.int 5).plainIn .inch = .ok (.int 5) ∧
        (Value.text "fast").plainIn .inch = .ok (.text "fast") :=
    ⟨rfl, rfl⟩
  have hPlain : Operation.allPlainIn .inch mixedCut = .ok plainCut := by
    simp [mixedCut, plainCut, Instruction.rapid, Instruction.move,
      Instruction.known, Named.toEntries, Operation.allPlainIn,
      Operation.plainIn, Value.axesPlainIn, hSame, hHalf, hKept]
  have hMixed := told_by_quantities mixedCut
  have hOther := told_by_quantities plainCut
  have hTold := hMixed.2.2.1 ⟨.inch, .relative⟩ plainCut hPlain
  refine ⟨hPlain, ?_, ?_, hOther.2.1 plainCut_areUnmeasured _ _⟩
  · rw [hMixed.1 .inch .absolute .relative]
    exact hTold.1
  · rw [hTold.2]
    decide +kernel

end Listing

end Joinery
