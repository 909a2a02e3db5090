import Mathlib.Data.List.Forall2
import Joinery.Gcode.Listing
import Joinery.Proofs.Program.Leaves
import Joinery.Proofs.Text.Letters

/-
  Writing a program out operation by operation gives what
  its listing says, whether it ends well or at a leaf that
  has no line.

  Key definitions include:
    * `Line.Refuses`
    * `Listing.StopsAt`
    * `Emission`
    * `Emission.Runs`

  Key theorems include:
    * `Listing.ofLeaves_spec`
    * `Emission.runs_iff`
    * `Listing.compiled_in_walk_order`
-/

namespace Joinery

------------------------------------------------------------
-- Lines Of Leaves
------------------------------------------------------------

namespace Line

/- The line that an operation gives, which must be an instruction. -/
def Gives
    (unit : LengthUnit)
    (op : Operation)
    (line : Text) : Prop :=
  ∃ mnemonic args, op = .instruction mnemonic args ∧
    ofInstruction unit mnemonic args = .ok line

/-
  The fault of an operation without a line: that of an
  instruction, or that nothing else can be compiled.
-/
inductive Refuses
    (unit : LengthUnit) : Operation → Fault → Prop
  | instruction
      {mnemonic : Value}
      {args : List Value}
      {fault : Fault}
      (hFault : ofInstruction unit mnemonic args = .error fault) :
      Refuses unit (.instruction mnemonic args) fault
  | foreign
      (name : String) :
      Refuses unit (.foreign name) (.unsupportedOperation name)
  | value
      (v : Value) :
      Refuses unit (.value v) (.unsupportedOperation v.kind)

theorem gives_iff
    (unit : LengthUnit)
    (op : Operation)
    (line : Text) :
    Gives unit op line ↔ ofOperation unit op = .ok line := by
  constructor
  · rintro ⟨mnemonic, args, rfl, hLine⟩
    exact hLine
  · intro hLine
    cases op with
    | instruction mnemonic args => exact ⟨mnemonic, args, rfl, hLine⟩
    | group ops => cases hLine
    | foreign name => cases hLine
    | value v => cases hLine

theorem refuses_iff
    (unit : LengthUnit)
    {op : Operation}
    (hLeaf : op.IsLeaf)
    (fault : Fault) :
    Refuses unit op fault ↔ ofOperation unit op = .error fault := by
  constructor
  · intro hRefuses
    cases hRefuses with
    | instruction hFault => exact hFault
    | foreign name => rfl
    | value v => rfl
  · intro hFault
    cases op with
    | instruction mnemonic args => exact .instruction hFault
    | group ops => exact absurd rfl (hLeaf ops)
    | foreign name =>
        cases hFault
        exact .foreign name
    | value v =>
        cases hFault
        exact .value v

/- What is no instruction is refused as a program that cannot be compiled. -/
theorem Refuses.family
    {unit : LengthUnit}
    {op : Operation}
    {fault : Fault}
    (hRefuses : Refuses unit op fault)
    (hOther : ∀ mnemonic args, op ≠ .instruction mnemonic args) :
    fault = .unsupportedOperation op.kind ∧ fault.family = .compile := by
  cases hRefuses with
  | instruction hFault => exact absurd rfl (hOther _ _)
  | foreign name => exact ⟨rfl, rfl⟩
  | value v => exact ⟨rfl, rfl⟩

end Line

------------------------------------------------------------
-- Listings Of Leaves
------------------------------------------------------------

namespace Listing

/-
  Where a listing stops: behind the last leaf, or at the
  first leaf that has no line.
-/
def StopsAt
    (unit : LengthUnit)
    (rest : List Operation)
    (fault : Option Fault) : Prop :=
  match rest with
  | [] => fault = none
  | leaf :: _ => ∃ cause, fault = some cause ∧ Line.Refuses unit leaf cause

/- The lines are those of the first leaves, up to one that has none. -/
theorem ofLeaves_spec
    (unit : LengthUnit)
    (leaves : List Operation)
    (hLeaves : ∀ leaf ∈ leaves, leaf.IsLeaf) :
    ∃ done rest, leaves = done ++ rest ∧
      List.Forall₂ (Line.Gives unit) done (ofLeaves unit leaves).lines ∧
      StopsAt unit rest (ofLeaves unit leaves).fault := by
  induction leaves with
  | nil => exact ⟨[], [], rfl, .nil, rfl⟩
  | cons leaf leaves ih =>
      have hLeaf := hLeaves leaf (List.mem_cons_self ..)
      cases hLine : Line.ofOperation unit leaf with
      | error fault =>
          refine ⟨[], leaf :: leaves, rfl, ?_, ?_⟩
          · simp [ofLeaves, hLine]
          · exact ⟨fault, by simp [ofLeaves, hLine],
              (Line.refuses_iff unit hLeaf fault).mpr hLine⟩
      | ok line =>
          rcases ih (fun other hOther =>
              hLeaves other (List.mem_cons_of_mem _ hOther)) with
            ⟨done, rest, hSplit, hLines, hStop⟩
          refine ⟨leaf :: done, rest, ?_, ?_, ?_⟩
          · rw [hSplit, List.cons_append]
          · simp only [ofLeaves, hLine]
            exact .cons ((Line.gives_iff unit leaf line).mpr hLine) hLines
          · simpa only [ofLeaves, hLine] using hStop

@[simp] theorem ofProgram_group
    (unit : LengthUnit)
    (ops : List Operation) :
    ofProgram unit (.group ops) = ofLeaves unit (Operation.allLeaves ops) :=
  rfl

/- The text of a listing is its lines, a line end behind each. -/
theorem letters_text
    (listing : Listing) :
    listing.text.letters =
      listing.lines.flatMap fun line => line.letters ++ [.char '\n'] := by
  rw [text, Text.letters_join, List.flatMap_map]
  simp

theorem text_cons
    (line : Text)
    (lines : List Text)
    (fault : Option Fault) :
    (Listing.mk (line :: lines) fault).text =
      (line ++ "\n") ++ (Listing.mk lines fault).text := by
  rw [text, List.map_cons, Text.join_cons]
  rfl

end Listing

------------------------------------------------------------
-- Writing A Program Out
------------------------------------------------------------

/-
  A program that is being written out: the operations still
  to come, the text written so far, and the count of lines.
-/
structure Emission where
  pending : List Operation
  written : Text := { }
  count : Nat := 0

namespace Emission

/-
  A run of an emission: what has been written when it ends,
  and whether it ends with a count or a fault. A group is
  opened where it is met; a leaf is compiled and its line
  written before the next operation is looked at.
-/
inductive Runs
    (unit : LengthUnit) : Emission → Text → Outcome Nat → Prop
  | finishes
      {written : Text}
      {count : Nat} :
      Runs unit ⟨[], written, count⟩ written (.ok count)
  | stops
      {leaf : Operation}
      {rest : List Operation}
      {written : Text}
      {count : Nat}
      {fault : Fault}
      (hRefuses : Line.Refuses unit leaf fault) :
      Runs unit ⟨leaf :: rest, written, count⟩ written (.error fault)
  | opens
      {ops rest : List Operation}
      {written final : Text}
      {count : Nat}
      {result : Outcome Nat}
      (hRuns : Runs unit ⟨ops ++ rest, written, count⟩ final result) :
      Runs unit ⟨.group ops :: rest, written, count⟩ final result
  | writes
      {leaf : Operation}
      {rest : List Operation}
      {line written final : Text}
      {count : Nat}
      {result : Outcome Nat}
      (hGives : Line.Gives unit leaf line)
      (hRuns :
        Runs unit ⟨rest, written ++ (line ++ "\n"), count + 1⟩
          final result) :
      Runs unit ⟨leaf :: rest, written, count⟩ final result

/- The listing of what is still to come. -/
def ahead
    (unit : LengthUnit)
    (state : Emission) : Listing :=
  Listing.ofLeaves unit (Operation.allLeaves state.pending)

/- What a listing adds to a count of lines. -/
def total
    (count : Nat)
    (listing : Listing) : Outcome Nat :=
  listing.count.map (count + ·)

/- A run writes the listing of what was to come, and counts it. -/
theorem Runs.final_eq
    {unit : LengthUnit}
    {state : Emission}
    {final : Text}
    {result : Outcome Nat}
    (hRuns : Runs unit state final result) :
    final = state.written ++ (state.ahead unit).text ∧
      result = total state.count (state.ahead unit) := by
  induction hRuns with
  | finishes =>
      refine ⟨?_, rfl⟩
      exact (Text.append_empty _).symm
  | stops hRefuses =>
      rename_i leaf rest written count fault
      have hLeaf : leaf.IsLeaf := by
        intro ops hGroup
        subst hGroup
        cases hRefuses
      have hLine := (Line.refuses_iff unit hLeaf fault).mp hRefuses
      have hAhead :
          ahead unit ⟨leaf :: rest, written, count⟩ =
            ⟨[], some fault⟩ := by
        simp [ahead, Operation.leaves_of_isLeaf hLeaf,
          Listing.ofLeaves, hLine]
      rw [hAhead]
      exact ⟨(Text.append_empty _).symm, rfl⟩
  | opens _ ih =>
      simpa [ahead] using ih
  | writes hGives _ ih =>
      rename_i leaf rest line written final count result _
      have hLine := (Line.gives_iff unit leaf line).mp hGives
      have hLeaf : leaf.IsLeaf := by
        intro ops hGroup
        subst hGroup
        cases hLine
      have hAhead :
          ahead unit ⟨leaf :: rest, written, count⟩ =
            ⟨line :: (Listing.ofLeaves unit
                (Operation.allLeaves rest)).lines,
              (Listing.ofLeaves unit
                (Operation.allLeaves rest)).fault⟩ := by
        simp [ahead, Operation.leaves_of_isLeaf hLeaf,
          Listing.ofLeaves, hLine]
      rw [hAhead, Listing.text_cons]
      refine ⟨?_, ?_⟩
      · rw [ih.1]
        exact Text.append_assoc written (line ++ "\n") _
      · rw [ih.2]
        simp only [ahead, total, Listing.count]
        split <;> simp [Except.map]
        omega

mutual

/- An operation can be written out if what follows it can. -/
theorem exists_runs_cons
    (unit : LengthUnit)
    (op : Operation)
    (rest : List Operation)
    (written : Text)
    (count : Nat)
    (hRest :
      ∀ written count, ∃ final result,
        Runs unit ⟨rest, written, count⟩ final result) :
    ∃ final result, Runs unit ⟨op :: rest, written, count⟩ final result := by
  rcases op.isLeaf_or_group with hLeaf | ⟨ops, rfl⟩
  · cases hLine : Line.ofOperation unit op with
    | ok line =>
        rcases hRest (written ++ (line ++ "\n")) (count + 1) with
          ⟨final, result, hRuns⟩
        exact ⟨final, result,
          .writes ((Line.gives_iff unit op line).mpr hLine) hRuns⟩
    | error fault =>
        exact ⟨written, .error fault,
          .stops ((Line.refuses_iff unit hLeaf fault).mpr hLine)⟩
  · rcases exists_runs_append unit ops rest written count hRest with
      ⟨final, result, hRuns⟩
    exact ⟨final, result, .opens hRuns⟩

/- Operations can be written out if what follows them can. -/
theorem exists_runs_append
    (unit : LengthUnit)
    (ops rest : List Operation)
    (written : Text)
    (count : Nat)
    (hRest :
      ∀ written count, ∃ final result,
        Runs unit ⟨rest, written, count⟩ final result) :
    ∃ final result, Runs unit ⟨ops ++ rest, written, count⟩ final result := by
  cases ops with
  | nil => exact hRest written count
  | cons op ops =>
      exact exists_runs_cons unit op (ops ++ rest) written count
        fun written count =>
          exists_runs_append unit ops rest written count hRest

end

/- A program has exactly one run: its listing, written and counted. -/
theorem runs_iff
    (unit : LengthUnit)
    (ops : List Operation)
    (final : Text)
    (result : Outcome Nat) :
    Runs unit { pending := [.group ops] } final result ↔
      final = (Listing.ofProgram unit (.group ops)).text ∧
        result = (Listing.ofProgram unit (.group ops)).count := by
  have hEnd :
      ∀ {final result},
        Runs unit { pending := [.group ops] } final result →
          final = (Listing.ofProgram unit (.group ops)).text ∧
            result = (Listing.ofProgram unit (.group ops)).count := by
    intro final result hRuns
    rcases hRuns.final_eq with ⟨hFinal, hResult⟩
    rw [Text.empty_append] at hFinal
    simp only [ahead, Operation.allLeaves_cons, Operation.leaves_group,
      Operation.allLeaves_nil, List.append_nil] at hFinal hResult
    refine ⟨hFinal, hResult.trans ?_⟩
    simp only [total, Listing.ofProgram_group, Listing.count]
    split <;> simp [Except.map]
  constructor
  · exact hEnd
  · rintro ⟨hFinal, hResult⟩
    have hDone :
        ∀ written count, ∃ final result,
          Runs unit ⟨[], written, count⟩ final result :=
      fun written count => ⟨written, .ok count, .finishes⟩
    rcases exists_runs_cons unit (.group ops) [] { } 0 hDone with
      ⟨text, outcome, hRuns⟩
    rcases hEnd hRuns with ⟨hText, hOutcome⟩
    rw [hFinal, hResult, ← hText, ← hOutcome]
    exact hRuns

end Emission

------------------------------------------------------------
-- Compiling, Writing And Rendering
------------------------------------------------------------

namespace Listing

/- The result of something that a fault may have stopped. -/
def ending
    {α : Type}
    (fault : Option Fault)
    (result : α) : Outcome α :=
  match fault with
  | none => .ok result
  | some cause => .error cause

/- A listing that stopped nowhere has a line for every leaf. -/
theorem count_eq_ending
    {unit : LengthUnit}
    {done rest : List Operation}
    {listing : Listing}
    (hLines : List.Forall₂ (Line.Gives unit) done listing.lines)
    (hStop : StopsAt unit rest listing.fault) :
    listing.count = ending listing.fault (done ++ rest).length := by
  rcases listing with ⟨lines, fault⟩
  cases rest with
  | nil =>
      have hFault : fault = none := hStop
      subst hFault
      rw [List.append_nil, hLines.length_eq]
      rfl
  | cons leaf rest =>
      rcases hStop with ⟨cause, hFault, -⟩
      have hCause : fault = some cause := hFault
      subst hCause
      rfl

theorem render_eq_ending
    (unit : LengthUnit)
    (op : Operation) :
    render unit op =
      ending (ofProgram unit op).fault (ofProgram unit op).text := by
  unfold render
  generalize ofProgram unit op = listing
  rcases listing with ⟨lines, fault⟩
  cases fault with
  | none => rfl
  | some cause => rfl

/-
  The lines of a program are those of its leaves in walk
  order, up to the first leaf that has none, and that leaf's
  fault ends the program. The text of its listing is these
  lines, and its count is that of the leaves, or the fault.
  Writing it out operation by operation leaves the same text
  and count, and rendering gives the same text or the same
  fault. Only the leaves matter, not how they are grouped.
-/
theorem compiled_in_walk_order
    (unit : LengthUnit)
    (ops : List Operation) :
    (∃ done rest text,
      (Operation.group ops).InWalkOrder (done ++ rest) ∧
      List.Forall₂ (Line.Gives unit) done
        (ofProgram unit (.group ops)).lines ∧
      StopsAt unit rest (ofProgram unit (.group ops)).fault ∧
      text.letters =
        (ofProgram unit (.group ops)).lines.flatMap
          (fun line => line.letters ++ [.char '\n']) ∧
      (ofProgram unit (.group ops)).text = text ∧
      (ofProgram unit (.group ops)).count =
        ending (ofProgram unit (.group ops)).fault
          (done ++ rest).length ∧
      (∀ final result,
        Emission.Runs unit { pending := [.group ops] } final result ↔
          final = text ∧
            result =
              ending (ofProgram unit (.group ops)).fault
                (done ++ rest).length) ∧
      render unit (.group ops) =
        ending (ofProgram unit (.group ops)).fault text) ∧
    (∀ leaf fault, Line.Refuses unit leaf fault →
      (∀ mnemonic args, leaf ≠ .instruction mnemonic args) →
        fault = .unsupportedOperation leaf.kind ∧
          fault.family = .compile) ∧
    (∀ others,
      (Operation.group others).leaves = (Operation.group ops).leaves →
        ofProgram unit (.group others) = ofProgram unit (.group ops) ∧
        (ofProgram unit (.group others)).text =
          (ofProgram unit (.group ops)).text ∧
        (ofProgram unit (.group others)).count =
          (ofProgram unit (.group ops)).count ∧
        render unit (.group others) = render unit (.group ops) ∧
        ∀ final result,
          Emission.Runs unit { pending := [.group others] } final result ↔
            Emission.Runs unit { pending := [.group ops] } final result) := by
  refine ⟨?_, fun leaf fault hRefuses hOther =>
    hRefuses.family hOther, ?_⟩
  · rcases ofLeaves_spec unit (Operation.allLeaves ops)
        (fun leaf hMem =>
          Operation.isLeaf_of_mem_allLeaves ops hMem) with
      ⟨done, rest, hSplit, hLines, hStop⟩
    have hCount := count_eq_ending hLines hStop
    refine ⟨done, rest, (ofProgram unit (.group ops)).text, ?_, hLines,
      hStop, letters_text _, rfl, hCount, ?_, render_eq_ending unit _⟩
    · rw [← hSplit, ← Operation.leaves_group]
      exact Operation.leaves_inWalkOrder _
    · intro final result
      rw [Emission.runs_iff, ofProgram_group, hCount]
  · intro others hLeaves
    have hSame :
        ofProgram unit (.group others) = ofProgram unit (.group ops) := by
      rw [Operation.leaves_group, Operation.leaves_group] at hLeaves
      rw [ofProgram_group, ofProgram_group, hLeaves]
    refine ⟨hSame, by rw [hSame], by rw [hSame], ?_, ?_⟩
    · rw [render_eq_ending, render_eq_ending, hSame]
    · intro final result
      rw [Emission.runs_iff, Emission.runs_iff, hSame]

end Listing

end Joinery
