import Joinery.Gcode.Outline
import Joinery.Proofs.Gcode.Emission
import Joinery.Proofs.Outcome
import Joinery.Proofs.Program.Nodes

/-
  An outline and a listing of the same program tell the same.
  Both fail at the same leaf with the same fault. When they
  do not fail, the outline has an entry for every node of the
  program, and those of the instructions are the lines of the
  listing.

  Key definitions include:
    * `Outline.Labels`
    * `Outline.Shows`
    * `Outline.instructionLabels`

  Key theorems include:
    * `Outline.entries_ending`
    * `Outline.entries_show`
    * `Outline.listing_of_shown`
    * `Outline.agrees_with_listing`
-/

namespace Joinery

------------------------------------------------------------
-- Texts And Listings
------------------------------------------------------------

theorem Text.letters_times
    (t : Text)
    (n : Nat) :
    (t.times n).letters = (List.replicate n t.letters).flatten := by
  rw [Text.times, Text.letters_join, List.flatMap_def,
    List.map_replicate]

namespace Listing

/- A listing stops at the first of its leaves that stops it. -/
theorem fault_ofLeaves_append
    (unit : LengthUnit)
    (front rest : List Operation) :
    (ofLeaves unit (front ++ rest)).fault =
      ((ofLeaves unit front).fault.or (ofLeaves unit rest).fault) := by
  induction front with
  | nil => rfl
  | cons leaf front ih =>
      rw [List.cons_append, ofLeaves, ofLeaves]
      cases Line.ofOperation unit leaf with
      | ok line => exact ih
      | error fault => rfl

/- What one leaf stops, it stops with its own fault. -/
theorem fault_ofLeaf
    (unit : LengthUnit)
    (leaf : Operation) :
    ending (ofLeaves unit [leaf]).fault () =
      (Line.ofOperation unit leaf).map fun _ => () := by
  rw [ofLeaves]
  cases Line.ofOperation unit leaf <;> rfl

end Listing

namespace Outline

------------------------------------------------------------
-- Entries And Nodes
------------------------------------------------------------

/-
  The label of a node: how many operations a group holds
  itself, and the line of an instruction.
-/
inductive Labels
    (unit : LengthUnit) : Operation → Text → Prop
  | group
      (ops : List Operation) :
      Labels unit (.group ops) s!"[{ops.length}]"
  | instruction
      {op : Operation}
      {line : Text}
      (hGives : Line.Gives unit op line) :
      Labels unit op line

/- An entry shows a node of an operation that is at a depth itself. -/
structure Shows
    (unit : LengthUnit)
    (depth : Nat)
    (node : Operation.Node)
    (entry : Entry) : Prop where
  depth : entry.depth = depth + node.depth
  label : Labels unit node.operation entry.label

/- The labels of the entries that stand for instructions. -/
def instructionLabels
    (nodes : List Operation.Node)
    (entries : List Entry) : List Text :=
  ((nodes.zip entries).filter fun row => !row.1.operation.isGroup).map
    fun row => row.2.label

/- A group adds one to the depth of the nodes it holds. -/
theorem Shows.inGroup
    {unit : LengthUnit}
    {depth : Nat}
    {node : Operation.Node}
    {entry : Entry}
    (hShows : Shows unit (depth + 1) node entry)
    (place : Nat) :
    Shows unit depth (node.inGroup place) entry where
  depth := by
    rw [hShows.depth, Operation.Node.inGroup, Operation.Node.depth,
      Operation.Node.depth, List.length_cons]
    omega
  label := hShows.label

mutual

/- The entries of an operation show its nodes. -/
theorem entries_show
    (unit : LengthUnit)
    (depth : Nat)
    (op : Operation)
    {shown : List Entry}
    (hShown : entries unit depth op = .ok shown) :
    List.Forall₂ (Shows unit depth) op.nodes shown := by
  cases op with
  | group ops =>
      rw [entries] at hShown
      rcases Outcome.bind_eq_ok_iff.mp hShown with ⟨rest, hRest, hSame⟩
      cases hSame
      rw [Operation.nodes]
      exact .cons ⟨rfl, .group ops⟩
        (allEntries_show unit depth 0 ops hRest)
  | instruction mnemonic args =>
      rw [entries] at hShown
      rcases Outcome.bind_eq_ok_iff.mp hShown with ⟨line, hLine, hSame⟩
      cases hSame
      rw [Operation.nodes_of_isLeaf (by rintro ops ⟨⟩)]
      exact .cons ⟨rfl, .instruction ⟨mnemonic, args, rfl, hLine⟩⟩ .nil
  | foreign name => cases hShown
  | value v => cases hShown

/- The entries of the operations of a group show what is in the group. -/
theorem allEntries_show
    (unit : LengthUnit)
    (depth place : Nat)
    (ops : List Operation)
    {shown : List Entry}
    (hShown : allEntries unit (depth + 1) ops = .ok shown) :
    List.Forall₂ (Shows unit depth) (Operation.allNodes place ops)
      shown := by
  cases ops with
  | nil =>
      cases hShown
      rw [Operation.allNodes]
      exact .nil
  | cons op rest =>
      rw [allEntries] at hShown
      rcases Outcome.bind_eq_ok_iff.mp hShown with
        ⟨first, hFirst, hShown⟩
      rcases Outcome.bind_eq_ok_iff.mp hShown with
        ⟨others, hOthers, hSame⟩
      cases hSame
      rw [Operation.allNodes]
      refine List.rel_append ?_
        (allEntries_show unit depth (place + 1) rest hOthers)
      rw [List.forall₂_map_left_iff]
      exact (entries_show unit (depth + 1) op hFirst).imp
        fun _ _ hShows => hShows.inGroup place

end

------------------------------------------------------------
-- Faults
------------------------------------------------------------

mutual

/- The outline of an operation ends as the listing of its leaves does. -/
theorem entries_ending
    (unit : LengthUnit)
    (depth : Nat)
    (op : Operation) :
    (entries unit depth op).map (fun _ => ()) =
      Listing.ending (Listing.ofLeaves unit op.leaves).fault () := by
  cases op with
  | group ops =>
      have hAll := allEntries_ending unit (depth + 1) ops
      rw [entries, Operation.leaves_group, ← hAll]
      cases allEntries unit (depth + 1) ops <;> rfl
  | instruction mnemonic args =>
      rw [entries, Operation.leaves_of_isLeaf (by rintro ops ⟨⟩),
        Listing.fault_ofLeaf, Line.ofOperation]
      cases Line.ofInstruction unit mnemonic args <;> rfl
  | foreign name =>
      rw [Operation.leaves_of_isLeaf (by rintro ops ⟨⟩)]
      rfl
  | value v =>
      rw [Operation.leaves_of_isLeaf (by rintro ops ⟨⟩)]
      rfl

/- So does the outline of several operations. -/
theorem allEntries_ending
    (unit : LengthUnit)
    (depth : Nat)
    (ops : List Operation) :
    (allEntries unit depth ops).map (fun _ => ()) =
      Listing.ending
        (Listing.ofLeaves unit (Operation.allLeaves ops)).fault () := by
  cases ops with
  | nil => rfl
  | cons op rest =>
      have hFirst := entries_ending unit depth op
      have hRest := allEntries_ending unit depth rest
      rw [allEntries, Operation.allLeaves_cons,
        Listing.fault_ofLeaves_append]
      cases hFault : (Listing.ofLeaves unit op.leaves).fault with
      | some fault =>
          rw [hFault] at hFirst
          cases hEntries : entries unit depth op with
          | ok first =>
              rw [hEntries] at hFirst
              cases hFirst
          | error cause =>
              rw [hEntries] at hFirst
              cases hFirst
              rfl
      | none =>
          rw [hFault] at hFirst
          cases hEntries : entries unit depth op with
          | error cause =>
              rw [hEntries] at hFirst
              cases hFirst
          | ok first =>
              rw [Option.none_or, ← hRest, Outcome.ok_bind]
              cases allEntries unit depth rest <;> rfl

end

------------------------------------------------------------
-- Lines
------------------------------------------------------------

/-
  Where entries show nodes, all leaves among them have a
  line, and the lines are the labels.
-/
theorem listing_of_shown
    {unit : LengthUnit}
    {depth : Nat}
    {nodes : List Operation.Node}
    {shown : List Entry}
    (hShown : List.Forall₂ (Shows unit depth) nodes shown) :
    Listing.ofLeaves unit
        ((nodes.map Operation.Node.operation).filter fun inner =>
          !inner.isGroup) =
      ⟨instructionLabels nodes shown, none⟩ := by
  induction hShown with
  | nil => rfl
  | cons hFirst _ ih =>
      rename_i node entry nodes shown _
      rcases node with ⟨path, op⟩
      rcases entry with ⟨_, label⟩
      have hLabel : Labels unit op label := hFirst.label
      unfold instructionLabels at ih ⊢
      rw [List.map_cons, List.zip_cons_cons]
      cases hLabel with
      | group ops =>
          rw [List.filter_cons_of_neg (by simp [Operation.isGroup]),
            List.filter_cons_of_neg (by simp [Operation.isGroup])]
          exact ih
      | instruction hGives =>
          rcases hGives with ⟨mnemonic, args, hInstruction, hLine⟩
          change op = _ at hInstruction
          subst hInstruction
          rw [List.filter_cons_of_pos (by simp [Operation.isGroup]),
            List.filter_cons_of_pos (by simp [Operation.isGroup]),
            Listing.ofLeaves, Line.ofOperation, hLine, ih]
          rfl

/- The text of an entry: its indentation, its label, and a line end. -/
theorem letters_entry
    (indent : Text)
    (e : Entry) :
    (e.text indent).letters =
      (List.replicate e.depth indent.letters).flatten ++
        e.label.letters ++ [.char '\n'] := by
  rw [Entry.text, Text.letters_append, Text.letters_append,
    Text.letters_times]
  rfl

/-
  The lines of a program are those of its leaves in walk
  order, up to the first leaf that has none. If there is such
  a leaf, the outline fails with its fault. Otherwise the
  outline has one entry for every node of the program, a
  group before what it holds: the indentation, once for every
  group that the node is in, and a label. The label of a group
  is the number of operations that it holds itself, and the
  labels of the instructions are the lines of the program.
-/
theorem agrees_with_listing
    (unit : LengthUnit)
    (indent : Text)
    (ops : List Operation) :
    (∃ done rest,
      (Operation.group ops).InWalkOrder (done ++ rest) ∧
        List.Forall₂ (Line.Gives unit) done
          (Listing.ofProgram unit (.group ops)).lines ∧
        Listing.StopsAt unit rest
          (Listing.ofProgram unit (.group ops)).fault) ∧
    match (Listing.ofProgram unit (.group ops)).fault with
    | some fault => outline unit indent (.group ops) = .error fault
    | none =>
        ∃ nodes shown text,
          outline unit indent (.group ops) = .ok text ∧
            (Operation.group ops).InOutlineOrder nodes ∧
            List.Forall₂ (Shows unit 0) nodes shown ∧
            (text.letters =
              shown.flatMap fun e =>
                (List.replicate e.depth indent.letters).flatten ++
                  e.label.letters ++ [.char '\n']) ∧
            instructionLabels nodes shown =
              (Listing.ofProgram unit (.group ops)).lines := by
  have hLeaves :
      ∀ leaf ∈ Operation.allLeaves ops, leaf.IsLeaf :=
    fun leaf hMem => Operation.isLeaf_of_mem_allLeaves ops hMem
  constructor
  · rcases Listing.ofLeaves_spec unit _ hLeaves with
      ⟨done, rest, hSplit, hLines, hStop⟩
    refine ⟨done, rest, ?_, hLines, hStop⟩
    rw [← hSplit, ← Operation.leaves_group]
    exact Operation.leaves_inWalkOrder _
  · have hEnding := entries_ending unit 0 (.group ops)
    rw [Operation.leaves_group, ← Listing.ofProgram_group] at hEnding
    unfold outline
    cases hEntries : entries unit 0 (.group ops) with
    | error cause =>
        rw [hEntries] at hEnding
        cases hFault : (Listing.ofProgram unit (.group ops)).fault with
        | none =>
            rw [hFault] at hEnding
            cases hEnding
        | some fault =>
            rw [hFault] at hEnding
            cases hEnding
            rfl
    | ok shown =>
        rw [hEntries] at hEnding
        have hShown := entries_show unit 0 _ hEntries
        have hListing := listing_of_shown hShown
        rw [← Operation.leaves_eq_filter, Operation.leaves_group,
          ← Listing.ofProgram_group] at hListing
        rw [hListing]
        refine ⟨_, shown, _, rfl, Operation.nodes_inOutlineOrder _, hShown,
          ?_, rfl⟩
        rw [Text.letters_join, List.flatMap_map]
        simp only [letters_entry]

end Outline

end Joinery
