import Joinery.Proofs.Gcode.Motions
import Joinery.Proofs.Machine.Modes
import Joinery.Proofs.Value.Named

/-
  A leaf of a program asks a deed of the machine: to switch a
  mode, to move or to cut, to declare where it is, to probe,
  or to wait for the operator. Deeds follow one another, and
  some must come before others.

  Key definitions include:
    * `Motion`
    * `Deed`
    * `Deed.ofLeaf`
    * `OnlyAfter`
    * `OnlyBefore`

  Key theorems include:
    * `OnlyAfter.of_split`
    * `OnlyBefore.of_split`
-/

namespace Joinery

------------------------------------------------------------
-- Motions
------------------------------------------------------------

/- The exact number that a value is, if it is a finite one. -/
def Value.rational? : Value → Option Rat
  | .int n => some n
  | .ratio q => some q
  | .float x => Decimal.exactValue? x
  | _ => none

/- The number that entries give for an axis. -/
def Axis.number?
    (axis : Axis)
    (entries : Entries) : Option Rat :=
  (entries.get? axis.name).bind Value.rational?

/-
  Where a motion leads, along the axes that it names, and
  whether it has a feed rate.
-/
structure Motion where
  x : Option Rat
  y : Option Rat
  z : Option Rat
  fed : Bool := false
  deriving DecidableEq

/- The motion that entries describe. -/
def Motion.ofEntries
    (entries : Entries) : Motion :=
  { x := Axis.x.number? entries
    y := Axis.y.number? entries
    z := Axis.z.number? entries
    fed := (entries.get? "f").isSome }

/- A feed rate is no axis. -/
theorem Axis.number?_feeds
    (axis : Axis)
    (feeds : List Value) :
    axis.number? (feeds.map Instruction.feedEntry) = none := by
  induction feeds with
  | nil => rfl
  | cons feed rest ih =>
      have hOther : ¬ (("f" : Text) = axis.name) := by
        cases axis <;> decide
      rw [List.map_cons, Axis.number?, Instruction.feedEntry,
        Entries.get?_cons, if_neg hOther]
      exact ih

theorem Axis.name_inj
    {axis second : Axis} :
    axis.name = second.name ↔ axis = second := by
  cases axis <;> cases second <;> decide

/- Every axis has the number it is first named with. -/
theorem Axis.number?_entries
    (axis : Axis)
    (axes : List (Axis × Value))
    (feeds : List Value) :
    axis.number?
        (axes.map Axis.entry ++ feeds.map Instruction.feedEntry) =
      (axes.lookup axis).bind Value.rational? := by
  induction axes with
  | nil => exact axis.number?_feeds feeds
  | cons e rest ih =>
      rw [List.map_cons, List.cons_append, Axis.number?, Axis.entry,
        Entries.get?_cons, List.lookup_cons]
      by_cases hSame : axis = e.1
      · rw [if_pos (Axis.name_inj.mpr hSame.symm), beq_iff_eq.mpr hSame]
      · rw [if_neg fun hName => hSame (Axis.name_inj.mp hName).symm,
          beq_eq_false_iff_ne.mpr hSame]
        exact ih

/- Motions with a feed rate are those that a feed is given for. -/
theorem Motion.fed_entries
    (axes : List (Axis × Value))
    (feeds : List Value) :
    (Motion.ofEntries
        (axes.map Axis.entry ++ feeds.map Instruction.feedEntry)).fed =
      !feeds.isEmpty := by
  rw [Motion.ofEntries]
  induction axes with
  | nil =>
      cases feeds with
      | nil => rfl
      | cons feed rest =>
          rw [List.map_nil, List.nil_append, List.map_cons,
            Instruction.feedEntry, Entries.get?_cons, if_pos rfl]
          rfl
  | cons e rest ih =>
      have hOther : ¬ (e.1.name = ("f" : Text)) := by
        cases e.1 <;> decide
      rw [List.map_cons, List.cons_append, Axis.entry, Entries.get?_cons,
        if_neg hOther]
      exact ih

/- The motion along some axes, with or without a feed rate. -/
theorem Motion.ofEntries_eq
    (axes : List (Axis × Value))
    (feeds : List Value) :
    Motion.ofEntries
        (axes.map Axis.entry ++ feeds.map Instruction.feedEntry) =
      { x := (axes.lookup .x).bind Value.rational?
        y := (axes.lookup .y).bind Value.rational?
        z := (axes.lookup .z).bind Value.rational?
        fed := !feeds.isEmpty } := by
  have hFed := Motion.fed_entries axes feeds
  rw [Motion.ofEntries] at hFed ⊢
  rw [Axis.number?_entries, Axis.number?_entries, Axis.number?_entries]
  exact congrArg _ hFed

/- A motion in the plane. -/
def Motion.across
    (x y : Rat) : Motion :=
  { x := some x, y := some y, z := none }

/- A motion up or down. -/
def Motion.upright
    (z : Rat) : Motion :=
  { x := none, y := none, z := some z }

------------------------------------------------------------
-- Deeds
------------------------------------------------------------

/- What an operation asks of a machine. -/
inductive Deed where
  | switch
      (change : ModeSwitch)
  | rapid
      (motion : Motion)
  | cut
      (motion : Motion)
  | declare
      (motion : Motion)
  | probe
      (axis : Text)
  | prompt
      (message : Text)
  | wait
  | other
  deriving DecidableEq

namespace Deed

/- The deed of a motion under the head of an instruction. -/
def ofMotion
    (head : Text)
    (motion : Motion) : Deed :=
  if head = "G0" then .rapid motion
  else if head = "G1" then .cut motion
  else if head = "G92" then .declare motion
  else .other

/- The deed of an instruction with a head and one argument. -/
def ofHead
    (head : Text)
    (arg : Value) : Deed :=
  match arg with
  | .dict entries => ofMotion head (Motion.ofEntries entries)
  | .token (.text axis) =>
      if head = "G28" then .probe axis else .other
  | .text message =>
      if head = "M0" then .prompt message else .other
  | _ => .other

/- The deed that a leaf asks for. -/
def ofLeaf
    (op : Operation) : Deed :=
  match ModeSwitch.ofLeaf? op with
  | some change => .switch change
  | none =>
      match op with
      | .instruction mnemonic args =>
          match Line.keyword mnemonic, args with
          | .ok head, [] => if head = "M400" then .wait else .other
          | .ok head, [arg] => ofHead head arg
          | _, _ => .other
      | _ => .other

/- The deeds that a program asks for, in order. -/
def ofProgram
    (op : Operation) : List Deed :=
  op.leaves.map ofLeaf

/- The tool cuts. -/
def IsCut
    (deed : Deed) : Prop :=
  ∃ motion, deed = .cut motion

/- The machine moves, or is told where it is. -/
def IsMotion
    (deed : Deed) : Prop :=
  ∃ motion,
    deed = .rapid motion ∨ deed = .cut motion ∨ deed = .declare motion

/- The machine is told at which height it is. -/
def DeclaresHeight
    (deed : Deed) : Prop :=
  ∃ motion, deed = .declare motion ∧ motion.z ≠ none

------------------------------------------------------------
-- Deeds Of Leaves
------------------------------------------------------------

@[simp] theorem ofLeaf_ofUnit
    (u : LengthUnit) :
    ofLeaf (Instruction.ofUnit u) = .switch (.unit u) := by
  cases u with
  | millimeter => rfl
  | inch => rfl

@[simp] theorem ofLeaf_ofPositioning
    (mode : Positioning) :
    ofLeaf (Instruction.ofPositioning mode) =
      .switch (.positioning mode) := by
  cases mode with
  | absolute => rfl
  | relative => rfl

theorem ofLeaf_motion
    (mnemonic : String)
    (entries : Entries) :
    ofLeaf (Instruction.known mnemonic [.dict entries]) =
      ofMotion (Instruction.head mnemonic) (Motion.ofEntries entries) :=
  rfl

end Deed

------------------------------------------------------------
-- Order
------------------------------------------------------------

/- Whatever is late comes after something that is early. -/
def OnlyAfter
    {α : Type}
    (early late : α → Prop)
    (items : List α) : Prop :=
  ∀ front item rest, items = front ++ item :: rest → late item →
    ∃ other ∈ front, early other

/- Whatever is early comes before something that is late. -/
def OnlyBefore
    {α : Type}
    (late early : α → Prop)
    (items : List α) : Prop :=
  ∀ front item rest, items = front ++ item :: rest → early item →
    ∃ other ∈ rest, late other

section Order

variable {α : Type}
variable {early late : α → Prop}

/-
  If an early item stands between two parts, and nothing in
  the first part is late, late items come after early ones.
-/
theorem OnlyAfter.of_split
    {front rest : List α}
    {mark : α}
    (hMark : early mark)
    (hNotLate : ¬ late mark)
    (hFront : ∀ item ∈ front, ¬ late item) :
    OnlyAfter early late (front ++ mark :: rest) := by
  intro before item behind hSplit hLate
  rcases List.append_eq_append_iff.mp hSplit with
    ⟨gap, hBefore, hGap⟩ | ⟨gap, hBefore, hGap⟩
  · cases gap with
    | nil =>
        cases hGap
        exact absurd hLate hNotLate
    | cons first gap =>
        cases hGap
        refine ⟨mark, ?_, hMark⟩
        rw [hBefore]
        simp
  · cases gap with
    | nil =>
        cases hGap
        exact absurd hLate hNotLate
    | cons first gap =>
        cases hGap
        have hMem : item ∈ front := by
          rw [hBefore]
          simp
        exact absurd hLate (hFront item hMem)

/-
  If a late item stands between two parts, and nothing in
  the second part is early, early items come before late ones.
-/
theorem OnlyBefore.of_split
    {front rest : List α}
    {mark : α}
    (hMark : late mark)
    (hNotEarly : ¬ early mark)
    (hRest : ∀ item ∈ rest, ¬ early item) :
    OnlyBefore late early (front ++ mark :: rest) := by
  intro before item behind hSplit hEarly
  rcases List.append_eq_append_iff.mp hSplit with
    ⟨gap, hBefore, hGap⟩ | ⟨gap, hBefore, hGap⟩
  · cases gap with
    | nil =>
        cases hGap
        exact absurd hEarly hNotEarly
    | cons first gap =>
        cases hGap
        exact absurd hEarly (hRest item (by simp))
  · cases gap with
    | nil =>
        cases hGap
        exact absurd hEarly hNotEarly
    | cons first gap =>
        cases hGap
        exact ⟨mark, by simp, hMark⟩

end Order

end Joinery
