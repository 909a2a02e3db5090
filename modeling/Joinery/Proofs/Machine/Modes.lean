import Mathlib.Data.List.Forall2
import Joinery.Ambient
import Joinery.Gcode.Line
import Joinery.Program.Instruction
import Joinery.Proofs.Program.Leaves

/-
  A machine has a unit and a positioning mode. Four lines
  without arguments switch them, and every other line is
  read in the modes that are in force when it is reached.

  Key definitions include:
    * `ModeSwitch`
    * `Machine.visits`
    * `Machine.after`

  Key theorems include:
    * `Machine.visits_append`
    * `Machine.visits_forall₂`
    * `Machine.visits_bracket`
-/

namespace Joinery

------------------------------------------------------------
-- Switches
------------------------------------------------------------

/- A change of one of the modes of a machine. -/
inductive ModeSwitch where
  | unit
      (u : LengthUnit)
  | positioning
      (mode : Positioning)
  deriving DecidableEq, Repr

namespace ModeSwitch

/- The modes of a machine after a change of one of them. -/
def apply
    (switch : ModeSwitch)
    (modes : Ambient) : Ambient :=
  match switch with
  | .unit u => { modes with unit := u }
  | .positioning mode => { modes with mode := mode }

/- The switch that a whole line is, if it is one. -/
def ofLine?
    (line : Text) : Option ModeSwitch :=
  if line = "G28" then some (.unit .millimeter)
  else if line = "G20" then some (.unit .inch)
  else if line = "G90" then some (.positioning .absolute)
  else if line = "G91" then some (.positioning .relative)
  else none

/- The switch that an instruction without arguments is, if it is one. -/
def ofLeaf? : Operation → Option ModeSwitch
  | .instruction mnemonic [] =>
      match Line.keyword mnemonic with
      | .ok line => ofLine? line
      | .error _ => none
  | _ => none

@[simp] theorem ofLeaf?_ofUnit
    (u : LengthUnit) :
    ofLeaf? (Instruction.ofUnit u) = some (.unit u) := by
  cases u with
  | millimeter => rfl
  | inch => rfl

@[simp] theorem ofLeaf?_ofPositioning
    (mode : Positioning) :
    ofLeaf? (Instruction.ofPositioning mode) =
      some (.positioning mode) := by
  cases mode with
  | absolute => rfl
  | relative => rfl

theorem isLeaf_of_some
    {op : Operation}
    {switch : ModeSwitch}
    (hSwitch : ofLeaf? op = some switch) :
    op.IsLeaf := by
  intro ops hGroup
  subst hGroup
  cases hSwitch

end ModeSwitch

------------------------------------------------------------
-- Machines
------------------------------------------------------------

/- Something that a machine reaches in some modes. -/
structure Situated (α : Type) where
  modes : Ambient
  item : α

namespace Machine

variable {α β : Type}

/- The modes after one item, which may be a switch. -/
def step
    (switch? : α → Option ModeSwitch)
    (modes : Ambient)
    (item : α) : Ambient :=
  match switch? item with
  | some switch => switch.apply modes
  | none => modes

/- The modes after several items. -/
def after
    (switch? : α → Option ModeSwitch)
    (modes : Ambient)
    (items : List α) : Ambient :=
  items.foldl (step switch?) modes

/- The items that are no switches, each in the modes it is reached in. -/
def visits
    (switch? : α → Option ModeSwitch)
    (modes : Ambient) : List α → List (Situated α)
  | [] => []
  | item :: rest =>
      match switch? item with
      | some switch => visits switch? (switch.apply modes) rest
      | none => ⟨modes, item⟩ :: visits switch? modes rest

------------------------------------------------------------
-- Items One After The Other
------------------------------------------------------------

section Sequences

variable {switch? : α → Option ModeSwitch}

@[simp] theorem after_nil
    (modes : Ambient) :
    after switch? modes [] = modes := rfl

@[simp] theorem after_cons
    (modes : Ambient)
    (item : α)
    (rest : List α) :
    after switch? modes (item :: rest) =
      after switch? (step switch? modes item) rest := rfl

theorem after_append
    (modes : Ambient)
    (front rest : List α) :
    after switch? modes (front ++ rest) =
      after switch? (after switch? modes front) rest :=
  List.foldl_append

@[simp] theorem visits_nil
    (modes : Ambient) :
    visits switch? modes [] = [] := rfl

theorem visits_cons_switch
    {item : α}
    {switch : ModeSwitch}
    (hSwitch : switch? item = some switch)
    (modes : Ambient)
    (rest : List α) :
    visits switch? modes (item :: rest) =
      visits switch? (switch.apply modes) rest := by
  rw [visits, hSwitch]

theorem visits_cons_other
    {item : α}
    (hOther : switch? item = none)
    (modes : Ambient)
    (rest : List α) :
    visits switch? modes (item :: rest) =
      ⟨modes, item⟩ :: visits switch? modes rest := by
  rw [visits, hOther]

/- What comes later is reached in the modes that are left behind. -/
theorem visits_append
    (modes : Ambient)
    (front rest : List α) :
    visits switch? modes (front ++ rest) =
      visits switch? modes front ++
        visits switch? (after switch? modes front) rest := by
  induction front generalizing modes with
  | nil => rfl
  | cons item front ih =>
      cases hSwitch : switch? item with
      | some switch =>
          rw [List.cons_append, visits_cons_switch hSwitch,
            visits_cons_switch hSwitch, ih, after_cons, step, hSwitch]
      | none =>
          rw [List.cons_append, visits_cons_other hSwitch,
            visits_cons_other hSwitch, ih, after_cons, step, hSwitch,
            List.cons_append]

/- Items that are no switches are all reached in the same modes. -/
theorem visits_of_no_switch
    (modes : Ambient)
    {items : List α}
    (hOther : ∀ item ∈ items, switch? item = none) :
    visits switch? modes items = items.map (⟨modes, ·⟩) ∧
      after switch? modes items = modes := by
  induction items with
  | nil => exact ⟨rfl, rfl⟩
  | cons item rest ih =>
      have hItem := hOther item (List.mem_cons_self ..)
      have hRest := ih fun other hMem =>
        hOther other (List.mem_cons_of_mem _ hMem)
      rw [visits_cons_other hItem, after_cons, step, hItem, hRest.1]
      exact ⟨rfl, hRest.2⟩

/-
  Two machines whose items correspond, and switch the same
  modes, reach corresponding items in the same modes.
-/
theorem visits_forall₂
    {other? : β → Option ModeSwitch}
    {corresponds : α → β → Prop}
    (hSame : ∀ item other, corresponds item other →
      switch? item = other? other)
    {items : List α}
    {others : List β}
    (hItems : List.Forall₂ corresponds items others)
    (modes : Ambient) :
    List.Forall₂
      (fun s t => s.modes = t.modes ∧ corresponds s.item t.item)
      (visits switch? modes items) (visits other? modes others) := by
  induction hItems generalizing modes with
  | nil => exact .nil
  | cons hItem _ ih =>
      have hSwitch := hSame _ _ hItem
      cases hFirst : switch? _ with
      | some switch =>
          rw [visits_cons_switch hFirst,
            visits_cons_switch (hSwitch ▸ hFirst)]
          exact ih _
      | none =>
          rw [visits_cons_other hFirst,
            visits_cons_other (hSwitch ▸ hFirst)]
          exact .cons ⟨rfl, hItem⟩ (ih _)

/-
  Between a switch and the switch that undoes it, items that
  leave the modes alone are reached in the switched modes,
  and afterwards the modes are as before.
-/
theorem visits_bracket
    {first last : α}
    {switch back : ModeSwitch}
    (hFirst : switch? first = some switch)
    (hLast : switch? last = some back)
    (modes : Ambient)
    (hBack : back.apply (switch.apply modes) = modes)
    {inner : List α}
    (hInner :
      after switch? (switch.apply modes) inner = switch.apply modes) :
    visits switch? modes (first :: (inner ++ [last])) =
        visits switch? (switch.apply modes) inner ∧
      after switch? modes (first :: (inner ++ [last])) = modes := by
  refine ⟨?_, ?_⟩
  · rw [visits_cons_switch hFirst, visits_append,
      visits_cons_switch hLast, visits_nil, List.append_nil]
  · rw [after_cons, step, hFirst, after_append]
    simp only [hInner, after_cons, step, hLast, hBack, after_nil]

end Sequences

end Machine

end Joinery
