import Joinery.Proofs.Gcode.Motions
import Joinery.Proofs.Machine.Lines

/-
  Two machines read two listings line by line. They are told
  the same if every pair of lines commands the same motion,
  up to the rounding of the units that they are in.

  Key definitions include:
    * `Machine.SameWord`
    * `Machine.Corresponds`
    * `Machine.SameMotions`
    * `Machine.IsStill`

  Key theorems include:
    * `Listing.forall₂_of_complete`
    * `Machine.visits_complete`
-/

namespace Joinery

------------------------------------------------------------
-- Same Motions
------------------------------------------------------------

namespace Machine

/-
  Two words name the same axis and the same length: each is
  rounded by half a hundredth of the unit it is read in.
-/
def SameWord
    (u w : LengthUnit)
    (a b : Word) : Prop :=
  a.address = b.address ∧
    |a.number * u.millimeters - b.number * w.millimeters| ≤
      (u.millimeters + w.millimeters) / 200

/- Two motions are of one kind, and along the same lengths. -/
def SameMotion
    (u w : LengthUnit)
    (c d : Block) : Prop :=
  c.head = d.head ∧ List.Forall₂ (SameWord u w) c.words d.words

/- Two lines command the same motion, or none at all. -/
def Corresponds
    (s t : Situated Text) : Prop :=
  Option.Rel (SameMotion s.modes.unit t.modes.unit)
    (Block.motion? s.item) (Block.motion? t.item)

/- The lines of a program, each in the modes that a machine reads it in. -/
def reads
    (ambient : Ambient)
    (op : Operation) : List (Situated Text) :=
  visits ModeSwitch.ofLine? ambient
    (Listing.ofProgram ambient.unit op).lines

/-
  Two programs, each compiled and started in an ambient state
  of its own, are compiled to the end and command the same
  motions, line by line.
-/
structure SameMotions
    (ambient other : Ambient)
    (op program : Operation) : Prop where
  firstComplete : (Listing.ofProgram ambient.unit op).fault = none
  secondComplete :
    (Listing.ofProgram other.unit program).fault = none
  lines :
    List.Forall₂ Corresponds (reads ambient op) (reads other program)

/- A line commands no length of more than a hundredth. -/
def IsStill
    (line : Text) : Prop :=
  ∀ block ∈ Block.motion? line,
    ∀ word ∈ block.words, |word.number| ≤ 1 / 100

instance (line : Text) : Decidable (IsStill line) :=
  inferInstanceAs (Decidable (∀ block ∈ Block.motion? line,
    ∀ word ∈ block.words, |word.number| ≤ 1 / 100))

end Machine

------------------------------------------------------------
-- Complete Listings
------------------------------------------------------------

/- A listing without a fault has a line for every leaf. -/
theorem Listing.forall₂_of_complete
    {u : LengthUnit}
    {leaves : List Operation}
    (hComplete : (Listing.ofLeaves u leaves).fault = none) :
    List.Forall₂ (fun leaf line => Line.ofOperation u leaf = .ok line)
      leaves (Listing.ofLeaves u leaves).lines := by
  induction leaves with
  | nil => exact .nil
  | cons leaf rest ih =>
      cases hLine : Line.ofOperation u leaf with
      | error fault =>
          simp only [Listing.ofLeaves, hLine] at hComplete
          cases hComplete
      | ok line =>
          simp only [Listing.ofLeaves, hLine] at hComplete ⊢
          exact .cons hLine (ih hComplete)

/- A machine that reads a complete listing visits all leaves. -/
theorem Machine.visits_complete
    {ambient : Ambient}
    {ops : List Operation}
    (hComplete :
      (Listing.ofProgram ambient.unit (.group ops)).fault = none) :
    List.Forall₂
      (fun s t => s.modes = t.modes ∧
        Line.ofOperation ambient.unit s.item = .ok t.item)
      (visits ModeSwitch.ofLeaf? ambient (Operation.allLeaves ops))
      (reads ambient (.group ops)) := by
  refine visits_forall₂ ?_ (Listing.forall₂_of_complete hComplete) ambient
  intro leaf line hLine
  exact (ModeSwitch.ofLine?_ofOperation hLine).symm

end Joinery
