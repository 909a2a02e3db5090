import Joinery.Proofs.Gcode.Emission
import Joinery.Proofs.Gcode.Words
import Joinery.Proofs.Machine.Modes

/-
  A machine that reads lines switches its modes at the same
  places as one that runs the leaves the lines are made of.

  Key theorems include:
    * `ModeSwitch.ofLine?_ofOperation`
    * `Listing.ofLeaves_complete`
    * `Machine.visits_lines`
-/

namespace Joinery

------------------------------------------------------------
-- Switches In Lines
------------------------------------------------------------

namespace ModeSwitch

/- A line that is a switch holds no blank. -/
theorem blank_not_mem_of_ofLine?
    {line : Text}
    {switch : ModeSwitch}
    (hSwitch : ofLine? line = some switch) :
    .char ' ' ∉ line.letters := by
  have hCases :
      line = "G28" ∨ line = "G20" ∨ line = "G90" ∨ line = "G91" := by
    unfold ofLine? at hSwitch
    by_contra hNone
    simp only [not_or] at hNone
    rw [if_neg hNone.1, if_neg hNone.2.1, if_neg hNone.2.2.1,
      if_neg hNone.2.2.2] at hSwitch
    cases hSwitch
  rcases hCases with rfl | rfl | rfl | rfl <;> decide

/- The line of an instruction with arguments is no switch. -/
theorem ofLine?_joined
    (head next : Text)
    (rest : List Text) :
    ofLine? (Text.joined " " (head :: next :: rest)) = none := by
  cases hSwitch : ofLine? (Text.joined " " (head :: next :: rest)) with
  | none => rfl
  | some switch =>
      refine absurd ?_ (blank_not_mem_of_ofLine? hSwitch)
      have hBlank : (" " : String).toList.map Letter.char = [.char ' '] :=
        rfl
      rw [Text.letters_joined, hBlank, List.map_cons, List.map_cons,
        List.intercalate_cons_cons]
      simp

/- The line of a leaf is a switch exactly when the leaf is. -/
theorem ofLine?_ofOperation
    {u : LengthUnit}
    {leaf : Operation}
    {line : Text}
    (hLine : Line.ofOperation u leaf = .ok line) :
    ofLine? line = ofLeaf? leaf := by
  cases leaf with
  | group ops => cases hLine
  | foreign name => cases hLine
  | value v => cases hLine
  | instruction mnemonic args =>
      change Line.ofInstruction u mnemonic args = .ok line at hLine
      rw [Line.ofInstruction, Outcome.bind_eq_ok_iff] at hLine
      rcases hLine with ⟨head, hHead, hRest⟩
      rw [Outcome.bind_eq_ok_iff] at hRest
      rcases hRest with ⟨texts, hTexts, hLine⟩
      cases hLine
      cases args with
      | nil =>
          cases hTexts
          simp [ofLeaf?, hHead, Text.joined]
      | cons arg rest =>
          rw [List.mapM_cons, Outcome.bind_eq_ok_iff] at hTexts
          rcases hTexts with ⟨first, -, hOthers⟩
          rw [Outcome.bind_eq_ok_iff] at hOthers
          rcases hOthers with ⟨others, -, hTexts⟩
          cases hTexts
          rw [ofLine?_joined]
          rfl

/- A switch has a line. -/
theorem ofOperation_of_switch
    {leaf : Operation}
    {switch : ModeSwitch}
    (hSwitch : ofLeaf? leaf = some switch)
    (u : LengthUnit) :
    ∃ line, Line.ofOperation u leaf = .ok line := by
  cases leaf with
  | group ops => cases hSwitch
  | foreign name => cases hSwitch
  | value v => cases hSwitch
  | instruction mnemonic args =>
      cases args with
      | cons arg rest => cases hSwitch
      | nil =>
          simp only [ofLeaf?] at hSwitch
          cases hHead : Line.keyword mnemonic with
          | error fault =>
              rw [hHead] at hSwitch
              cases hSwitch
          | ok head =>
              refine ⟨Text.joined " " [head], ?_⟩
              change Line.ofInstruction u mnemonic [] = _
              rw [Line.ofInstruction, hHead]
              rfl

end ModeSwitch

------------------------------------------------------------
-- Complete Listings
------------------------------------------------------------

/- Leaves that all have lines are listed without a fault. -/
theorem Listing.ofLeaves_complete
    {u : LengthUnit}
    {leaves : List Operation}
    (hLines :
      ∀ leaf ∈ leaves, ∃ line, Line.ofOperation u leaf = .ok line) :
    (Listing.ofLeaves u leaves).fault = none ∧
      List.Forall₂ (fun leaf line => Line.ofOperation u leaf = .ok line)
        leaves (Listing.ofLeaves u leaves).lines := by
  induction leaves with
  | nil => exact ⟨rfl, .nil⟩
  | cons leaf rest ih =>
      rcases hLines leaf (List.mem_cons_self ..) with ⟨line, hLine⟩
      rcases ih fun other hMem =>
          hLines other (List.mem_cons_of_mem _ hMem) with
        ⟨hFault, hRest⟩
      simp only [Listing.ofLeaves, hLine]
      exact ⟨hFault, .cons hLine hRest⟩

namespace Machine

/- An item that is no switch is visited. -/
theorem exists_visit
    {α : Type}
    {switch? : α → Option ModeSwitch}
    {item : α}
    (hOther : switch? item = none)
    {items : List α}
    (hMem : item ∈ items)
    (modes : Ambient) :
    ∃ s ∈ visits switch? modes items, s.item = item := by
  induction items generalizing modes with
  | nil => cases hMem
  | cons first rest ih =>
      rcases List.mem_cons.mp hMem with rfl | hRest
      · rw [visits_cons_other hOther]
        exact ⟨_, List.mem_cons_self .., rfl⟩
      · cases hFirst : switch? first with
        | some switch =>
            rw [visits_cons_switch hFirst]
            exact ih hRest _
        | none =>
            rw [visits_cons_other hFirst]
            rcases ih hRest modes with ⟨s, hVisit, hItem⟩
            exact ⟨s, List.mem_cons_of_mem _ hVisit, hItem⟩

/-
  If every leaf that is visited has a line, all lines are
  listed, and a machine that reads them visits the lines of
  the same leaves in the same modes.
-/
theorem visits_lines
    {u : LengthUnit}
    {modes : Ambient}
    {leaves : List Operation}
    (hLines :
      ∀ s ∈ visits ModeSwitch.ofLeaf? modes leaves,
        ∃ line, Line.ofOperation u s.item = .ok line) :
    (Listing.ofLeaves u leaves).fault = none ∧
      List.Forall₂
        (fun s t => s.modes = t.modes ∧
          Line.ofOperation u s.item = .ok t.item)
        (visits ModeSwitch.ofLeaf? modes leaves)
        (visits ModeSwitch.ofLine? modes
          (Listing.ofLeaves u leaves).lines) := by
  have hAll :
      ∀ leaf ∈ leaves, ∃ line, Line.ofOperation u leaf = .ok line := by
    intro leaf hMem
    cases hSwitch : ModeSwitch.ofLeaf? leaf with
    | some switch => exact ModeSwitch.ofOperation_of_switch hSwitch u
    | none =>
        rcases exists_visit hSwitch hMem modes with ⟨s, hVisit, rfl⟩
        exact hLines s hVisit
  rcases Listing.ofLeaves_complete hAll with ⟨hFault, hListed⟩
  refine ⟨hFault, visits_forall₂ ?_ hListed modes⟩
  intro leaf line hLine
  exact (ModeSwitch.ofLine?_ofOperation hLine).symm

end Machine

end Joinery
