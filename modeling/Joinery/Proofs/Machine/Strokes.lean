import Joinery.Proofs.Machine.Deeds

/-
  A machine that follows deeds has a tool that is somewhere.
  Coordinates are absolute or relative by the mode that the
  machine is in, and each cut is a stroke from where the tool
  is to where the cut leads.

  Key definitions include:
    * `Tool`
    * `Tool.step`
    * `Tool.strokes`

  Key theorems include:
    * `Tool.strokes_append`
    * `Tool.strokes_of_no_cut`
-/

namespace Joinery

------------------------------------------------------------
-- Tools
------------------------------------------------------------

/- Where a tool is, as the machine counts. -/
structure Spot where
  x : Rat
  y : Rat
  z : Rat
  deriving DecidableEq

/- The tool of a machine in some modes. -/
structure Tool where
  modes : Ambient
  spot : Spot

/- What a tool cuts on its way from one spot to another. -/
structure Stroke where
  start : Spot
  finish : Spot
  deriving DecidableEq

namespace Tool

/- A coordinate after a motion that may name it. -/
def coordinate
    (mode : Positioning)
    (here : Rat)
    (named : Option Rat) : Rat :=
  match named, mode with
  | none, _ => here
  | some there, .absolute => there
  | some there, .relative => here + there

/- The spot that a motion leads to. -/
def target
    (tool : Tool)
    (motion : Motion) : Spot :=
  { x := coordinate tool.modes.mode tool.spot.x motion.x
    y := coordinate tool.modes.mode tool.spot.y motion.y
    z := coordinate tool.modes.mode tool.spot.z motion.z }

/-
  The tool after one deed. Where it is declared to be, it is,
  in whatever mode the machine is.
-/
def step
    (tool : Tool) : Deed → Tool
  | .switch change => { tool with modes := change.apply tool.modes }
  | .rapid motion => { tool with spot := tool.target motion }
  | .cut motion => { tool with spot := tool.target motion }
  | .declare motion =>
      { tool with
        spot :=
          { x := motion.x.getD tool.spot.x
            y := motion.y.getD tool.spot.y
            z := motion.z.getD tool.spot.z } }
  | _ => tool

/- The tool after several deeds. -/
def after
    (tool : Tool)
    (deeds : List Deed) : Tool :=
  deeds.foldl step tool

/- The strokes of a tool that follows deeds, in order. -/
def strokes
    (tool : Tool) : List Deed → List Stroke
  | [] => []
  | .cut motion :: rest =>
      ⟨tool.spot, tool.target motion⟩ ::
        strokes (tool.step (.cut motion)) rest
  | deed :: rest => strokes (tool.step deed) rest

------------------------------------------------------------
-- Deeds One After The Other
------------------------------------------------------------

@[simp] theorem after_nil
    (tool : Tool) :
    tool.after [] = tool := rfl

@[simp] theorem after_cons
    (tool : Tool)
    (deed : Deed)
    (rest : List Deed) :
    tool.after (deed :: rest) = (tool.step deed).after rest := rfl

theorem after_append
    (tool : Tool)
    (front rest : List Deed) :
    tool.after (front ++ rest) = (tool.after front).after rest :=
  List.foldl_append

theorem strokes_cons_other
    {deed : Deed}
    (hOther : ¬ deed.IsCut)
    (tool : Tool)
    (rest : List Deed) :
    tool.strokes (deed :: rest) = (tool.step deed).strokes rest := by
  cases deed with
  | cut motion => exact absurd ⟨motion, rfl⟩ hOther
  | _ => rfl

/- What comes later is cut from where the tool was left. -/
theorem strokes_append
    (tool : Tool)
    (front rest : List Deed) :
    tool.strokes (front ++ rest) =
      tool.strokes front ++ (tool.after front).strokes rest := by
  induction front generalizing tool with
  | nil => rfl
  | cons deed front ih =>
      by_cases hCut : deed.IsCut
      · rcases hCut with ⟨motion, rfl⟩
        exact congrArg (List.cons _) (ih _)
      · rw [List.cons_append, strokes_cons_other hCut,
          strokes_cons_other hCut, ih, after_cons]

/- Where nothing is cut there are no strokes. -/
theorem strokes_of_no_cut
    (tool : Tool)
    {deeds : List Deed}
    (hOther : ∀ deed ∈ deeds, ¬ deed.IsCut) :
    tool.strokes deeds = [] := by
  induction deeds generalizing tool with
  | nil => rfl
  | cons deed rest ih =>
      rw [strokes_cons_other (hOther deed (List.mem_cons_self ..))]
      exact ih _ fun later hMem =>
        hOther later (List.mem_cons_of_mem _ hMem)

end Tool

end Joinery
