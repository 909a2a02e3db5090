import Joinery.Proofs.Gcode.Clear
import Joinery.Proofs.Log.Lines

/-
  Which lines of records can be written to a file. A line for
  machines always can, as JSON writes reserved code points in
  ASCII. A line for people can if there are none in the
  message and in the context.

  Key definitions include:
    * `Named.IsClear`
    * `Layout.Suits`

  Key theorems include:
    * `Record.line_isClear`
-/

namespace Joinery

/- No name and no value of a context has reserved code points. -/
def Named.IsClear
    (context : Named) : Prop :=
  ∀ e ∈ context, e.1.IsClear ∧ e.2.IsClear

/- A layout leaves no reserved code point of a context in its lines. -/
def Layout.Suits
    (layout : Layout)
    (context : Named) : Prop :=
  layout.json = true ∨ context.IsClear

/- What a clear value is written as is clear, if it is a text or a unit. -/
theorem Value.written_isClear
    {v : Value}
    {t : Text}
    (hText : v.text? = some t)
    (hClear : v.IsClear) :
    Yields Text.IsClear v.written := by
  rcases cases_of_text? hText with rfl | ⟨u, rfl⟩
  · exact Yields.ok (hClear t rfl)
  · exact Yields.ok
      ((Text.isClear_ofString "Unit.").append (Text.isClear_ofString u.name))

namespace Record

variable {context : Named}
variable {record : Record}

theorem contextWords_areClear
    (hStrings : context.IsOfStrings)
    (hClear : context.IsClear) :
    Yields (fun words => ∀ word ∈ words, word.IsClear)
      (contextWords context) := by
  refine Yields.mapM fun e hMem => ?_
  rcases hStrings e hMem with ⟨t, hText⟩
  have hShown := Value.written_isClear hText (hClear e hMem).2
  refine hShown.bind fun shown hShown => Yields.ok ?_
  have hName := (hClear e hMem).1.append (Text.isClear_ofString "=")
  exact hName.append hShown

/- A line for people is made of the message, the context, and strings. -/
theorem humanLine_isClear
    (hStrings : context.IsOfStrings)
    (hClear : context.IsClear)
    (hText : Yields Text.IsClear record.text)
    (hFailure : record.failure = none)
    (colour : Bool) :
    Yields Text.IsClear (record.humanLine colour context) := by
  unfold humanLine
  rw [hFailure]
  refine Yields.bind (Yields.any _) fun time _ => ?_
  refine (contextWords_areClear hStrings hClear).bind fun words hWords => ?_
  refine hText.bind fun message hMessage => Yields.ok ?_
  refine Text.IsClear.joined " " fun part hPart => ?_
  rcases List.mem_append.mp hPart with hPart | hPart
  · rcases List.mem_append.mp hPart with hPart | hPart
    · simp only [List.mem_cons, List.not_mem_nil, or_false] at hPart
      rcases hPart with rfl | rfl | rfl | rfl <;>
        exact Text.isClear_ofString _
    · split at hPart
      · cases hPart
      · rw [List.mem_singleton.mp hPart]
        exact (Text.IsClear.joined " " hWords).append
          (Text.isClear_ofString " |")
  · rw [List.mem_singleton.mp hPart]
    exact hMessage

/- A line is clear if its layout suits the context. -/
theorem line_isClear
    {layout : Layout}
    (hStrings : context.IsOfStrings)
    (hSuits : layout.Suits context)
    (hText : Yields Text.IsClear record.text)
    (hFailure : record.failure = none) :
    Yields Text.IsClear (record.line layout context) := by
  unfold line
  split
  · intro text hLine
    rcases Outcome.map_eq_ok_iff.mp hLine with ⟨s, -, rfl⟩
    exact Text.isClear_ofString s
  · rename_i hHuman
    exact humanLine_isClear hStrings (hSuits.resolve_left hHuman) hText
      hFailure layout.colour

end Record

end Joinery
