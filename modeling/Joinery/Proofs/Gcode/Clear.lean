import Joinery.Encoding.Utf8
import Joinery.Proofs.Dado.Steps
import Joinery.Proofs.Gcode.Emission
import Joinery.Proofs.Outcome
import Joinery.Proofs.Related
import Joinery.Proofs.Yields

/-
  A text without reserved code points can be written to a
  file. The lines of a program are such texts, if the
  mnemonics, the names of axes and the messages in it are.
  Those of a generated program are.

  Key definitions include:
    * `Text.IsClear`
    * `Operation.IsClear`

  Key theorems include:
    * `Encoding.encode?_ofFiles`
    * `Line.ofOperation_isClear`
    * `Listing.text_isClear`
    * `Plan.leaves_areClear`
-/

namespace Joinery

------------------------------------------------------------
-- Texts
------------------------------------------------------------

namespace Text

/- All code points of a text are characters. -/
def IsClear
    (t : Text) : Prop :=
  ∀ l ∈ t.letters, ∃ c, l = .char c

theorem isClear_ofString
    (s : String) :
    IsClear (s : Text) := by
  intro l hMem
  rw [letters_ofString] at hMem
  rcases List.mem_map.mp hMem with ⟨c, -, rfl⟩
  exact ⟨c, rfl⟩

/- A text of characters is a string. -/
theorem isClear_iff
    (t : Text) :
    t.IsClear ↔ t.rest = [] := by
  rcases t with ⟨start, rest⟩
  constructor
  · intro hClear
    cases rest with
    | nil => rfl
    | cons e others =>
        rcases hClear (.surrogate e.1) (by simp [letters]) with ⟨c, hChar⟩
        cases hChar
  · rintro ⟨⟩
    exact isClear_ofString start

theorem IsClear.append
    {s t : Text}
    (hFirst : s.IsClear)
    (hSecond : t.IsClear) :
    IsClear (s ++ t) := by
  intro l hMem
  rw [letters_append, List.mem_append] at hMem
  rcases hMem with hMem | hMem
  · exact hFirst l hMem
  · exact hSecond l hMem

theorem IsClear.join
    {ts : List Text}
    (hEach : ∀ t ∈ ts, t.IsClear) :
    IsClear (join ts) := by
  intro l hMem
  rw [letters_join, List.mem_flatMap] at hMem
  rcases hMem with ⟨t, hText, hLetter⟩
  exact hEach t hText l hLetter

theorem IsClear.joined
    (separator : String)
    {ts : List Text}
    (hEach : ∀ t ∈ ts, t.IsClear) :
    IsClear (joined separator ts) := by
  cases ts with
  | nil => exact fun l hMem => nomatch hMem
  | cons t rest =>
      intro l hMem
      rw [Text.joined, letters_foldl_separated, List.mem_append,
        List.mem_flatMap] at hMem
      rcases hMem with hFirst | ⟨next, hNext, hLetter⟩
      · exact hEach t (List.mem_cons_self ..) l hFirst
      · rcases List.mem_append.mp hLetter with hBetween | hLetter
        · rw [← letters_ofString] at hBetween
          exact isClear_ofString separator l hBetween
        · exact hEach next (List.mem_cons_of_mem _ hNext) l hLetter

theorem IsClear.upperCase
    {t : Text}
    (hClear : t.IsClear) :
    IsClear t.upperCase := by
  rw [isClear_iff] at hClear ⊢
  rw [Text.upperCase, mapStrings, hClear]
  rfl

end Text

/- A text of characters has bytes in the encoding of files. -/
theorem Encoding.encode?_ofFiles
    {t : Text}
    (hClear : t.IsClear) :
    encode? ofFiles t = some (utf8 t.start) := by
  rw [Text.isClear_iff] at hClear
  unfold encode? Text.string?
  rw [hClear]
  rfl

------------------------------------------------------------
-- Lines
------------------------------------------------------------

/- What is read as text in a value is all characters. -/
def Value.IsClear
    (v : Value) : Prop :=
  ∀ t, v.text? = some t → t.IsClear

theorem Value.isClear_text
    (s : String) :
    Value.IsClear (.text s) := by
  rintro _ ⟨⟩
  exact Text.isClear_ofString s

/- So it is in an argument: the names of axes, a token, or a message. -/
def Value.IsClearArgument : Value → Prop
  | .dict entries => ∀ e ∈ entries, e.1.IsClear
  | .token name => name.IsClear
  | v => v.IsClear

/- So it is in an instruction. -/
def Operation.IsClear : Operation → Prop
  | .instruction mnemonic args =>
      mnemonic.IsClear ∧ ∀ arg ∈ args, arg.IsClearArgument
  | _ => True

theorem Yields.mapM
    {α β : Type}
    {claim : β → Prop}
    {compute : α → Outcome β}
    {items : List α}
    (hEach : ∀ a ∈ items, Yields claim (compute a)) :
    Yields (fun results => ∀ b ∈ results, claim b)
      (items.mapM compute) := by
  intro results hResults b hMem
  have hRelated := Outcome.forall₂_of_mapM hResults
  rcases exists_related hRelated hMem with ⟨a, hItem, hComputed⟩
  exact hEach a hItem b hComputed

namespace Line

theorem keyword_isClear
    {name : Value}
    (hClear : name.IsClear) :
    Yields Text.IsClear (keyword name) := by
  unfold keyword
  cases hText : name.text? with
  | none => exact Yields.error _
  | some t => exact Yields.ok (hClear t hText).upperCase

/- A numeral holds characters only, so that a word does as its name. -/
theorem word_isClear
    (unit : LengthUnit)
    {name : Value}
    (hClear : name.IsClear)
    (v : Value) :
    Yields Text.IsClear (word unit name v) := by
  unfold word
  refine Yields.bind (keyword_isClear hClear) fun key hKey => ?_
  refine Yields.bind (Yields.any _) fun numeral _ => ?_
  exact Yields.ok (hKey.append (Text.isClear_ofString numeral))

theorem ofArgument_isClear
    (unit : LengthUnit)
    {arg : Value}
    (hClear : arg.IsClearArgument) :
    Yields Text.IsClear (ofArgument unit arg) := by
  unfold ofArgument
  split
  · rename_i entries
    have hWords :
        Yields (fun words => ∀ t ∈ words, t.IsClear)
          (entries.mapM fun e => word unit e.1 e.2) :=
      Yields.mapM fun e hMem => word_isClear unit (hClear e hMem) e.2
    exact hWords.bind fun words hEach =>
      Yields.ok (Text.IsClear.joined " " hEach)
  · exact keyword_isClear hClear
  · rename_i hDict hToken
    have hValue : arg.IsClear := by
      unfold Value.IsClearArgument at hClear
      split at hClear
      · exact absurd rfl (hDict _)
      · exact absurd rfl (hToken _)
      · exact hClear
    cases hText : arg.text? with
    | none => exact Yields.error _
    | some t => exact Yields.ok (hValue t hText)

/- The line of a clear operation is all characters. -/
theorem ofOperation_isClear
    (unit : LengthUnit)
    {op : Operation}
    (hClear : op.IsClear) :
    Yields Text.IsClear (ofOperation unit op) := by
  cases op with
  | instruction mnemonic args =>
      unfold ofOperation ofInstruction
      refine Yields.bind (keyword_isClear hClear.1) fun head hHead => ?_
      have hRest :
          Yields (fun rest => ∀ t ∈ rest, t.IsClear)
            (args.mapM (ofArgument unit)) :=
        Yields.mapM fun arg hMem =>
          ofArgument_isClear unit (hClear.2 arg hMem)
      refine hRest.bind fun rest hEach => ?_
      refine Yields.ok (Text.IsClear.joined " " ?_)
      intro t hMem
      rcases List.mem_cons.mp hMem with rfl | hLater
      · exact hHead
      · exact hEach t hLater
  | group ops => exact Yields.error _
  | foreign name => exact Yields.error _
  | value v => exact Yields.error _

end Line

namespace Listing

theorem lines_areClear
    (unit : LengthUnit)
    {leaves : List Operation}
    (hEach : ∀ leaf ∈ leaves, leaf.IsClear) :
    ∀ line ∈ (ofLeaves unit leaves).lines, line.IsClear := by
  induction leaves with
  | nil => exact fun _ hMem => absurd hMem List.not_mem_nil
  | cons leaf rest ih =>
      rw [ofLeaves]
      have hFirst :=
        Line.ofOperation_isClear unit (hEach leaf (List.mem_cons_self ..))
      cases hLine : Line.ofOperation unit leaf with
      | error fault => exact fun _ hMem => absurd hMem List.not_mem_nil
      | ok line =>
          intro other hMem
          rcases List.mem_cons.mp hMem with rfl | hLater
          · exact hFirst _ hLine
          · exact ih (fun later hMem => hEach later
              (List.mem_cons_of_mem _ hMem)) other hLater

/- The text of clear operations is all characters, if it breaks off as well. -/
theorem text_isClear
    (unit : LengthUnit)
    {leaves : List Operation}
    (hEach : ∀ leaf ∈ leaves, leaf.IsClear) :
    (ofLeaves unit leaves).text.IsClear := by
  refine Text.IsClear.join ?_
  intro t hMem
  rcases List.mem_map.mp hMem with ⟨line, hLine, rfl⟩
  exact (lines_areClear unit hEach line hLine).append
    (Text.isClear_ofString "\n")

end Listing

------------------------------------------------------------
-- Generated Programs
------------------------------------------------------------

theorem Instruction.known_isClear
    (mnemonic : String)
    {args : List Value}
    (hArgs : ∀ arg ∈ args, arg.IsClearArgument) :
    (Instruction.known mnemonic args).IsClear :=
  ⟨Value.isClear_text mnemonic, hArgs⟩

theorem Instruction.modes_areClear
    (u : LengthUnit)
    (mode : Positioning) :
    (Instruction.ofUnit u).IsClear ∧
      (Instruction.ofPositioning mode).IsClear :=
  ⟨known_isClear _ (fun _ hMem => nomatch hMem),
    known_isClear _ (fun _ hMem => nomatch hMem)⟩

namespace Plan

/- A message is a fixed one, and the other instructions are known. -/
theorem stillLeaves_areClear
    {op : Operation}
    (hMem : op ∈ stillLeaves) :
    op.IsClear := by
  have hSay : ∀ message, (say message).IsClear := by
    intro message
    refine Instruction.known_isClear _ ?_
    intro arg hArg
    rw [List.mem_singleton.mp hArg]
    exact Value.isClear_text message
  simp only [stillLeaves, List.mem_cons, List.not_mem_nil, or_false]
    at hMem
  rcases hMem with rfl | rfl | rfl | rfl | rfl | rfl | rfl
  · exact hSay _
  · refine Instruction.known_isClear _ ?_
    intro arg hArg
    rw [List.mem_singleton.mp hArg]
    exact Value.isClear_text "z"
  · exact Instruction.known_isClear _ fun _ hArg =>
      absurd hArg List.not_mem_nil
  · exact hSay _
  · exact hSay _
  · exact hSay _
  · exact hSay _

/- In a motion only axes and the feed rate are named. -/
theorem leaf_isClear
    (plan : Plan)
    {settings : Settings}
    {count : Nat}
    {step : Step}
    (hMem : step ∈ programSteps settings count) :
    (plan.leaf step).IsClear := by
  cases step with
  | other op => exact stillLeaves_areClear (mem_stillLeaves hMem)
  | motion mnemonic axes feeds =>
      refine Instruction.known_isClear _ ?_
      intro arg hArg
      rw [List.mem_singleton.mp hArg]
      intro e hEntry
      rcases List.mem_append.mp hEntry with hAxis | hFeed
      · rcases List.mem_map.mp hAxis with ⟨⟨axis, _⟩, -, rfl⟩
        cases axis <;> exact Value.isClear_text _
      · rcases List.mem_map.mp hFeed with ⟨_, -, rfl⟩
        exact Value.isClear_text "f"

/- The leaves of a generated program are clear. -/
theorem leaves_areClear
    (plan : Plan)
    (settings : Settings)
    (ambient : Ambient) :
    ∀ leaf ∈ (plan.program settings ambient).leaves, leaf.IsClear := by
  intro leaf hMem
  rw [leaves_program] at hMem
  have hModes := Instruction.modes_areClear
  simp only [List.mem_cons, List.mem_append, List.mem_map,
    List.not_mem_nil, or_false] at hMem
  rcases hMem with rfl | rfl | ⟨step, hStep, rfl⟩ | rfl | rfl | rfl
  · exact (hModes .millimeter _).2
  · exact (hModes _ .absolute).1
  · exact leaf_isClear plan (List.mem_append_left _ hStep)
  · exact (hModes _ .absolute).1
  · exact (hModes .millimeter _).2
  · exact stillLeaves_areClear (by simp [stillLeaves])

end Plan

end Joinery
