import Joinery.Proofs.Gcode.Motions
import Joinery.Proofs.Machine.Lines
import Joinery.Proofs.Machine.Placement

/-
  Lengths are converted to one unit when a program is
  compiled, but read in the unit that a scope has switched
  the machine to. The two agree on a length exactly when
  they are the same unit, or the length is negligible.

  Key definitions include:
    * `Operation.IsMeasured`
    * `Value.IsNegligible`
    * `Machine.Tells`

  Key theorems include:
    * `Machine.hundredth_iff`
    * `Machine.line_tells_iff`
    * `Machine.scoped_lengths_hold_iff`
    * `Machine.scoped_inch_reads_as_its_millimeters`
-/

namespace Joinery

------------------------------------------------------------
-- Motions With Lengths
------------------------------------------------------------

/- A motion with an ordinary length for each axis that it names. -/
def Operation.IsMeasured
    (op : Operation) : Prop :=
  ∃ mnemonic entries,
    op = Instruction.known mnemonic [.dict entries] ∧
      mnemonic ∈ Instruction.motions ∧
      ∀ e ∈ entries,
        (∃ axis : Axis, e.1 = .text axis.name) ∧ e.2.IsOrdinary

/- The values that an instruction names. -/
def Operation.entries : Operation → Entries
  | .instruction _ [.dict entries] => entries
  | _ => []

------------------------------------------------------------
-- Reading Lengths
------------------------------------------------------------

namespace Machine

/-
  A word tells a machine the length of an entry, to the
  hundredth of the unit that the machine is in.
-/
def WordTells
    (u : LengthUnit)
    (e : Value × Value)
    (word : Word) : Prop :=
  (∃ axis : Axis, e.1 = .text axis.name ∧
    word.address = .char axis.address) ∧
  ∃ length, e.2.length? = some length ∧
    |word.number - u.inUnit length| ≤ 1 / 100

/-
  A line that a machine reaches in some modes tells it the
  lengths of the leaf that it is made of.
-/
def Tells
    (s : Situated Operation)
    (t : Situated Text) : Prop :=
  ∃ block, Block.ofLine? t.item = some block ∧
    List.Forall₂ (WordTells t.modes.unit) s.item.entries block.words

end Machine

/-
  A length is negligible between two units: it is shown in
  the one as a hundredth at most, and is a hundredth of the
  other at most.
-/
def Value.IsNegligible
    (printed read : LengthUnit)
    (v : Value) : Prop :=
  ∃ length r, v.length? = some length ∧ Line.Shows printed v r ∧
    |r| ≤ 1 / 100 ∧ |read.inUnit length| ≤ 1 / 100

namespace Machine

/- Hundredths that are fewer than one more than some are at most these. -/
theorem hundredths_le
    {k n : Int}
    (hLess : |(k : Rat) / 100| < (n + 1) / 100) :
    |(k : Rat) / 100| ≤ n / 100 := by
  rw [abs_div, abs_of_pos (by norm_num : (0 : Rat) < 100)] at hLess ⊢
  have hInt : |k| < n + 1 := by
    exact_mod_cast (div_lt_div_iff_of_pos_right (by norm_num)).mp hLess
  refine div_le_div_of_nonneg_right ?_ (by norm_num)
  exact_mod_cast Int.lt_add_one_iff.mp hInt

/- Less than a hundredth is none. -/
theorem hundredths_eq_zero
    {k : Int}
    (hLess : |(k : Rat) / 100| < 1 / 100) :
    (k : Rat) / 100 = 0 := by
  have hNone : |(k : Rat) / 100| ≤ ((0 : Int) : Rat) / 100 :=
    hundredths_le (by simpa using hLess)
  rw [Int.cast_zero, zero_div] at hNone
  exact abs_nonpos_iff.mp hNone

/- Hundredths of a millimetre read as inches. -/
theorem hundredths_of_millimeter
    {k : Int}
    {inches : Rat}
    (hPrinted : |(k : Rat) / 100 - 127 / 5 * inches| ≤ 6 / 1000) :
    |(k : Rat) / 100 - inches| ≤ 1 / 100 ↔
      |(k : Rat) / 100| ≤ 1 / 100 ∧ |inches| ≤ 1 / 100 := by
  rcases abs_le.mp hPrinted with ⟨hBelow, hAbove⟩
  constructor
  · intro hRead
    rcases abs_le.mp hRead with ⟨hLow, hHigh⟩
    have hFew : |(k : Rat) / 100| < ((1 : Int) + 1) / 100 := by
      push_cast
      exact abs_lt.mpr ⟨by linarith, by linarith⟩
    have hOne := hundredths_le hFew
    push_cast at hOne
    exact ⟨hOne, abs_le.mpr ⟨by linarith, by linarith⟩⟩
  · rintro ⟨hOne, -⟩
    rcases abs_le.mp hOne with ⟨hLow, hHigh⟩
    exact abs_le.mpr ⟨by linarith, by linarith⟩

/- Hundredths of an inch read as millimetres. -/
theorem hundredths_of_inch
    {k : Int}
    {inches : Rat}
    (hPrinted : |(k : Rat) / 100 - inches| ≤ 6 / 1000) :
    |(k : Rat) / 100 - 127 / 5 * inches| ≤ 1 / 100 ↔
      |(k : Rat) / 100| ≤ 1 / 100 ∧ |127 / 5 * inches| ≤ 1 / 100 := by
  rcases abs_le.mp hPrinted with ⟨hBelow, hAbove⟩
  constructor
  · intro hRead
    rcases abs_le.mp hRead with ⟨hLow, hHigh⟩
    have hNone : (k : Rat) / 100 = 0 :=
      hundredths_eq_zero (abs_lt.mpr ⟨by linarith, by linarith⟩)
    rw [hNone, zero_sub, abs_neg] at hRead
    rw [hNone, abs_zero]
    exact ⟨by norm_num, hRead⟩
  · rintro ⟨-, hSmall⟩
    rcases abs_le.mp hSmall with ⟨hLow, hHigh⟩
    have hNone : (k : Rat) / 100 = 0 :=
      hundredths_eq_zero (abs_lt.mpr ⟨by linarith, by linarith⟩)
    rw [hNone, zero_sub, abs_neg]
    exact hSmall

/-
  Hundredths that are right in one unit are right in another
  one only if both numbers are a hundredth at most: an inch
  is more than twice as long as a millimetre.
-/
theorem hundredth_iff
    {k : Int}
    {length : Rat}
    {u w : LengthUnit}
    (hPrinted : |(k : Rat) / 100 - u.inUnit length| ≤ 6 / 1000) :
    |(k : Rat) / 100 - w.inUnit length| ≤ 1 / 100 ↔
      w = u ∨
        |(k : Rat) / 100| ≤ 1 / 100 ∧ |w.inUnit length| ≤ 1 / 100 := by
  have hMillimeters :
      LengthUnit.millimeter.inUnit length =
        127 / 5 * LengthUnit.inch.inUnit length := by
    simp only [LengthUnit.inUnit, LengthUnit.millimeters]
    ring
  by_cases hSame : w = u
  · subst hSame
    simp only [true_or, iff_true]
    linarith
  · simp only [hSame, false_or]
    cases u with
    | millimeter =>
        cases w with
        | millimeter => exact absurd rfl hSame
        | inch =>
            rw [hMillimeters] at hPrinted
            exact hundredths_of_millimeter hPrinted
    | inch =>
        cases w with
        | millimeter =>
            rw [hMillimeters]
            exact hundredths_of_inch hPrinted
        | inch => exact absurd rfl hSame

end Machine

------------------------------------------------------------
-- Lines Of Measured Motions
------------------------------------------------------------

/- A value is negligible if its length and what it is shown as are. -/
theorem Value.isNegligible_iff
    {printed read : LengthUnit}
    {v : Value}
    {length r : Rat}
    (hLength : v.length? = some length)
    (hShows : Line.Shows printed v r) :
    v.IsNegligible printed read ↔
      |r| ≤ 1 / 100 ∧ |read.inUnit length| ≤ 1 / 100 := by
  constructor
  · rintro ⟨length', r', hLength', hShows', hSmall⟩
    rw [hLength] at hLength'
    cases hLength'
    rw [hShows.unique hShows']
    exact hSmall
  · intro hSmall
    exact ⟨length, r, hLength, hShows, hSmall⟩

namespace Machine

/-
  An entry of a measured motion is printed as a word, which
  tells its length in the unit it is printed in, and in the
  other one if the length is negligible.
-/
theorem exists_word
    {e : Value × Value}
    (hAxis : ∃ axis : Axis, e.1 = .text axis.name)
    (hOrdinary : e.2.IsOrdinary)
    (u : LengthUnit) :
    ∃ word : Word,
      (∃ t, Line.word u e.1 e.2 = .ok t ∧ word.IsIn t) ∧
        ∀ w, WordTells w e word ↔ w = u ∨ e.2.IsNegligible u w := by
  rcases hAxis with ⟨axis, hAxis⟩
  rcases Line.ofValue_ordinary hOrdinary u with
    ⟨length, numeral, k, hLength, hPrinted, hDenotes, hClose⟩
  have hShows : Line.Shows u e.2 (k / 100) :=
    ⟨numeral, hPrinted, hDenotes⟩
  refine ⟨⟨.char axis.address, (k : Rat) / 100⟩, ?_, fun w => ?_⟩
  · rw [hAxis]
    exact axis.exists_word hShows
  · rw [Value.isNegligible_iff hLength hShows, ← hundredth_iff hClose]
    constructor
    · rintro ⟨-, length', hSame, hNear⟩
      rw [hLength] at hSame
      cases hSame
      exact hNear
    · intro hNear
      exact ⟨⟨axis, hAxis, rfl⟩, length, hLength, hNear⟩

/-
  A measured motion has a line, which tells a machine its
  lengths if it is in the unit that the line is printed in,
  or if they are negligible.
-/
theorem line_tells_iff
    {s : Situated Operation}
    (hMeasured : s.item.IsMeasured)
    (u : LengthUnit) :
    ∃ line, Line.ofOperation u s.item = .ok line ∧
      ∀ modes, Tells s ⟨modes, line⟩ ↔
        ∀ e ∈ s.item.entries,
          modes.unit = u ∨ e.2.IsNegligible u modes.unit := by
  rcases hMeasured with ⟨mnemonic, entries, hItem, hMotion, hEntries⟩
  rw [hItem]
  rcases exists_forall₂ fun e hMem =>
      exists_word (hEntries e hMem).1 (hEntries e hMem).2 u with
    ⟨words, hWords⟩
  rcases Block.ofLine?_ofInstruction
      (Instruction.keyword_head mnemonic)
      (Instruction.blank_not_mem_head hMotion)
      (hWords.imp fun e word hWord => hWord.1) with
    ⟨line, hLine, hBlock⟩
  refine ⟨line, hLine, fun modes => ?_⟩
  have hTells :
      Tells s ⟨modes, line⟩ ↔
        List.Forall₂ (WordTells modes.unit) entries words := by
    simp [Tells, hBlock, hItem, Operation.entries, Instruction.known]
  rw [hTells]
  exact forall₂_iff_of_related (fun e word hWord => hWord.2 modes.unit)
    hWords

/- A measured motion switches no mode. -/
theorem ofLeaf?_of_measured
    {op : Operation}
    (hMeasured : op.IsMeasured) :
    ModeSwitch.ofLeaf? op = none := by
  rcases hMeasured with ⟨mnemonic, entries, rfl, -, -⟩
  rfl

------------------------------------------------------------
-- Programs Of Measured Motions
------------------------------------------------------------

open Recipe

/-
  A program of scopes and measured motions is listed without
  a fault, in the unit that it starts in. A machine that
  starts there and reads the lines is told every length
  exactly if each one is in a scope of that same unit, or is
  negligible.
-/
theorem scoped_lengths_hold_iff
    (recipe : Recipe)
    (ambient : Ambient)
    (ops : List Operation)
    (hScopes : recipe.scopesOnly = true)
    (hBuilt : recipe.run ambient = .ok (.group ops))
    (hMeasured : ∀ s ∈ recipe.placed ambient, s.item.IsMeasured) :
    (Listing.ofProgram ambient.unit (.group ops)).fault = none ∧
      (List.Forall₂ Tells (recipe.placed ambient)
          (visits ModeSwitch.ofLine? ambient
            (Listing.ofProgram ambient.unit (.group ops)).lines) ↔
        ∀ s ∈ recipe.placed ambient, ∀ e ∈ s.item.entries,
          s.modes.unit = ambient.unit ∨
            e.2.IsNegligible ambient.unit s.modes.unit) := by
  have hVisits :
      visits ModeSwitch.ofLeaf? ambient (Operation.allLeaves ops) =
        recipe.placed ambient := by
    rw [← Operation.leaves_group]
    exact (built_coheres recipe hScopes hBuilt fun s hMem =>
      ofLeaf?_of_measured (hMeasured s hMem)).1
  rw [Listing.ofProgram_group]
  have hLines :
      ∀ s ∈ visits ModeSwitch.ofLeaf? ambient (Operation.allLeaves ops),
        ∃ line, Line.ofOperation ambient.unit s.item = .ok line := by
    intro s hMem
    rw [hVisits] at hMem
    rcases line_tells_iff (hMeasured s hMem) ambient.unit with
      ⟨line, hLine, -⟩
    exact ⟨line, hLine⟩
  rcases visits_lines hLines with ⟨hFault, hRead⟩
  rw [hVisits] at hRead
  have hBoth := (List.forall₂_and_left _ _).mpr ⟨hMeasured, hRead⟩
  refine ⟨hFault, forall₂_iff_of_related ?_ hBoth⟩
  rintro s ⟨modes, line⟩ ⟨hMotion, rfl, hLine⟩
  rcases line_tells_iff hMotion ambient.unit with
    ⟨line', hLine', hTells⟩
  rw [hLine] at hLine'
  cases hLine'
  exact hTells s.modes

/- A rapid move of an inch in a scope of inches. -/
def scopedInch : Recipe :=
  unitScope (.value (.unit .inch))
    (group
      [ rapid [("x", .value (.quantity (.unit .inch) (.int 1)))] ])

theorem scopedInch_isMeasured
    (u : LengthUnit) :
    ∀ s ∈ scopedInch.placed { unit := u }, s.item.IsMeasured := by
  intro s hMem
  have hSame : s = ⟨{ unit := .inch }, Instruction.known "g0"
      [.dict [(.text "x", .quantity (.unit .inch) (.int 1))]]⟩ :=
    List.mem_singleton.mp hMem
  subst hSame
  refine ⟨"g0", _, rfl, by decide, fun e hEntry => ?_⟩
  rw [List.mem_singleton.mp hEntry]
  refine ⟨⟨.x, rfl⟩, _, _, .inch, .int 1, 1, rfl, rfl, .int 1, rfl, ?_⟩
  norm_num

/- In a program that starts in inches, the inch is told. -/
theorem scopedInch_told_inInches :
    ∃ ops, scopedInch.run { unit := .inch } = .ok (.group ops) ∧
      List.Forall₂ Tells (scopedInch.placed { unit := .inch })
        (visits ModeSwitch.ofLine? { unit := .inch }
          (Listing.ofProgram .inch (.group ops)).lines) := by
  refine ⟨_, rfl, (scoped_lengths_hold_iff scopedInch { unit := .inch } _
    rfl rfl (scopedInch_isMeasured .inch)).2.mpr ?_⟩
  intro s hMem e _
  left
  rw [List.mem_singleton.mp hMem]

/- In one that starts in millimetres, it is read as 25.4 inches. -/
theorem scoped_inch_reads_as_its_millimeters :
    ∃ ops, scopedInch.scopesOnly = true ∧
      scopedInch.run { } = .ok (.group ops) ∧
      (∀ s ∈ scopedInch.placed { }, s.item.IsMeasured) ∧
      (Listing.ofProgram .millimeter (.group ops)).lines =
        [("G20" : Text), "G0 X25.40", "G28"] ∧
      ¬ List.Forall₂ Tells (scopedInch.placed { })
        (visits ModeSwitch.ofLine? { }
          (Listing.ofProgram .millimeter (.group ops)).lines) := by
  have hLines :
      (Listing.ofProgram .millimeter (.group
        [ Instruction.ofUnit .inch,
          .group [Instruction.rapid
            [("x", .quantity (.unit .inch) (.int 1))]],
          Instruction.ofUnit .millimeter ])).lines =
        [("G20" : Text), "G0 X25.40", "G28"] := by
    decide +kernel
  refine ⟨_, rfl, rfl, scopedInch_isMeasured .millimeter, hLines, ?_⟩
  have hBlock :
      Block.ofLine? "G0 X25.40" =
        some ⟨[.char 'G', .char '0'], [⟨.char 'X', 2540 / 100⟩]⟩ := by
    decide +kernel
  intro hAll
  have hTold :
      List.Forall₂ Tells (scopedInch.placed { })
        (visits ModeSwitch.ofLine? { }
          [("G20" : Text), "G0 X25.40", "G28"]) :=
    hLines ▸ hAll
  rcases List.forall₂_cons.mp hTold with ⟨⟨block, hRead, hWords⟩, -⟩
  cases hBlock.symm.trans hRead
  rcases List.forall₂_cons.mp hWords with ⟨⟨-, length, hLength, hNear⟩, -⟩
  cases hLength
  have hFar :
      ¬ |2540 / 100 -
        LengthUnit.inch.inUnit ((1 : Int) * LengthUnit.inch.millimeters)| ≤
          1 / 100 := by
    norm_num [LengthUnit.inUnit, LengthUnit.millimeters, abs_le]
  exact hFar hNear

end Machine

end Joinery
