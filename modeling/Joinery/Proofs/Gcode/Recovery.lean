import Mathlib.Data.List.Forall2
import Joinery.Proofs.Gcode.Outline
import Joinery.Proofs.Decimal.Numerals

/-
  A program can be recovered from its outline, up to what the
  lines of its instructions leave open. The label of a group
  says how many operations follow, one level deeper, so where
  an operation ends is known before the rest is read.

  Key definitions include:
    * `Outline.IsCount`
    * `Outline.IsPlainLine`
    * `Outline.PrintsAlike`
    * `Outline.written`

  Key theorems include:
    * `Outline.entry_determined`
    * `Outline.entries_determine`
    * `Outline.entries_of_printsAlike`
    * `Outline.same_outline_iff`
-/

namespace Joinery

namespace Outline

------------------------------------------------------------
-- Labels
------------------------------------------------------------

/- A text has the form of a count: digits between brackets. -/
def IsCount
    (t : Text) : Prop :=
  ∃ ds, Decimal.AreDigits ds ∧ ds ≠ [] ∧
    t = Text.ofList ('[' :: ds ++ [']'])

/- A line is one line, and is not mistaken for a count. -/
def IsPlainLine
    (line : Text) : Prop :=
  .char '\n' ∉ line.letters ∧ ¬ IsCount line

/- All lines of instructions among the leaves are plain. -/
def ArePlain
    (unit : LengthUnit)
    (leaves : List Operation) : Prop :=
  ∀ leaf ∈ leaves, ∀ line, Line.Gives unit leaf line → IsPlainLine line

theorem ArePlain.left
    {unit : LengthUnit}
    {front back : List Operation}
    (hPlain : ArePlain unit (front ++ back)) :
    ArePlain unit front :=
  fun leaf hMem => hPlain leaf (List.mem_append_left back hMem)

theorem ArePlain.right
    {unit : LengthUnit}
    {front back : List Operation}
    (hPlain : ArePlain unit (front ++ back)) :
    ArePlain unit back :=
  fun leaf hMem => hPlain leaf (List.mem_append_right front hMem)

theorem groupLabel_toList
    (ops : List Operation) :
    (groupLabel ops).toList =
      '[' :: Decimal.digits ops.length ++ [']'] := by
  rw [groupLabel, String.toList_append, String.toList_append]
  rfl

theorem isCount_groupLabel
    (ops : List Operation) :
    IsCount (groupLabel ops) := by
  refine ⟨Decimal.digits ops.length, Decimal.digits_areDigits _,
    Decimal.digits_ne_nil _, ?_⟩
  rw [← groupLabel_toList, Text.ofList, String.ofList_toList]

/- Counts are one line. -/
theorem IsCount.newline_not_mem
    {t : Text}
    (hCount : IsCount t) :
    .char '\n' ∉ t.letters := by
  rcases hCount with ⟨ds, hDigits, -, rfl⟩
  rw [Text.ofList, Text.letters_ofString, String.toList_ofList]
  intro hMem
  rcases List.mem_map.mp hMem with ⟨c, hChar, hSame⟩
  cases hSame
  simp only [List.cons_append, List.mem_cons, List.mem_append,
    List.not_mem_nil, or_false] at hChar
  rcases hChar with hOpen | hDigit | hClose
  · cases hOpen
  · cases hDigits _ hDigit
  · cases hClose

/- Groups with one label hold as many operations. -/
theorem length_of_groupLabel
    {ops others : List Operation}
    (hSame : (groupLabel ops : Text) = groupLabel others) :
    ops.length = others.length := by
  have hStart : groupLabel ops = groupLabel others :=
    congrArg Text.start hSame
  have hChars := congrArg String.toList hStart
  rw [groupLabel_toList, groupLabel_toList] at hChars
  have hDigits := List.append_cancel_right (List.cons.inj hChars).2
  rw [← Decimal.naturalOf_digits ops.length, hDigits,
    Decimal.naturalOf_digits]

------------------------------------------------------------
-- Entries
------------------------------------------------------------

/- The code points that entries are written with. -/
def written
    (indent : Text)
    (shown : List Entry) : List Letter :=
  shown.flatMap fun e => (e.text indent).letters

/-
  Where a label ends and where the rest begins is known from the
  depth, as labels are one line each.
-/
theorem entry_determined
    {indent : Text}
    {depth : Nat}
    {label other : Text}
    (hLine : .char '\n' ∉ label.letters)
    (hOther : .char '\n' ∉ other.letters)
    {rest more : List Letter}
    (hSame :
      ((⟨depth, label⟩ : Entry).text indent).letters ++ rest =
        ((⟨depth, other⟩ : Entry).text indent).letters ++ more) :
    label = other ∧ rest = more := by
  rw [letters_entry, letters_entry] at hSame
  simp only [List.append_assoc, List.append_cancel_left_eq,
    List.singleton_append] at hSame
  have hSplit := congrArg (List.splitOn (.char '\n')) hSame
  rw [List.splitOn_append_cons_self_of_not_mem hLine,
    List.splitOn_append_cons_self_of_not_mem hOther] at hSplit
  have hLabel := Text.letters_injective (List.cons.inj hSplit).1
  subst hLabel
  exact ⟨rfl, (List.cons.inj (List.append_cancel_left hSame)).2⟩

/-
  How the entries of an operation start: with the label of a
  group, before the entries of what it holds, or with the line
  of an instruction, alone.
-/
inductive Opens
    (unit : LengthUnit)
    (depth : Nat) : Operation → Text → List Entry → Prop where
  | group
      {ops : List Operation}
      {inner : List Entry}
      (hInner : allEntries unit (depth + 1) ops = .ok inner) :
      Opens unit depth (.group ops) (groupLabel ops) inner
  | instruction
      {mnemonic : Value}
      {args : List Value}
      {line : Text}
      (hLine : Line.ofInstruction unit mnemonic args = .ok line) :
      Opens unit depth (.instruction mnemonic args) line []

theorem exists_opens
    {unit : LengthUnit}
    {depth : Nat}
    {op : Operation}
    {shown : List Entry}
    (hShown : entries unit depth op = .ok shown) :
    ∃ label inner, shown = ⟨depth, label⟩ :: inner ∧
      Opens unit depth op label inner := by
  cases op with
  | group ops =>
      rw [entries] at hShown
      rcases Outcome.bind_eq_ok_iff.mp hShown with ⟨inner, hInner, hSame⟩
      cases hSame
      exact ⟨_, inner, rfl, .group hInner⟩
  | instruction mnemonic args =>
      rw [entries] at hShown
      rcases Outcome.bind_eq_ok_iff.mp hShown with ⟨line, hLine, hSame⟩
      cases hSame
      exact ⟨line, [], rfl, .instruction hLine⟩
  | foreign name => cases hShown
  | value v => cases hShown

/- The line of an instruction is plain where those of all leaves are. -/
theorem ArePlain.line
    {unit : LengthUnit}
    {mnemonic : Value}
    {args : List Value}
    {line : Text}
    (hPlain : ArePlain unit (Operation.instruction mnemonic args).leaves)
    (hLine : Line.ofInstruction unit mnemonic args = .ok line) :
    IsPlainLine line := by
  rw [Operation.leaves_of_isLeaf (by rintro ops ⟨⟩)] at hPlain
  exact hPlain _ (List.mem_singleton_self _) line
    ⟨mnemonic, args, rfl, hLine⟩

/- The label that an operation with plain lines starts with is one line. -/
theorem Opens.newline_not_mem
    {unit : LengthUnit}
    {depth : Nat}
    {op : Operation}
    {label : Text}
    {inner : List Entry}
    (hOpens : Opens unit depth op label inner)
    (hPlain : ArePlain unit op.leaves) :
    .char '\n' ∉ label.letters := by
  cases hOpens with
  | group hInner => exact (isCount_groupLabel _).newline_not_mem
  | instruction hLine => exact (hPlain.line hLine).1

------------------------------------------------------------
-- Recovery
------------------------------------------------------------

/-
  Two operations are printed alike: they are instructions with
  the same line, or groups of as many operations that are
  printed alike, one by one.
-/
inductive PrintsAlike
    (unit : LengthUnit) : Operation → Operation → Prop where
  | instruction
      {op other : Operation}
      {line : Text}
      (hOp : Line.Gives unit op line)
      (hOther : Line.Gives unit other line) :
      PrintsAlike unit op other
  | group
      {ops others : List Operation}
      (hEach : List.Forall₂ (PrintsAlike unit) ops others) :
      PrintsAlike unit (.group ops) (.group others)

mutual

/-
  What is written for an operation, and what follows, determine
  both: the operation up to what is printed alike, and the rest.
-/
theorem entries_determine
    (unit : LengthUnit)
    (indent : Text)
    (depth : Nat)
    (op other : Operation)
    {shown seen : List Entry}
    (hShown : entries unit depth op = .ok shown)
    (hSeen : entries unit depth other = .ok seen)
    (hPlain : ArePlain unit op.leaves)
    (hOtherPlain : ArePlain unit other.leaves)
    {rest more : List Letter}
    (hSame : written indent shown ++ rest = written indent seen ++ more) :
    PrintsAlike unit op other ∧ rest = more := by
  rcases exists_opens hShown with ⟨label, inner, rfl, hOpens⟩
  rcases exists_opens hSeen with ⟨otherLabel, otherInner, rfl, hOtherOpens⟩
  have hLine := hOpens.newline_not_mem hPlain
  have hOtherLine := hOtherOpens.newline_not_mem hOtherPlain
  simp only [written, List.flatMap_cons, List.append_assoc] at hSame
  rcases entry_determined hLine hOtherLine hSame with ⟨hLabel, hRest⟩
  cases op with
  | foreign name => cases hOpens
  | value v => cases hOpens
  | instruction mnemonic args =>
      cases hOpens with
      | instruction hGiven =>
          cases hOtherOpens with
          | group hInner =>
              rename_i ops
              have hCount := isCount_groupLabel ops
              rw [← hLabel] at hCount
              exact absurd hCount (hPlain.line hGiven).2
          | instruction hOtherGiven =>
              subst hLabel
              exact ⟨.instruction ⟨_, _, rfl, hGiven⟩
                ⟨_, _, rfl, hOtherGiven⟩, hRest⟩
  | group ops =>
      cases hOpens with
      | group hInner =>
          cases hOtherOpens with
          | instruction hOtherGiven =>
              have hCount := isCount_groupLabel ops
              rw [hLabel] at hCount
              exact absurd hCount (hOtherPlain.line hOtherGiven).2
          | group hOtherInner =>
              rename_i others
              rw [Operation.leaves_group] at hPlain hOtherPlain
              rcases allEntries_determine unit indent (depth + 1) ops
                  others (length_of_groupLabel hLabel) hInner
                  hOtherInner hPlain hOtherPlain hRest with
                ⟨hEach, hEnd⟩
              exact ⟨.group hEach, hEnd⟩

/- So do several operations, where as many are known to follow. -/
theorem allEntries_determine
    (unit : LengthUnit)
    (indent : Text)
    (depth : Nat)
    (ops others : List Operation)
    {shown seen : List Entry}
    (hLength : ops.length = others.length)
    (hShown : allEntries unit depth ops = .ok shown)
    (hSeen : allEntries unit depth others = .ok seen)
    (hPlain : ArePlain unit (Operation.allLeaves ops))
    (hOtherPlain : ArePlain unit (Operation.allLeaves others))
    {rest more : List Letter}
    (hSame : written indent shown ++ rest = written indent seen ++ more) :
    List.Forall₂ (PrintsAlike unit) ops others ∧ rest = more := by
  cases ops with
  | nil =>
      cases others with
      | cons other others => cases hLength
      | nil =>
          cases hShown
          cases hSeen
          exact ⟨.nil, hSame⟩
  | cons op ops =>
      cases others with
      | nil => cases hLength
      | cons other others =>
          rw [allEntries] at hShown hSeen
          rcases Outcome.bind_eq_ok_iff.mp hShown with
            ⟨first, hFirst, hShown⟩
          rcases Outcome.bind_eq_ok_iff.mp hShown with
            ⟨later, hLater, hWhole⟩
          cases hWhole
          rcases Outcome.bind_eq_ok_iff.mp hSeen with
            ⟨otherFirst, hOtherFirst, hSeen⟩
          rcases Outcome.bind_eq_ok_iff.mp hSeen with
            ⟨otherLater, hOtherLater, hWhole⟩
          cases hWhole
          rw [Operation.allLeaves_cons] at hPlain hOtherPlain
          simp only [written, List.flatMap_append, List.append_assoc]
            at hSame
          rcases entries_determine unit indent depth op other hFirst
              hOtherFirst hPlain.left hOtherPlain.left hSame with
            ⟨hHead, hTail⟩
          rcases allEntries_determine unit indent depth ops others
              (Nat.succ.inj hLength) hLater hOtherLater hPlain.right
              hOtherPlain.right hTail with
            ⟨hOthers, hEnd⟩
          exact ⟨.cons hHead hOthers, hEnd⟩

end

mutual

/- Operations that are printed alike have the same entries. -/
theorem entries_of_printsAlike
    (unit : LengthUnit)
    (depth : Nat)
    (op other : Operation)
    (hAlike : PrintsAlike unit op other) :
    entries unit depth op = entries unit depth other := by
  cases op with
  | group ops =>
      cases hAlike with
      | instruction hOp hOther =>
          rcases hOp with ⟨mnemonic, args, hGroup, -⟩
          cases hGroup
      | group hEach =>
          rename_i others
          rw [entries, entries, groupLabel, groupLabel, hEach.length_eq,
            allEntries_of_printsAlike unit (depth + 1) ops others hEach]
  | _ =>
      cases hAlike with
      | instruction hOp hOther =>
          rcases hOp with ⟨mnemonic, args, hInstruction, hLine⟩
          rcases hOther with ⟨otherMnemonic, otherArgs, rfl, hOtherLine⟩
          rw [hInstruction, entries, entries, hLine, hOtherLine]

/- So have several operations. -/
theorem allEntries_of_printsAlike
    (unit : LengthUnit)
    (depth : Nat)
    (ops others : List Operation)
    (hAlike : List.Forall₂ (PrintsAlike unit) ops others) :
    allEntries unit depth ops = allEntries unit depth others := by
  cases ops with
  | nil =>
      cases hAlike
      rfl
  | cons op ops =>
      cases hAlike with
      | cons hFirst hRest =>
          rename_i other others
          rw [allEntries, allEntries,
            entries_of_printsAlike unit depth op other hFirst,
            allEntries_of_printsAlike unit depth ops others hRest]

end

------------------------------------------------------------
-- Outlines
------------------------------------------------------------

/- An outline is what is written for the entries of an operation. -/
theorem exists_written
    {unit : LengthUnit}
    {indent text : Text}
    {op : Operation}
    (hText : outline unit indent op = .ok text) :
    ∃ shown, entries unit 0 op = .ok shown ∧
      text.letters = written indent shown := by
  rcases Outcome.bind_eq_ok_iff.mp hText with ⟨shown, hShown, hSame⟩
  cases hSame
  refine ⟨shown, hShown, ?_⟩
  rw [Text.letters_join, List.flatMap_map]
  rfl

/-
  Two programs whose lines are plain have the same outline, at
  any indentation, exactly when they have the same shape and,
  place by place, the same lines.
-/
theorem same_outline_iff
    {unit : LengthUnit}
    {indent first second : Text}
    {op other : Operation}
    (hFirst : outline unit indent op = .ok first)
    (hSecond : outline unit indent other = .ok second)
    (hPlain : ArePlain unit op.leaves)
    (hOtherPlain : ArePlain unit other.leaves) :
    first = second ↔ PrintsAlike unit op other := by
  constructor
  · rintro rfl
    rcases exists_written hFirst with ⟨shown, hShown, hLetters⟩
    rcases exists_written hSecond with ⟨seen, hSeen, hSame⟩
    have hWritten :
        written indent shown ++ [] = written indent seen ++ [] := by
      rw [List.append_nil, List.append_nil, ← hLetters, hSame]
    exact (entries_determine unit indent 0 op other hShown hSeen hPlain
      hOtherPlain hWritten).1
  · intro hAlike
    unfold outline at hFirst hSecond
    rw [entries_of_printsAlike unit 0 op other hAlike, hSecond] at hFirst
    exact (Except.ok.inj hFirst).symm

/- A mnemonic in capitals leaves the outline as it is. -/
theorem same_outline_of_capitals :
    ∃ text,
      outline .millimeter defaultIndent
          (.group [.instruction (.text "g90") [], .group []]) =
        .ok text ∧
      outline .millimeter defaultIndent
          (.group [.instruction (.text "G90") [], .group []]) =
        .ok text ∧
      ArePlain .millimeter
        (Operation.leaves
          (.group [.instruction (.text "g90") [], .group []])) ∧
      ArePlain .millimeter
        (Operation.leaves
          (.group [.instruction (.text "G90") [], .group []])) ∧
      PrintsAlike .millimeter
        (.group [.instruction (.text "g90") [], .group []])
        (.group [.instruction (.text "G90") [], .group []]) := by
  have hLine : IsPlainLine "G90" := by
    refine ⟨by decide +kernel, ?_⟩
    rintro ⟨ds, -, -, hSame⟩
    have hStart : "G90" = String.ofList ('[' :: ds ++ [']']) :=
      congrArg Text.start hSame
    have hChars : ['G', '9', '0'] = '[' :: ds ++ [']'] :=
      String.ofList_injective hStart
    cases hChars
  have hPlain :
      ∀ mnemonic,
        Line.ofInstruction .millimeter mnemonic [] = .ok "G90" →
          ArePlain .millimeter
            (Operation.leaves
              (.group [.instruction mnemonic [], .group []])) := by
    intro mnemonic hGiven leaf hMem line hGives
    have hLeaf : leaf = .instruction mnemonic [] := by
      simpa [Operation.leaves, Operation.allLeaves] using hMem
    subst hLeaf
    rcases hGives with ⟨_, _, hSame, hText⟩
    cases hSame
    rw [hGiven] at hText
    cases hText
    exact hLine
  have hSmall := hPlain (.text "g90") rfl
  have hCapital := hPlain (.text "G90") rfl
  have hFirst :
      outline .millimeter defaultIndent
          (.group [.instruction (.text "g90") [], .group []]) =
        .ok "[2]\n  G90\n  [0]\n" := rfl
  have hSecond :
      outline .millimeter defaultIndent
          (.group [.instruction (.text "G90") [], .group []]) =
        .ok "[2]\n  G90\n  [0]\n" := rfl
  exact ⟨_, hFirst, hSecond, hSmall, hCapital,
    (same_outline_iff hFirst hSecond hSmall hCapital).mp rfl⟩

end Outline

end Joinery
