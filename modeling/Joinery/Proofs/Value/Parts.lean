import Mathlib.Data.List.Basic
import Joinery.Fault
import Joinery.Proofs.Decimal.Numerals

/-
  A value can be written if the integers in it can, at any
  depth. What is refused because of such values is reported
  as it is.

  Key definitions include:
    * `Value.parts`
    * `Value.IsIn`
    * `Value.HasShortIntegers`

  Key theorems include:
    * `Value.unwritable_eq_false_iff`
    * `fail_of_writable`
    * `writable_of_fail`
-/

namespace Joinery

namespace Value

------------------------------------------------------------
-- Parts
------------------------------------------------------------

/- The values that a value holds itself. -/
def parts : Value → List Value
  | .quantity name amount => [name, amount]
  | .token name => [name]
  | .list items => items
  | .tuple items => items
  | .set items => items
  | .dict entries => entries.flatMap fun e => [e.1, e.2]
  | .knot table _ => table
  | _ => []

/- A value is in another one, at any depth, or is that value. -/
inductive IsIn
    (v : Value) : Value → Prop where
  | self :
      IsIn v v
  | part
      {holder part : Value}
      (hPart : part ∈ holder.parts)
      (hIn : IsIn v part) :
      IsIn v holder

/- A value that holds another one is larger. -/
theorem sizeOf_part
    {v part : Value}
    (hPart : part ∈ v.parts) :
    sizeOf part < sizeOf v := by
  cases v with
  | quantity name amount =>
      simp only [parts, List.mem_cons, List.not_mem_nil, or_false] at hPart
      rw [quantity.sizeOf_spec]
      rcases hPart with rfl | rfl
      · omega
      · omega
  | token name =>
      rw [List.mem_singleton.mp hPart, token.sizeOf_spec]
      omega
  | list items =>
      have hLess := List.sizeOf_lt_of_mem (show part ∈ items from hPart)
      rw [list.sizeOf_spec]
      omega
  | tuple items =>
      have hLess := List.sizeOf_lt_of_mem (show part ∈ items from hPart)
      rw [tuple.sizeOf_spec]
      omega
  | set items =>
      have hLess := List.sizeOf_lt_of_mem (show part ∈ items from hPart)
      rw [set.sizeOf_spec]
      omega
  | dict entries =>
      rcases List.mem_flatMap.mp hPart with ⟨⟨key, value⟩, hEntry, hPart⟩
      have hLess := List.sizeOf_lt_of_mem hEntry
      rw [Prod.mk.sizeOf_spec] at hLess
      rw [dict.sizeOf_spec]
      simp only [List.mem_cons, List.not_mem_nil, or_false] at hPart
      rcases hPart with rfl | rfl
      · omega
      · omega
  | knot table place =>
      have hLess := List.sizeOf_lt_of_mem (show part ∈ table from hPart)
      rw [knot.sizeOf_spec]
      omega
  | _ => cases hPart

------------------------------------------------------------
-- Short Integers
------------------------------------------------------------

/- An integer, or the terms of a ratio, are short enough to be written. -/
def IsShort : Value → Prop
  | .int n => Decimal.digitCount n.natAbs ≤ 4300
  | .ratio q =>
      Decimal.digitCount q.num.natAbs ≤ 4300 ∧
        Decimal.digitCount q.den ≤ 4300
  | _ => True

/- All integers and ratios in a value are short enough. -/
def HasShortIntegers
    (v : Value) : Prop :=
  ∀ inner, IsIn inner v → inner.IsShort

/- Then they are so in what the value holds. -/
theorem HasShortIntegers.part
    {v part : Value}
    (hShort : v.HasShortIntegers)
    (hPart : part ∈ v.parts) :
    part.HasShortIntegers :=
  fun inner hIn => hShort inner (.part hPart hIn)

theorem anyUnwritable_eq
    (items : List Value) :
    anyUnwritable items = items.any unwritable := by
  induction items with
  | nil => rfl
  | cons item rest ih => rw [anyUnwritable, ih, List.any_cons]

theorem entryUnwritable_eq
    (entries : Entries) :
    entryUnwritable entries =
      (entries.flatMap fun e => [e.1, e.2]).any unwritable := by
  induction entries with
  | nil => rfl
  | cons e rest ih =>
      rcases e with ⟨key, value⟩
      rw [entryUnwritable, ih, List.flatMap_cons, List.any_append]
      simp

/- A value can be written if it is short itself and its parts can. -/
theorem unwritable_eq_false_iff_parts
    (v : Value) :
    v.unwritable = false ↔
      v.IsShort ∧ ∀ part ∈ v.parts, part.unwritable = false := by
  have hAny :
      ∀ items : List Value,
        items.any unwritable = false ↔
          ∀ part ∈ items, part.unwritable = false := by
    intro items
    rw [List.any_eq_false]
    simp only [Bool.not_eq_true]
  cases v with
  | int n =>
      rw [unwritable, Decimal.exceedsLimit_eq_false_iff]
      simp [IsShort, parts, Decimal.digitLimit]
  | ratio q =>
      have hNum := Decimal.exceedsLimit_eq_false_iff q.num
      have hDen := Decimal.exceedsLimit_eq_false_iff q.den
      rw [Int.natAbs_natCast] at hDen
      rw [unwritable, Bool.or_eq_false_iff, hNum, hDen]
      simp [IsShort, parts, Decimal.digitLimit]
  | quantity name amount => simp [unwritable, IsShort, parts]
  | token name => simp [unwritable, IsShort, parts]
  | list items => simp [unwritable, IsShort, parts, anyUnwritable_eq]
  | tuple items => simp [unwritable, IsShort, parts, anyUnwritable_eq]
  | set items => simp [unwritable, IsShort, parts, anyUnwritable_eq]
  | knot table place =>
      simp [unwritable, IsShort, parts, anyUnwritable_eq]
  | dict entries =>
      rw [unwritable, entryUnwritable_eq, hAny]
      simp [IsShort, parts]
  | _ => simp [unwritable, IsShort, parts]

/- A value can be written if all integers and ratios in it are short. -/
theorem unwritable_of_hasShortIntegers
    (v : Value)
    (hShort : v.HasShortIntegers) :
    v.unwritable = false := by
  refine (unwritable_eq_false_iff_parts v).mpr ⟨hShort v .self, ?_⟩
  intro part hPart
  have hLess := sizeOf_part hPart
  exact unwritable_of_hasShortIntegers part (hShort.part hPart)
termination_by v

/- That a value can be written is said of its integers and ratios alone. -/
theorem unwritable_eq_false_iff
    (v : Value) :
    v.unwritable = false ↔ v.HasShortIntegers := by
  refine ⟨fun hWritable inner hIn => ?_, unwritable_of_hasShortIntegers v⟩
  induction hIn with
  | self => exact ((unwritable_eq_false_iff_parts inner).mp hWritable).1
  | part hPart _ ih =>
      exact ih
        (((unwritable_eq_false_iff_parts _).mp hWritable).2 _ hPart)

end Value

------------------------------------------------------------
-- Reports
------------------------------------------------------------

/- A fault is reported as it is if the values that it shows can be written. -/
theorem fail_of_writable
    {α : Type}
    {fault : Fault}
    (hShown : ∀ v ∈ fault.values, v.HasShortIntegers) :
    (fail fault : Outcome α) = .error fault := by
  have hNone : fault.values.any Value.unwritable = false := by
    rw [List.any_eq_false]
    intro v hMem
    rw [(Value.unwritable_eq_false_iff v).mpr (hShown v hMem)]
    exact Bool.false_ne_true
  rw [fail, Fault.reported, hNone, if_neg Bool.false_ne_true]

/- Otherwise it is reported as an integer that is too long. -/
theorem writable_of_fail
    {α : Type}
    {fault : Fault}
    (hReported : (fail fault : Outcome α) = .error fault)
    (hOther : fault ≠ .integerTooLong) :
    ∀ v ∈ fault.values, v.HasShortIntegers := by
  intro v hMem
  rw [← Value.unwritable_eq_false_iff, Bool.eq_false_iff]
  intro hLong
  have hSome : fault.values.any Value.unwritable = true :=
    List.any_eq_true.mpr ⟨v, hMem, hLong⟩
  rw [fail, Fault.reported, if_pos hSome] at hReported
  exact hOther (Except.error.inj hReported).symm

end Joinery
