import Joinery.Proofs.Gcode.Grammar
import Joinery.Proofs.Number.Faults
import Joinery.Proofs.Value.Parts

/-
  What is said of an operand. A finite number is printed as a
  numeral, and so is a quantity that becomes one in the ambient
  unit. Everything else is refused, for one of few causes.

  Key definitions include:
    * `Number.IsTooLarge`
    * `LengthUnit.scaled`
    * `Line.Told`

  Key theorems include:
    * `convert_unnamed`
    * `convert_scaled`
    * `Line.ofValue_of_other`
    * `Line.ofValue_told`
-/

namespace Joinery

open Double (rangeEnd)
open Numeral (IsNumeral)

------------------------------------------------------------
-- Numbers Out Of Range
------------------------------------------------------------

namespace Number

/- An integer or a ratio that is too large for every double. -/
inductive IsTooLarge : Number → Prop where
  | int
      {n : Int}
      (hRange : rangeEnd ≤ |(n : Rat)|) :
      IsTooLarge (.int n)
  | ratio
      {q : Rat}
      (hRange : rangeEnd ≤ |q|) :
      IsTooLarge (.ratio q)

/- What is in range has a nearest double that is finite. -/
theorem rangeEnd_le_of_nearestInRange
    {q : Rat}
    {outOfRange fault : Fault}
    (hFault : nearestInRange q outOfRange = .error fault) :
    rangeEnd ≤ |q| := by
  by_contra hInside
  have hFinite : Decimal.isFinite (Decimal.nearestDouble q) = true :=
    (isFinite_iff _).mpr
      (Double.nearestDouble_finite (not_le.mp hInside))
  rw [nearestInRange, hFinite] at hFault
  cases hFault

/- A number without a double is too large for every double. -/
theorem isTooLarge_of_toDouble
    {n : Number}
    {fault : Fault}
    (hFault : n.toDouble = .error fault) :
    n.IsTooLarge := by
  cases n with
  | int k => exact .int (rangeEnd_le_of_nearestInRange hFault)
  | ratio q => exact .ratio (rangeEnd_le_of_nearestInRange hFault)
  | float x => cases hFault

end Number

------------------------------------------------------------
-- Conversions
------------------------------------------------------------

/- A value that is equal to a unit names it. -/
theorem LengthUnit.ofValue?_of_equals
    {name : Value}
    {u : LengthUnit}
    (hSame : name.equals (.unit u) = true) :
    LengthUnit.ofValue? name = some u := by
  have hLeaf : name.leafEquals (.unit u) = true := by
    rwa [Value.equals] at hSame
    all_goals simp
  have hText : name.text? = some (u.symbol : Text) := by
    cases name with
    | text t => exact congrArg some (eq_of_beq hLeaf)
    | unit w => exact congrArg some (eq_of_beq hLeaf)
    | _ => cases hLeaf
  rw [LengthUnit.ofValue?, hText]
  cases u with
  | millimeter => rfl
  | inch => rfl

/- A double in the other unit of length as one in this unit. -/
def LengthUnit.scaled
    (u : LengthUnit)
    (x : Float) : Float :=
  match u with
  | .millimeter => x * 25.4
  | .inch => x / 25.4

/- Without a unit of length, nothing is converted. -/
theorem convert_unnamed
    {name : Value}
    (hUnit : LengthUnit.ofValue? name = none)
    (u : LengthUnit)
    (amount : Value) :
    convert u (.quantity name amount) none =
      fail (.noConversion name amount (.unit u)) := by
  have hOther : name.equals (.unit u) = false := by
    rw [Bool.eq_false_iff]
    intro hSame
    rw [LengthUnit.ofValue?_of_equals hSame] at hUnit
    cases hUnit
  simp [convert, convertAmount, hOther, hUnit]

/- From one unit to the other, an amount is scaled if it is a number. -/
theorem convert_scaled
    {name : Value}
    {w u : LengthUnit}
    (hUnit : LengthUnit.ofValue? name = some w)
    (hOther : w ≠ u)
    (amount : Value) :
    convert u (.quantity name amount) none =
      (amount.asNumber >>= fun n =>
        n.toDouble.map fun x => .float (u.scaled x)) := by
  cases u with
  | millimeter =>
      cases w with
      | millimeter => exact absurd rfl hOther
      | inch => exact convert_of_inch hUnit amount
  | inch =>
      cases w with
      | millimeter => exact convert_of_millimeter hUnit amount
      | inch => exact absurd rfl hOther

namespace Line

------------------------------------------------------------
-- Resolved Values
------------------------------------------------------------

/- Whatever is no integer and no double is refused. -/
theorem ofValue_of_other
    {u : LengthUnit}
    {v r : Value}
    (hResolve : resolve u v = .ok r)
    (hOther : ¬ ∃ n, r.IsPlain n) :
    ofValue u v = fail (.unknownOperand v) := by
  rw [ofValue, hResolve]
  cases r with
  | int k => exact absurd ⟨_, .int k⟩ hOther
  | float x => exact absurd ⟨_, .float x⟩ hOther
  | _ => rfl

/- A finite plain number has a numeral, and this is printed. -/
theorem exists_numeral
    {u : LengthUnit}
    {v r : Value}
    {n : Number}
    (hResolve : resolve u v = .ok r)
    (hPlain : r.IsPlain n)
    (hFinite : n.isFinite = .ok true) :
    ∃ s, Numeral.ofValue r = .ok s ∧ ofValue u v = .ok s ∧
      IsNumeral s.toList := by
  rcases Numeral.exists_numeral hPlain hFinite with
    ⟨s, -, -, hText, hForm, -⟩
  exact ⟨s, hText,
    (ofValue_of_finite hResolve hPlain hFinite).trans hText, hForm⟩

/-
  A quantity that cannot be converted is refused itself if its
  amount is of the wrong kind.
-/
theorem ofValue_of_error
    {u : LengthUnit}
    {name amount : Value}
    {fault : Fault}
    (hConvert : convert u (.quantity name amount) none = .error fault) :
    ofValue u (.quantity name amount) =
      if fault.family = .kind then
        fail (.unknownOperand (.quantity name amount))
      else .error fault := by
  rw [ofValue, resolve, hConvert]
  dsimp only
  split
  · rfl
  · rfl

/- A quantity without a unit of length is told as one. -/
theorem ofValue_of_unnamed
    {u : LengthUnit}
    {name : Value}
    (hUnit : LengthUnit.ofValue? name = none)
    (amount : Value) :
    ofValue u (.quantity name amount) =
      fail (.noConversion name amount (.unit u)) := by
  have hConvert := convert_unnamed hUnit u amount
  rw [ofValue_of_error hConvert, if_neg ?_]
  · rfl
  · rw [Fault.reported]
    split
    · rintro ⟨⟩
    · rintro ⟨⟩

/- An amount that is no number is refused with its quantity. -/
theorem ofValue_of_notNumber
    {u w : LengthUnit}
    {name amount : Value}
    (hUnit : LengthUnit.ofValue? name = some w)
    (hOther : w ≠ u)
    (hNumber : amount.number? = none) :
    ofValue u (.quantity name amount) =
      fail (.unknownOperand (.quantity name amount)) := by
  have hConvert :
      convert u (.quantity name amount) none =
        .error (.notNumber amount.kind) := by
    rw [convert_scaled hUnit hOther, Value.asNumber, hNumber]
    rfl
  rw [ofValue_of_error hConvert]
  exact if_pos rfl

/- An amount that has no double is told as one that is out of range. -/
theorem ofValue_of_range
    {u w : LengthUnit}
    {name amount : Value}
    {n : Number}
    {fault : Fault}
    (hUnit : LengthUnit.ofValue? name = some w)
    (hOther : w ≠ u)
    (hNumber : amount.number? = some n)
    (hFault : n.toDouble = .error fault) :
    ofValue u (.quantity name amount) = .error fault := by
  have hConvert :
      convert u (.quantity name amount) none = .error fault := by
    rw [convert_scaled hUnit hOther, Value.asNumber_of_number? hNumber,
      Outcome.ok_bind, hFault]
    rfl
  have hOverflow : fault.family = .overflow :=
    n.toDouble_fails fault hFault
  rw [ofValue_of_error hConvert, hOverflow]
  rfl

/- An amount that has a double is scaled, and then it is printed or refused. -/
theorem resolve_of_scaled
    {u w : LengthUnit}
    {name amount : Value}
    {n : Number}
    {x : Float}
    (hUnit : LengthUnit.ofValue? name = some w)
    (hOther : w ≠ u)
    (hNumber : amount.number? = some n)
    (hDouble : n.toDouble = .ok x) :
    resolve u (.quantity name amount) = .ok (.float (u.scaled x)) := by
  apply resolve_of_convert
  rw [convert_scaled hUnit hOther, Value.asNumber_of_number? hNumber,
    Outcome.ok_bind, hDouble]
  rfl

end Line

------------------------------------------------------------
-- All That Is Told
------------------------------------------------------------

/- The number that a value is, or that the amount of a quantity is. -/
def Value.measured? : Value → Option Number
  | .quantity _ amount => amount.number?
  | v => v.number?

namespace Line

/-
  What is said of a value: it has a numeral, or it is refused
  itself, or it is a quantity without a unit of length, or it is
  too large for every double.
-/
inductive Told
    (u : LengthUnit)
    (v : Value) : Outcome String → Prop where
  | numeral
      {s : String}
      (hForm : IsNumeral s.toList) :
      Told u v (.ok s)
  | operand :
      Told u v (.error (.unknownOperand v))
  | conversion
      {name amount : Value}
      (hValue : v = .quantity name amount)
      (hUnit : LengthUnit.ofValue? name = none) :
      Told u v (.error (.noConversion name amount (.unit u)))
  | range
      {n : Number}
      {fault : Fault}
      (hNumber : v.measured? = some n)
      (hLarge : n.IsTooLarge)
      (hOverflow : fault.IsOverflow) :
      Told u v (.error fault)

/- A value that is refused is shown if its integers are short. -/
theorem fail_unknownOperand_iff
    {α : Type}
    (v : Value) :
    (fail (.unknownOperand v) : Outcome α) = .error (.unknownOperand v) ↔
      v.HasShortIntegers := by
  constructor
  · intro hReported
    exact writable_of_fail hReported (by rintro ⟨⟩) v
      (List.mem_singleton_self v)
  · intro hShort
    apply fail_of_writable
    intro inner hMem
    rwa [List.mem_singleton.mp hMem]

theorem told_operand
    {u : LengthUnit}
    {v : Value}
    (hShort : v.HasShortIntegers)
    (hRefused : ofValue u v = fail (.unknownOperand v)) :
    Told u v (ofValue u v) := by
  rw [hRefused, (fail_unknownOperand_iff v).mpr hShort]
  exact .operand

/-
  What is said of a value that is resolved. Only an exact number
  can be out of range, and then it is the number of the value.
-/
theorem told_resolved
    {u : LengthUnit}
    {v r : Value}
    (hShort : v.HasShortIntegers)
    (hResolve : resolve u v = .ok r)
    (hExact : ∀ n, r.IsPlain n → n.IsTooLarge → v.measured? = some n) :
    Told u v (ofValue u v) := by
  by_cases hPlain : ∃ n, r.IsPlain n
  · rcases hPlain with ⟨n, hPlain⟩
    have hPrinted := ofValue_of_plain hResolve hPlain
    cases hDouble : n.toDouble with
    | error fault =>
        have hLarge := Number.isTooLarge_of_toDouble hDouble
        have hFault : ofValue u v = .error fault := by
          rw [hPrinted, Number.isFinite, hDouble]
          rfl
        rw [hFault]
        exact .range (hExact n hPlain hLarge) hLarge
          (n.toDouble_fails fault hDouble)
    | ok x =>
        cases hInside : Decimal.isFinite x with
        | true =>
            have hFinite : n.isFinite = .ok true := by
              rw [Number.isFinite, hDouble, ← hInside]
              rfl
            rcases exists_numeral hResolve hPlain hFinite with
              ⟨s, -, hPrinted, hForm⟩
            rw [hPrinted]
            exact .numeral hForm
        | false =>
            apply told_operand hShort
            rw [hPrinted, Number.isFinite, hDouble]
            simp only [Except.map, hInside, Outcome.ok_bind,
              Bool.false_eq_true, if_false]
  · exact told_operand hShort (ofValue_of_other hResolve hPlain)

/- What is said of a quantity. -/
theorem told_quantity
    (u : LengthUnit)
    {name amount : Value}
    (hShort : (Value.quantity name amount).HasShortIntegers) :
    Told u (.quantity name amount) (ofValue u (.quantity name amount)) := by
  cases hUnit : LengthUnit.ofValue? name with
  | none =>
      have hShown :
          (fail (.noConversion name amount (.unit u)) : Outcome String) =
            .error (.noConversion name amount (.unit u)) := by
        apply fail_of_writable
        intro v hMem
        simp only [Fault.values, List.mem_cons, List.not_mem_nil,
          or_false] at hMem
        rcases hMem with rfl | rfl | rfl
        · exact hShort.part (List.mem_cons_self ..)
        · exact hShort.part
            (List.mem_cons_of_mem _ (List.mem_cons_self ..))
        · exact (Value.unwritable_eq_false_iff _).mp rfl
      rw [ofValue_of_unnamed hUnit, hShown]
      exact .conversion rfl hUnit
  | some w =>
      by_cases hSame : w = u
      · subst hSame
        apply told_resolved hShort (resolve_of_convert (convert_same hUnit))
        intro n hPlain _
        exact hPlain.number?
      · cases hNumber : amount.number? with
        | none =>
            exact told_operand hShort
              (ofValue_of_notNumber hUnit hSame hNumber)
        | some n =>
            cases hDouble : n.toDouble with
            | error fault =>
                rw [ofValue_of_range hUnit hSame hNumber hDouble]
                exact .range hNumber
                  (Number.isTooLarge_of_toDouble hDouble)
                  (n.toDouble_fails fault hDouble)
            | ok x =>
                apply told_resolved hShort
                  (resolve_of_scaled hUnit hSame hNumber hDouble)
                intro m hPlain hLarge
                cases hPlain
                cases hLarge

/- A fault of the decimals is not among what is said of values. -/
theorem not_told_of_decimal
    {u : LengthUnit}
    {v : Value}
    {fault : Fault}
    (hDecimal : fault.family = .decimal) :
    ¬ Told u v (.error fault) := by
  intro hTold
  cases hTold with
  | operand => cases hDecimal
  | conversion hValue hUnit => cases hDecimal
  | range hNumber hLarge hOverflow =>
      rw [show fault.family = .overflow from hOverflow] at hDecimal
      cases hDecimal

/-
  A value whose integers are short is printed as a numeral, or
  it is refused: itself, or because it is a quantity without a
  unit of length, or because an exact number is too large for
  every double.
-/
theorem ofValue_told
    (u : LengthUnit)
    {v : Value}
    (hShort : v.HasShortIntegers) :
    Told u v (ofValue u v) := by
  cases v with
  | quantity name amount => exact told_quantity u hShort
  | _ =>
      apply told_resolved hShort rfl
      intro n hPlain _
      exact hPlain.number?

end Line

end Joinery
