import Joinery.Proofs.Config.QuantityText
import Joinery.Proofs.Text.Letters
import Joinery.Proofs.Value.Named

/-
  A quantity is read back from its text, and from the mapping
  of its amount and its unit. An integer stays the integer
  that it is, and a double the double, even one that is
  written with an exponent or that has no fraction.

  Key definitions include:
    * `AmountSpelling.ofInt`
    * `QuantitySpelling.ofAmount`
    * `Value.IsAmount`

  Key theorems include:
    * `AmountSpelling.exists_of_spelling`
    * `Value.IsAmount.spelled`
    * `readMeasure_mapping`
    * `readMeasure_written`
-/

namespace Joinery

open Decimal

------------------------------------------------------------
-- Integers
------------------------------------------------------------

/- A minus sign, or none. -/
def Mark.ofNegative
    (negative : Bool) : Mark :=
  if negative then .minus else .none

theorem Mark.ofNegative_chars
    (negative : Bool)
    (cs : List Char) :
    (ofNegative negative).chars ++ cs = withSign negative cs := by
  cases negative <;> rfl

theorem Mark.ofNegative_eq_minus
    (negative : Bool) :
    decide (ofNegative negative = .minus) = negative := by
  cases negative <;> rfl

namespace AmountSpelling

/- The amount that an integer is written as. -/
def ofInt
    (n : Int) : AmountSpelling where
  mark := .ofNegative (n < 0)
  whole := digits n.natAbs
  fraction := none
  exponent := none
  wholeFigures := (digits_areDigits _).areFigures
  fractionFigures := .nil
  present := List.append_ne_nil_of_left_ne_nil (digits_ne_nil _) _

variable (n : Int)

theorem ofInt_chars :
    (ofInt n).chars = (integerText n).toList := by
  rw [integerText_toList, chars]
  change
    (Mark.ofNegative (n < 0)).chars ++ (digits n.natAbs ++ []) = _
  rw [List.append_nil, Mark.ofNegative_chars, withSign]
  simp only [decide_eq_true_eq]

theorem ofInt_isWhole :
    (ofInt n).IsWhole :=
  ⟨rfl, rfl⟩

/- It denotes the integer. -/
theorem ofInt_integer :
    (ofInt n).integer = n := by
  have hMark : (ofInt n).mark = .minus ↔ n < 0 :=
    decide_eq_decide.mp (Mark.ofNegative_eq_minus _)
  have hWhole : naturalOf (ofInt n).whole = n.natAbs :=
    naturalOf_digits _
  rw [integer, hWhole]
  by_cases hNeg : n < 0
  · rw [if_pos (hMark.mpr hNeg)]
    omega
  · rw [if_neg (mt hMark.mp hNeg)]
    omega

variable {n}

/- Its digits are not too many, and it is in the range of doubles. -/
theorem ofInt_short
    (hBound : n.natAbs ≤ 10 ^ 300) :
    (ofInt n).whole.length ≤ digitLimit := by
  have hLimit : 300 < digitLimit := by decide
  have hPower : (10 : Nat) ^ 300 < 10 ^ digitLimit :=
    pow_lt_pow_right₀ (by decide) hLimit
  have hLess := hBound.trans_lt hPower
  exact (digitCount_le_iff (Nat.zero_lt_of_lt hLimit)).mpr hLess

theorem ofInt_isInRange
    (hBound : n.natAbs ≤ 10 ^ 300) :
    (ofInt n).IsInRange := by
  have hEnd : ((10 ^ 300 : Nat) : Rat) < Double.rangeEnd := by
    decide +kernel
  have hSize : (ofInt n).decimal.magnitude = (n.natAbs : Rat) := by
    rw [magnitude, decimal]
    change
      (naturalOf (digits n.natAbs ++ []) : Rat) * 10 ^ (0 : Int) = _
    rw [List.append_nil, naturalOf_digits, zpow_zero, mul_one]
  rw [IsInRange, hSize]
  exact (Nat.cast_le.mpr hBound).trans_lt hEnd

------------------------------------------------------------
-- Doubles
------------------------------------------------------------

/- What follows the digits of a numeral is an exponent, or nothing. -/
theorem exists_of_tail
    {tail : List Char}
    {power : Int}
    (hTail : IsTail tail power) :
    ∃ exponent : Option ExponentSpelling,
      exponentChars exponent = tail ∧
        (exponent.map ExponentSpelling.power).getD 0 = power := by
  cases hTail with
  | none => exact ⟨none, rfl, rfl⟩
  | @power ds negative hDigits hSome =>
      refine
        ⟨some
          { capital := false
            mark := if negative then .minus else .plus
            ds := ds
            figures := hDigits.areFigures
            present := hSome }, ?_, ?_⟩
      · cases negative <;> rfl
      · cases negative <;> rfl

/- The digits behind a point; without digits there is no point. -/
def pointOf
    (ds : List Char) : Option (List Char) :=
  if ds = [] then none else some ds

theorem pointOf_digits
    (ds : List Char) :
    (pointOf ds).getD [] = ds := by
  cases ds <;> rfl

theorem pointOf_chars
    (ds : List Char) :
    fractionChars (pointOf ds) = if ds = [] then [] else '.' :: ds := by
  cases ds <;> rfl

/- A numeral is an amount that denotes the same decimal. -/
theorem exists_of_spelling
    (s : Spelling)
    (negative : Bool) :
    ∃ a : AmountSpelling,
      a.chars = withSign negative s.text ∧
        a.decimal = s.decimal negative ∧
        (s.IsPointed → ¬ a.IsWhole) := by
  rcases exists_of_tail s.tailed with ⟨exponent, hChars, hPower⟩
  let a : AmountSpelling :=
    { mark := .ofNegative negative
      whole := s.whole
      fraction := pointOf s.fraction
      exponent := exponent
      wholeFigures := s.plain.digits.areFigures
      fractionFigures := (pointOf_digits _).symm ▸ s.digits.areFigures
      present := List.append_ne_nil_of_left_ne_nil s.plain.present _ }
  refine ⟨a, ?_, ?_, fun hPointed hWhole => ?_⟩
  · change
      (Mark.ofNegative negative).chars ++
        (s.whole ++
          (fractionChars (pointOf s.fraction) ++
            exponentChars exponent)) = _
    rw [Mark.ofNegative_chars, pointOf_chars, hChars, Spelling.text]
  · change
      (⟨decide (Mark.ofNegative negative = .minus),
        naturalOf (s.whole ++ (pointOf s.fraction).getD []),
        (exponent.map ExponentSpelling.power).getD 0 -
          ((pointOf s.fraction).getD []).length⟩ : Decimal) = _
    rw [Mark.ofNegative_eq_minus, pointOf_digits, hPower]
    rfl
  · rcases hPointed with hFraction | hTail
    · have hSome : pointOf s.fraction = some s.fraction := if_neg hFraction
      cases hSome.symm.trans hWhole.1
    · refine hTail ?_
      rw [← hChars, show exponent = none from hWhole.2]
      rfl

/- So is the text of a finite double, which reads back as that double. -/
theorem exists_of_double
    {x : Float}
    (hFinite : isFinite x = true) :
    ∃ a : AmountSpelling,
      a.chars = (doubleText x).toList ∧ ¬ a.IsWhole ∧
        toDouble a.decimal = x := by
  rcases (Number.isFinite_iff x).mp hFinite with ⟨q, hValue⟩
  rcases shortest?_near hValue with ⟨d, hFound, -⟩
  rcases doubleText_spelled hFound with ⟨s, hText, hPointed, hSize⟩
  rcases exists_of_spelling s d.negative with
    ⟨a, hChars, hDecimal, hOther⟩
  refine ⟨a, hChars.trans hText.symm, hOther hPointed, ?_⟩
  rw [hDecimal]
  exact toDouble_shortest hFound rfl hSize

end AmountSpelling

------------------------------------------------------------
-- Amounts
------------------------------------------------------------

/- The amounts of quantities: bounded integers, and finite doubles. -/
inductive Value.IsAmount : Value → Prop where
  | int
      {n : Int}
      (hBound : n.natAbs ≤ 10 ^ 300) :
      IsAmount (.int n)
  | float
      {x : Float}
      (hFinite : isFinite x = true) :
      IsAmount (.float x)

/- An amount is spelled by the grammar, and has itself as its value. -/
theorem Value.IsAmount.spelled
    {amount : Value}
    (hAmount : amount.IsAmount) :
    ∃ a : AmountSpelling,
      amount.plain = .ofList a.chars ∧
        ∀ letters,
          QuantityText.value ⟨a.chars, letters⟩ = .ok amount := by
  cases hAmount with
  | @int n hBound =>
      refine ⟨.ofInt n, ?_, fun letters => ?_⟩
      · rw [AmountSpelling.ofInt_chars, Text.ofList, String.ofList_toList]
        rfl
      · rw [AmountSpelling.value_of_integer
            (AmountSpelling.ofInt_isWhole n)
            (AmountSpelling.ofInt_isInRange hBound),
          if_neg (not_lt.mpr (AmountSpelling.ofInt_short hBound)),
          AmountSpelling.ofInt_integer]
  | @float x hFinite =>
      rcases AmountSpelling.exists_of_double hFinite with
        ⟨a, hChars, hPart, hReads⟩
      refine ⟨a, ?_, fun letters => ?_⟩
      · rw [hChars, Text.ofList, String.ofList_toList]
        rfl
      · rw [AmountSpelling.value_of_double fun hWhole => hPart hWhole.1,
          hReads]

/- The quantity with a space between the amount and the symbol. -/
def QuantitySpelling.ofAmount
    (a : AmountSpelling)
    (u : LengthUnit) : QuantitySpelling where
  before := []
  amount := a
  between := [' ']
  letters := u.symbol.toList
  after := []
  beforeBlank := Text.blank_of_nil
  betweenBlank := List.all_eq_true.mp (by decide)
  alphabetic := List.all_eq_true.mp (by cases u <;> decide)
  present := by cases u <;> decide
  afterBlank := Text.blank_of_nil

/- It is what a quantity is written as. -/
theorem QuantitySpelling.ofAmount_text
    {a : AmountSpelling}
    {amount : Value}
    (hPlain : amount.plain = .ofList a.chars)
    (u : LengthUnit) :
    (ofAmount a u).text = (Value.quantity (.unit u) amount).plain := by
  refine Text.letters_injective ?_
  rw [Value.plain, hPlain]
  change
    (Text.ofList ([] ++ (a.chars ++ ([' '] ++ (u.symbol.toList ++ [])))
      )).letters = _
  simp [Text.ofList]

------------------------------------------------------------
-- Reading Back
------------------------------------------------------------

/- A mapping with a number and the symbol of a unit is read. -/
theorem readMeasure_mapping
    {entries : Entries}
    {amount : Value}
    {u : LengthUnit}
    (name : Text)
    (hAmount : entries.get? "amount" = some amount)
    (hUnit : entries.get? "unit" = some (.text u.symbol))
    (hNumber : amount.IsAmount) :
    readMeasure name (.dict entries) =
      .ok (.quantity (.unit u) amount) := by
  have hSymbol : readUnit name (.text u.symbol) = .ok u := by
    cases u <;> rfl
  change readQuantityMapping name (.dict entries) entries = _
  unfold readQuantityMapping
  rw [hAmount, hUnit]
  cases hNumber with
  | int hBound =>
      dsimp only
      rw [hSymbol]
      rfl
  | float hFinite =>
      dsimp only
      rw [hSymbol]
      rfl

/- A quantity is read back from its text, and from its mapping. -/
theorem readMeasure_written
    {amount : Value}
    (name : Text)
    (u : LengthUnit)
    (hAmount : amount.IsAmount) :
    readMeasure name (.text (Value.quantity (.unit u) amount).plain) =
        .ok (.quantity (.unit u) amount) ∧
      readMeasure name
          (.dict
            [(.text "amount", amount), (.text "unit", .text u.symbol)]) =
        .ok (.quantity (.unit u) amount) := by
  rcases hAmount.spelled with ⟨a, hPlain, hValue⟩
  constructor
  · have hNames : (QuantitySpelling.ofAmount a u).Names u := by
      cases u <;> rfl
    exact readMeasure_of_named rfl
      (QuantitySpelling.ofAmount_text hPlain u) hNames (hValue _)
  · have hUnit : ("amount" : Text) ≠ "unit" := by decide
    refine readMeasure_mapping name ?_ ?_ hAmount
    · rw [Entries.get?_cons, if_pos rfl]
    · rw [Entries.get?_cons, if_neg hUnit, Entries.get?_cons, if_pos rfl]

/- A double with an exponent, and an integer that no double is. -/
theorem smallAndLarge_written :
    Value.IsAmount (.float (-1e-05)) ∧
      Value.IsAmount (.int 9007199254740993) ∧
      readMeasure "bit"
          (.text (Value.quantity (.unit .inch) (.float (-1e-05))).plain) =
        .ok (.quantity (.unit .inch) (.float (-1e-05))) ∧
      readMeasure "bit"
          (.text
            (Value.quantity (.unit .millimeter)
              (.int 9007199254740993)).plain) =
        .ok (.quantity (.unit .millimeter) (.int 9007199254740993)) := by
  have hSmall : Value.IsAmount (.float (-1e-05)) :=
    .float (by decide +kernel)
  have hLarge : Value.IsAmount (.int 9007199254740993) :=
    .int (by decide +kernel)
  exact ⟨hSmall, hLarge, (readMeasure_written "bit" .inch hSmall).1,
    (readMeasure_written "bit" .millimeter hLarge).1⟩

end Joinery
