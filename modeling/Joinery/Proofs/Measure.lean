import Joinery.Measure
import Joinery.Proofs.Double.Closeness
import Joinery.Proofs.Outcome

/-
  A quantity in millimetres or inches has a physical length.
  Converting it to one of the two units gives the length in
  that unit, up to a few roundings.

  Key definitions include:
    * `LengthUnit.millimeters`
    * `Value.length?`
    * `LengthUnit.inUnit`
    * `Value.IsPlain`

  Key theorems include:
    * `Number.toDouble_near`
    * `convert_within`
    * `convert_ok`
-/

namespace Joinery

open Double

------------------------------------------------------------
-- Exact Numbers And Doubles
------------------------------------------------------------

namespace Number

@[simp] theorem place_int
    (n : Int) :
    (Number.int n).place = .finite n := rfl

@[simp] theorem place_ratio
    (q : Rat) :
    (Number.ratio q).place = .finite q := rfl

theorem place_float_iff
    (x : Float)
    (q : Rat) :
    (Number.float x).place = .finite q ↔
      Decimal.exactValue? x = some q := by
  unfold place
  cases hValue : Decimal.exactValue? x with
  | some r => simp [hValue]
  | none =>
      simp only [hValue, reduceCtorEq, iff_false]
      split
      · simp
      · split <;> simp

theorem isFinite_iff
    (x : Float) :
    Decimal.isFinite x = true ↔
      ∃ r, Decimal.exactValue? x = some r := by
  unfold Decimal.isFinite Decimal.exactValue?
  cases Binary.ofFloat x <;> simp

/- A number in range has a double next to it. -/
theorem nearestInRange_ok
    {q : Rat}
    (hRange : |q| < 2 ^ 1023)
    (outOfRange : Fault) :
    ∃ x r, nearestInRange q outOfRange = .ok x ∧
      Decimal.exactValue? x = some r ∧ Near r q := by
  rcases (nearestDouble_rounds q).exists_near hRange with
    ⟨r, hValue, hNear⟩
  refine ⟨_, r, ?_, hValue, hNear⟩
  have hFinite := (isFinite_iff _).mpr ⟨r, hValue⟩
  simp [nearestInRange, hFinite]

/- A double that stands for a number is next to it. -/
theorem nearestInRange_near
    {q : Rat}
    {outOfRange : Fault}
    {x : Float}
    (hDouble : nearestInRange q outOfRange = .ok x) :
    ∃ r, Decimal.exactValue? x = some r ∧ Near r q := by
  simp only [nearestInRange] at hDouble
  split at hDouble
  · rename_i hFinite
    cases hDouble
    rcases (isFinite_iff _).mp hFinite with ⟨r, hValue⟩
    exact ⟨r, hValue, (nearestDouble_rounds q).near r hValue⟩
  · cases hDouble

/- The double of a finite number is next to the number. -/
theorem toDouble_near
    {a : Number}
    {p : Rat}
    {x : Float}
    (hPlace : a.place = .finite p)
    (hDouble : a.toDouble = .ok x) :
    ∃ r, Decimal.exactValue? x = some r ∧ Near r p := by
  cases a with
  | int n =>
      cases hPlace
      exact nearestInRange_near hDouble
  | ratio q =>
      cases hPlace
      exact nearestInRange_near hDouble
  | float y =>
      cases hDouble
      exact ⟨p, (place_float_iff x p).mp hPlace, Near.refl p⟩

/- A finite number in range has a double. -/
theorem toDouble_ok
    {a : Number}
    {p : Rat}
    (hPlace : a.place = .finite p)
    (hRange : |p| < 2 ^ 1023) :
    ∃ x, a.toDouble = .ok x := by
  cases a with
  | int n =>
      cases hPlace
      rcases nearestInRange_ok hRange .integerBeyondDouble with
        ⟨x, -, hDouble, -⟩
      exact ⟨x, hDouble⟩
  | ratio q =>
      cases hPlace
      rcases nearestInRange_ok hRange .quotientBeyondDouble with
        ⟨x, -, hDouble, -⟩
      exact ⟨x, hDouble⟩
  | float y => exact ⟨y, rfl⟩

theorem mul_millimetersPerInch
    (a : Number) :
    a.mul millimetersPerInch =
      a.toDouble.map fun x => .float (x * 25.4) := by
  cases a with
  | int n => rfl
  | ratio q => rfl
  | float x => rfl

theorem div_millimetersPerInch
    (a : Number) :
    a.div millimetersPerInch =
      a.toDouble.map fun x => .float (x / 25.4) := by
  have hDivide :
      a.div millimetersPerInch =
        (a.toDouble >>= fun x =>
          if (25.4 : Float) == 0.0 then fail .divisionByZero
          else .ok (.float (x / 25.4))) := by
    cases a with
    | int n => rfl
    | ratio q => rfl
    | float x => rfl
  have hSome : ((25.4 : Float) == 0.0) = false := rfl
  rw [hDivide, hSome]
  cases a.toDouble with
  | ok x => rfl
  | error fault => rfl

/- The double that stands for the millimetres of an inch. -/
def storedInch : Rat :=
  7149464408450662 / 2 ^ 48

theorem exactValue?_storedInch :
    Decimal.exactValue? 25.4 = some storedInch := by
  have hParts :
      Binary.ofFloat 25.4 = .finite false 7149464408450662 (-48) := rfl
  rw [Decimal.exactValue?, hParts]
  norm_num [storedInch]

/- A product with the millimetres of an inch is off by few roundings. -/
theorem mul_storedInch_within
    {x : Float}
    {p a r : Rat}
    (hValue : Decimal.exactValue? x = some p)
    (hNear : Near p a)
    (hResult : Decimal.exactValue? (x * 25.4) = some r) :
    Within 32 r (a * (127 / 5)) := by
  have hProduct : Within 1 r (p * storedInch) :=
    ((mul_rounds hValue exactValue?_storedInch).near r hResult).within
  have hScaled : Within (1 * 26) (p * storedInch) (a * storedInch) :=
    hNear.within.scale (by norm_num [storedInch])
      (by norm_num [storedInch]) (by norm_num)
  have hStored : Within 1 (a * storedInch) (a * (127 / 5)) :=
    Within.factor a (by norm_num [storedInch, abs_le])
  have hEarly := hScaled.trans hStored (by norm_num)
  exact (hProduct.trans hEarly (by norm_num)).mono (by norm_num)

/- A quotient by the millimetres of an inch is off by few roundings. -/
theorem div_storedInch_within
    {x : Float}
    {p a r : Rat}
    (hValue : Decimal.exactValue? x = some p)
    (hNear : Near p a)
    (hResult : Decimal.exactValue? (x / 25.4) = some r) :
    Within 32 r (a / (127 / 5)) := by
  have hSome : storedInch ≠ 0 := by norm_num [storedInch]
  have hQuotient : Within 1 r (p * storedInch⁻¹) := by
    rw [← div_eq_mul_inv]
    exact ((div_rounds hValue exactValue?_storedInch hSome).near r
      hResult).within
  have hScaled :
      Within (1 * 26) (p * storedInch⁻¹) (a * storedInch⁻¹) :=
    hNear.within.scale (by norm_num [storedInch])
      (by norm_num [storedInch]) (by norm_num)
  have hStored : Within 1 (a * storedInch⁻¹) (a / (127 / 5)) := by
    rw [div_eq_mul_inv]
    exact Within.factor a (by norm_num [storedInch, abs_le])
  have hEarly := hScaled.trans hStored (by norm_num)
  exact (hQuotient.trans hEarly (by norm_num)).mono (by norm_num)

end Number

------------------------------------------------------------
-- Lengths
------------------------------------------------------------

/- How many millimetres a unit is long. -/
def LengthUnit.millimeters : LengthUnit → Rat
  | .millimeter => 1
  | .inch => 127 / 5

/- A length in millimetres as a number of a unit. -/
def LengthUnit.inUnit
    (u : LengthUnit)
    (length : Rat) : Rat :=
  length / u.millimeters

/- The length in millimetres of a quantity of a finite amount. -/
def Value.length?
    (v : Value) : Option Rat :=
  match v with
  | .quantity name amount => do
      let u ← LengthUnit.ofValue? name
      let n ← amount.number?
      match n.place with
      | .finite a => some (a * u.millimeters)
      | _ => none
  | _ => none

theorem LengthUnit.millimeters_pos
    (u : LengthUnit) :
    0 < u.millimeters := by
  cases u with
  | millimeter => exact one_pos
  | inch => norm_num [LengthUnit.millimeters]

/- A value that names a unit is the text of the unit's symbol. -/
theorem LengthUnit.text?_of_ofValue?
    {v : Value}
    {u : LengthUnit}
    (hUnit : LengthUnit.ofValue? v = some u) :
    v.text? = some (u.symbol : Text) := by
  unfold LengthUnit.ofValue? at hUnit
  rcases Option.bind_eq_some_iff.mp hUnit with ⟨s, hString, hSymbol⟩
  rcases Option.bind_eq_some_iff.mp hString with ⟨t, hText, hStart⟩
  have hName : u.symbol = s := by
    have hFound := List.find?_some hSymbol
    exact eq_of_beq hFound
  have hPlain : t = (s : Text) := by
    rcases t with ⟨start, rest⟩
    unfold Text.string? at hStart
    cases rest with
    | nil =>
        cases hStart
        rfl
    | cons first rest => cases hStart
  rw [hText, hPlain, hName]

/- A value that names a unit equals the unit that it names only. -/
theorem LengthUnit.equals_unit
    {v : Value}
    {u : LengthUnit}
    (hUnit : LengthUnit.ofValue? v = some u)
    (w : LengthUnit) :
    v.equals (.unit w) = decide (u = w) := by
  have hText := LengthUnit.text?_of_ofValue? hUnit
  have hSame :
      ((u.symbol : Text) == (w.symbol : Text)) = decide (u = w) := by
    cases u <;> cases w <;> rfl
  cases v with
  | text t =>
      cases hText
      rw [Value.equals]
      · exact hSame
      all_goals simp
  | unit x =>
      have hSymbol : (x.symbol : Text) = (u.symbol : Text) :=
        Option.some.inj hText
      rw [Value.equals]
      · rw [← hSame, ← hSymbol]
        rfl
      all_goals simp
  | _ => cases hText

/- A value with a length is a quantity of a finite number of a unit. -/
theorem Value.quantity_of_length?
    {v : Value}
    {length : Rat}
    (hLength : v.length? = some length) :
    ∃ name amount u n a, v = .quantity name amount ∧
      LengthUnit.ofValue? name = some u ∧ amount.number? = some n ∧
      n.place = .finite a ∧ length = a * u.millimeters := by
  cases v with
  | quantity name amount =>
      rcases Option.bind_eq_some_iff.mp hLength with ⟨u, hUnit, hRest⟩
      rcases Option.bind_eq_some_iff.mp hRest with ⟨n, hNumber, hPlace⟩
      cases hFinite : n.place with
      | finite a =>
          rw [hFinite] at hPlace
          cases hPlace
          exact ⟨name, amount, u, n, a, rfl, hUnit, hNumber, hFinite, rfl⟩
      | nowhere =>
          rw [hFinite] at hPlace
          cases hPlace
      | below =>
          rw [hFinite] at hPlace
          cases hPlace
      | above =>
          rw [hFinite] at hPlace
          cases hPlace
  | _ => cases hLength

------------------------------------------------------------
-- Conversion
------------------------------------------------------------

/- Within one unit, the amount of a quantity is kept as it is. -/
theorem convert_same
    {name amount : Value}
    {u : LengthUnit}
    (hUnit : LengthUnit.ofValue? name = some u) :
    convert u (.quantity name amount) none = .ok amount := by
  simp [convert, convertAmount, LengthUnit.equals_unit hUnit]

/- Inches become millimetres if their amount is a number. -/
theorem convert_of_inch
    {name : Value}
    (hUnit : LengthUnit.ofValue? name = some .inch)
    (amount : Value) :
    convert .millimeter (.quantity name amount) none =
      (amount.asNumber >>= fun n =>
        n.toDouble.map fun x => .float (x * 25.4)) := by
  have hTarget :
      LengthUnit.ofValue? (.unit .millimeter) = some .millimeter := rfl
  simp only [convert, convertAmount, LengthUnit.equals_unit hUnit,
    hUnit, hTarget, Option.getD_none, Number.mul_millimetersPerInch]
  cases amount.asNumber with
  | error fault => rfl
  | ok n =>
      rw [Outcome.ok_bind, Outcome.ok_bind]
      cases n.toDouble with
      | error fault => rfl
      | ok x => rfl

/- So do millimetres become inches. -/
theorem convert_of_millimeter
    {name : Value}
    (hUnit : LengthUnit.ofValue? name = some .millimeter)
    (amount : Value) :
    convert .inch (.quantity name amount) none =
      (amount.asNumber >>= fun n =>
        n.toDouble.map fun x => .float (x / 25.4)) := by
  have hTarget : LengthUnit.ofValue? (.unit .inch) = some .inch := rfl
  simp only [convert, convertAmount, LengthUnit.equals_unit hUnit,
    hUnit, hTarget, Option.getD_none, Number.div_millimetersPerInch]
  cases amount.asNumber with
  | error fault => rfl
  | ok n =>
      rw [Outcome.ok_bind, Outcome.ok_bind]
      cases n.toDouble with
      | error fault => rfl
      | ok x => rfl

theorem Value.asNumber_of_number?
    {v : Value}
    {n : Number}
    (hNumber : v.number? = some n) :
    v.asNumber = .ok n := by
  rw [Value.asNumber, hNumber]

/- Inches are multiplied to become millimetres. -/
theorem convert_inch
    {name amount : Value}
    {n : Number}
    (hUnit : LengthUnit.ofValue? name = some .inch)
    (hNumber : amount.number? = some n) :
    convert .millimeter (.quantity name amount) none =
      n.toDouble.map fun x => .float (x * 25.4) := by
  rw [convert_of_inch hUnit, Value.asNumber_of_number? hNumber,
    Outcome.ok_bind]

/- Millimetres are divided to become inches. -/
theorem convert_millimeter
    {name amount : Value}
    {n : Number}
    (hUnit : LengthUnit.ofValue? name = some .millimeter)
    (hNumber : amount.number? = some n) :
    convert .inch (.quantity name amount) none =
      n.toDouble.map fun x => .float (x / 25.4) := by
  rw [convert_of_millimeter hUnit, Value.asNumber_of_number? hNumber,
    Outcome.ok_bind]

/- A converted quantity is its length in the unit, but for roundings. -/
theorem convert_within
    {v r : Value}
    {length : Rat}
    (hLength : v.length? = some length)
    {u : LengthUnit}
    (hConvert : convert u v none = .ok r) :
    ∃ n, r.number? = some n ∧
      ∀ q, n.place = .finite q → Within 32 q (u.inUnit length) := by
  rcases v.quantity_of_length? hLength with
    ⟨name, amount, w, n, a, rfl, hUnit, hNumber, hPlace, rfl⟩
  by_cases hSame : w = u
  · subst hSame
    rw [convert_same hUnit] at hConvert
    cases hConvert
    refine ⟨n, hNumber, fun q hFinite => ?_⟩
    rw [hPlace] at hFinite
    cases hFinite
    rw [LengthUnit.inUnit,
      mul_div_cancel_right₀ a w.millimeters_pos.ne']
    exact Within.refl 32 a
  · cases u with
    | millimeter =>
        have hInch : w = .inch := by
          cases w with
          | millimeter => exact absurd rfl hSame
          | inch => rfl
        subst hInch
        rw [convert_inch hUnit hNumber, Outcome.map_eq_ok_iff] at hConvert
        rcases hConvert with ⟨x, hDouble, rfl⟩
        rcases Number.toDouble_near hPlace hDouble with
          ⟨p, hValue, hNear⟩
        refine ⟨.float (x * 25.4), rfl, fun q hFinite => ?_⟩
        have hResult := (Number.place_float_iff _ q).mp hFinite
        have hWithin := Number.mul_storedInch_within hValue hNear hResult
        rw [LengthUnit.inUnit]
        simpa only [LengthUnit.millimeters, div_one] using hWithin
    | inch =>
        have hMillimeter : w = .millimeter := by
          cases w with
          | millimeter => rfl
          | inch => exact absurd rfl hSame
        subst hMillimeter
        rw [convert_millimeter hUnit hNumber,
          Outcome.map_eq_ok_iff] at hConvert
        rcases hConvert with ⟨x, hDouble, rfl⟩
        rcases Number.toDouble_near hPlace hDouble with
          ⟨p, hValue, hNear⟩
        refine ⟨.float (x / 25.4), rfl, fun q hFinite => ?_⟩
        have hResult := (Number.place_float_iff _ q).mp hFinite
        have hWithin := Number.div_storedInch_within hValue hNear hResult
        rw [LengthUnit.inUnit]
        simpa only [LengthUnit.millimeters, mul_one] using hWithin

------------------------------------------------------------
-- Plain Numbers As Amounts
------------------------------------------------------------

/- An integer or a double. -/
inductive Value.IsPlain : Value → Number → Prop
  | int
      (n : Int) :
      Value.IsPlain (.int n) (.int n)
  | float
      (x : Float) :
      Value.IsPlain (.float x) (.float x)

theorem Value.IsPlain.number?
    {v : Value}
    {n : Number}
    (hPlain : v.IsPlain n) :
    v.number? = some n := by
  cases hPlain with
  | int n => rfl
  | float x => rfl

/- A product or quotient of a number in the middle of the range is finite. -/
theorem Double.scaled_in_range
    {p a c : Rat}
    (hNear : Near p a)
    (hSmall : |a| ≤ 2 ^ 1000)
    (hFactor : |c| ≤ 26) :
    |p * c| < 2 ^ 1023 := by
  have hDistance : |p - a| ≤ |a| / 2 ^ 53 + halfLeast := hNear
  have hTriangle := abs_sub_abs_le_abs_sub p a
  have hTiny := halfLeast_tiny
  have hLarge : (2 : Rat) ^ 1 ≤ 2 ^ 1000 :=
    pow_le_pow_right₀ (by norm_num) (by norm_num)
  have hRoom : (2 : Rat) ^ 1000 * 2 ^ 23 = 2 ^ 1023 :=
    (pow_add 2 1000 23).symm
  rw [← hRoom]
  generalize (2 : Rat) ^ 1000 = root at hSmall hLarge
  have hSize : |p| ≤ 2 * root := by
    linarith only [hSmall, hLarge, hDistance, hTriangle, hTiny]
  calc |p * c| = |p| * |c| := abs_mul p c
    _ ≤ 2 * root * 26 :=
        mul_le_mul hSize hFactor (abs_nonneg c)
          (by linarith only [hLarge])
    _ < root * 2 ^ 23 := by linarith only [hLarge]

/- A quantity of a number in the middle of the range is converted. -/
theorem convert_ok
    {name amount : Value}
    {w : LengthUnit}
    {n : Number}
    {a : Rat}
    (hUnit : LengthUnit.ofValue? name = some w)
    (hPlain : amount.IsPlain n)
    (hPlace : n.place = .finite a)
    (hSmall : |a| ≤ 2 ^ 1000)
    (u : LengthUnit) :
    ∃ r m q, convert u (.quantity name amount) none = .ok r ∧
      r.IsPlain m ∧ m.place = .finite q := by
  have hRange : |a| < 2 ^ 1023 :=
    lt_of_le_of_lt hSmall
      (pow_lt_pow_right₀ (by norm_num) (by norm_num))
  rcases Number.toDouble_ok hPlace hRange with ⟨x, hDouble⟩
  rcases Number.toDouble_near hPlace hDouble with ⟨p, hValue, hNear⟩
  cases w with
  | millimeter =>
      cases u with
      | millimeter => exact ⟨amount, n, a, convert_same hUnit, hPlain, hPlace⟩
      | inch =>
          have hSome : Number.storedInch ≠ 0 := by
            norm_num [Number.storedInch]
          have hFinite : |p / Number.storedInch| < 2 ^ 1023 := by
            rw [div_eq_mul_inv]
            exact scaled_in_range hNear hSmall
              (by norm_num [Number.storedInch, abs_le])
          rcases (div_rounds hValue Number.exactValue?_storedInch
              hSome).finite hFinite with ⟨q, hResult⟩
          refine ⟨_, _, q, ?_, .float _,
            (Number.place_float_iff _ q).mpr hResult⟩
          rw [convert_millimeter hUnit hPlain.number?, hDouble]
          rfl
  | inch =>
      cases u with
      | millimeter =>
          have hFinite : |p * Number.storedInch| < 2 ^ 1023 :=
            scaled_in_range hNear hSmall
              (by norm_num [Number.storedInch, abs_le])
          rcases (mul_rounds hValue Number.exactValue?_storedInch).finite
              hFinite with ⟨q, hResult⟩
          refine ⟨_, _, q, ?_, .float _,
            (Number.place_float_iff _ q).mpr hResult⟩
          rw [convert_inch hUnit hPlain.number?, hDouble]
          rfl
      | inch => exact ⟨amount, n, a, convert_same hUnit, hPlain, hPlace⟩

end Joinery
