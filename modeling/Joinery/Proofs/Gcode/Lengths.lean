import Joinery.Gcode.Line
import Joinery.Proofs.Gcode.Numerals
import Joinery.Proofs.Measure

/-
  The numeral that is printed for a number or a length is
  the number, or the length in the unit, to the hundredth.

  Key definitions include:
    * `Line.Shows`
    * `Value.IsOrdinary`

  Key theorems include:
    * `Line.ofValue_of_plain`
    * `Line.ofValue_plain`
    * `Line.ofValue_converted`
    * `Line.ofValue_shows`
    * `Line.Shows.number`
    * `Line.ofValue_ordinary`
-/

namespace Joinery

open Double

------------------------------------------------------------
-- Plain Numbers
------------------------------------------------------------

/- An integer that has a double is finite. -/
theorem Number.isFinite_int
    (k : Int) :
    (Number.int k).isFinite = (Number.int k).toDouble.map fun _ => true := by
  unfold isFinite toDouble nearestInRange
  dsimp only
  split
  · rename_i hFinite
    exact congrArg Except.ok hFinite
  · rfl

namespace Line

/- A plain number is printed itself. -/
theorem resolve_plain
    (u : LengthUnit)
    {v : Value}
    {n : Number}
    (hPlain : v.IsPlain n) :
    resolve u v = .ok v := by
  cases hPlain with
  | int k => rfl
  | float x => rfl

/- A quantity is resolved to what it is converted to. -/
theorem resolve_of_convert
    {u : LengthUnit}
    {name amount r : Value}
    (hConvert : convert u (.quantity name amount) none = .ok r) :
    resolve u (.quantity name amount) = .ok r := by
  rw [resolve, hConvert]

/- An integer or a double is printed if it is finite, and else refused. -/
theorem ofValue_of_plain
    {u : LengthUnit}
    {v r : Value}
    {n : Number}
    (hResolve : resolve u v = .ok r)
    (hPlain : r.IsPlain n) :
    ofValue u v =
      (n.isFinite >>= fun finite =>
        if finite then Numeral.ofValue r
        else fail (.unknownOperand v)) := by
  rw [ofValue, hResolve]
  cases hPlain with
  | int k =>
      rw [Number.isFinite_int, Outcome.ok_bind]
      dsimp only
      cases hDouble : (Number.int k).toDouble with
      | ok x =>
          simp only [Outcome.ok_bind, Except.map, if_true,
            Numeral.ofValue]
      | error fault => rfl
  | float x => rfl

/- So a finite plain number is printed as its numeral. -/
theorem ofValue_of_finite
    {u : LengthUnit}
    {v r : Value}
    {n : Number}
    (hResolve : resolve u v = .ok r)
    (hPlain : r.IsPlain n)
    (hFinite : n.isFinite = .ok true) :
    ofValue u v = Numeral.ofValue r := by
  rw [ofValue_of_plain hResolve hPlain, hFinite]
  rfl

theorem ofValue_int
    (u : LengthUnit)
    (n : Int) :
    ofValue u (.int n) =
      ((Number.int n).toDouble >>= fun _ => Numeral.ofInt n) := rfl

theorem ofValue_float
    (u : LengthUnit)
    (x : Float) :
    ofValue u (.float x) =
      if Decimal.isFinite x then Numeral.ofFloat x
      else fail (.unknownOperand (.float x)) := rfl

/- An integer that has a double is short enough to be printed. -/
theorem abs_le_of_toDouble
    {n : Int}
    {x : Float}
    (hDouble : (Number.int n).toDouble = .ok x) :
    |(n : Rat)| ≤ 2 ^ 2048 := by
  rcases Number.toDouble_near (Number.place_int n) hDouble with
    ⟨r, hValue, hNear⟩
  have hLimit := Numeral.exactValue?_le hValue
  have hClose : |r - n| ≤ |(n : Rat)| / 2 ^ 53 + halfLeast := hNear
  have hTriangle := abs_sub_abs_le_abs_sub (n : Rat) r
  rw [abs_sub_comm] at hTriangle
  have hTiny := halfLeast_tiny
  have hRoom : (2 : Rat) ^ 1024 * 2 ^ 1024 = 2 ^ 2048 :=
    (pow_add 2 1024 1024).symm
  have hLarge : (2 : Rat) ^ 2 ≤ 2 ^ 1024 :=
    pow_le_pow_right₀ (by norm_num) (by norm_num)
  generalize (2 : Rat) ^ 2048 = limit at *
  generalize (2 : Rat) ^ 1024 = root at *
  nlinarith

/- What is printed for a plain number is finite, and its numeral. -/
theorem ofValue_plain
    {u : LengthUnit}
    {v : Value}
    {n : Number}
    {s : String}
    (hPlain : v.IsPlain n)
    (hPrinted : ofValue u v = .ok s) :
    ∃ q, n.place = .finite q ∧ Numeral.Prints s q := by
  cases hPlain with
  | int k =>
      rw [ofValue_int, Outcome.bind_eq_ok_iff] at hPrinted
      rcases hPrinted with ⟨x, hDouble, hInt⟩
      rcases Numeral.ofInt_prints (abs_le_of_toDouble hDouble) with
        ⟨t, hText, hPrints⟩
      rw [hText] at hInt
      cases hInt
      exact ⟨k, rfl, hPrints⟩
  | float x =>
      rw [ofValue_float] at hPrinted
      split at hPrinted
      · rename_i hFinite
        rcases (Number.isFinite_iff x).mp hFinite with ⟨q, hValue⟩
        rcases Numeral.ofFloat_prints hValue with ⟨t, hText, hPrints⟩
        rw [hText] at hPrinted
        cases hPrinted
        exact ⟨q, (Number.place_float_iff x q).mpr hValue, hPrints⟩
      · cases hPrinted

/- A plain number in the range of doubles is printed. -/
theorem ofValue_plain_ok
    (u : LengthUnit)
    {v : Value}
    {n : Number}
    {q : Rat}
    (hPlain : v.IsPlain n)
    (hPlace : n.place = .finite q)
    (hRange : |q| < 2 ^ 1023) :
    ∃ s, ofValue u v = .ok s := by
  cases hPlain with
  | int k =>
      rcases Number.toDouble_ok hPlace hRange with ⟨x, hDouble⟩
      rcases Numeral.ofInt_prints (abs_le_of_toDouble hDouble) with
        ⟨t, hText, -⟩
      refine ⟨t, ?_⟩
      rw [ofValue_int, Outcome.bind_eq_ok_iff]
      exact ⟨x, hDouble, hText⟩
  | float x =>
      have hValue := (Number.place_float_iff x q).mp hPlace
      have hFinite := (Number.isFinite_iff x).mpr ⟨q, hValue⟩
      rcases Numeral.ofFloat_prints hValue with ⟨t, hText, -⟩
      refine ⟨t, ?_⟩
      rw [ofValue_float, if_pos hFinite, hText]

/- A quantity is printed as the plain number that it is converted to. -/
theorem ofValue_converted
    {u : LengthUnit}
    {name amount r : Value}
    {n : Number}
    {s : String}
    (hConvert : convert u (.quantity name amount) none = .ok r)
    (hPlain : r.IsPlain n) :
    ofValue u (.quantity name amount) = .ok s ↔ ofValue u r = .ok s := by
  rw [ofValue_of_plain (resolve_of_convert hConvert) hPlain,
    ofValue_of_plain (resolve_plain u hPlain) hPlain]
  cases n.isFinite with
  | error fault => exact Iff.rfl
  | ok finite =>
      cases finite with
      | true => exact Iff.rfl
      | false =>
          constructor
          · intro hFault
            cases hFault
          · intro hFault
            cases hFault

/-
  A value is shown as a number in a unit if its numeral
  there denotes the number.
-/
def Shows
    (u : LengthUnit)
    (v : Value)
    (r : Rat) : Prop :=
  ∃ s, ofValue u v = .ok s ∧ Decimal.Denotes s.toList r

theorem Shows.unique
    {u : LengthUnit}
    {v : Value}
    {q r : Rat}
    (hFirst : Shows u v q)
    (hSecond : Shows u v r) :
    q = r := by
  rcases hFirst with ⟨s, hPrinted, hDenotes⟩
  rcases hSecond with ⟨t, hSame, hOther⟩
  rw [hPrinted] at hSame
  cases hSame
  exact hDenotes.unique hOther

/- Whatever is printed is a whole number of hundredths. -/
theorem ofValue_shows
    {u : LengthUnit}
    {v : Value}
    {s : String}
    (hPrinted : ofValue u v = .ok s) :
    ∃ k : Int, Shows u v (k / 100) := by
  have hShown :
      ∃ k : Int, Decimal.Denotes s.toList (k / 100) := by
    have hOpen := hPrinted
    rw [ofValue, Outcome.bind_eq_ok_iff] at hOpen
    rcases hOpen with ⟨r, -, hNumeral⟩
    cases r with
    | int n =>
        rcases ofValue_plain (u := u) (.int n) hNumeral with
          ⟨q, -, k, hDenotes, -⟩
        exact ⟨k, hDenotes⟩
    | float x =>
        simp only at hNumeral
        split at hNumeral
        · rename_i hFinite
          have hPlain : ofValue u (.float x) = .ok s := by
            rw [ofValue_float, if_pos hFinite, hNumeral]
          rcases ofValue_plain (.float x) hPlain with
            ⟨q, -, k, hDenotes, -⟩
          exact ⟨k, hDenotes⟩
        · cases hNumeral
    | _ => cases hNumeral
  rcases hShown with ⟨k, hDenotes⟩
  exact ⟨k, s, hPrinted, hDenotes⟩

/- A number is shown only if it is finite, and to the hundredth. -/
theorem Shows.number
    {u : LengthUnit}
    {v : Value}
    {n : Number}
    {r : Rat}
    (hShows : Shows u v r)
    (hNumber : v.number? = some n) :
    ∃ q, n.place = .finite q ∧ (∃ k : Int, r = k / 100) ∧
      |r - q| ≤ 1 / 200 + (|q| / 2 ^ 53 + halfLeast) := by
  rcases hShows with ⟨s, hPrinted, hDenotes⟩
  have hPlain : v.IsPlain n := by
    cases v with
    | int m =>
        cases hNumber
        exact .int m
    | float x =>
        cases hNumber
        exact .float x
    | _ => first | cases hPrinted | cases hNumber
  rcases ofValue_plain hPlain hPrinted with
    ⟨q, hPlace, k, hSame, hClose⟩
  rw [hDenotes.unique hSame]
  exact ⟨q, hPlace, ⟨k, rfl⟩, hClose⟩

end Line

------------------------------------------------------------
-- Ordinary Lengths
------------------------------------------------------------

/- An integer or a double of millimetres or inches, not astronomical. -/
def Value.IsOrdinary
    (v : Value) : Prop :=
  ∃ name amount u n a, v = .quantity name amount ∧
    LengthUnit.ofValue? name = some u ∧ amount.IsPlain n ∧
    n.place = .finite a ∧ |a| ≤ 10 ^ 9

theorem Value.length?_eq
    {name amount : Value}
    {u : LengthUnit}
    {n : Number}
    {a : Rat}
    (hUnit : LengthUnit.ofValue? name = some u)
    (hNumber : amount.number? = some n)
    (hPlace : n.place = .finite a) :
    (Value.quantity name amount).length? = some (a * u.millimeters) := by
  simp [Value.length?, hUnit, hNumber, hPlace]

/- What few roundings leave of an ordinary length is negligible. -/
theorem Double.within_ordinary
    {q v : Rat}
    (hWithin : Within 32 q v)
    (hSize : |v| ≤ 26 * 10 ^ 9) :
    |q - v| ≤ 1 / 2000 ∧ |q| ≤ 27 * 10 ^ 9 := by
  have hDistance : |q - v| ≤ (32 : Nat) * (|v| / 2 ^ 53 + halfLeast) :=
    hWithin
  have hTriangle := abs_sub_abs_le_abs_sub q v
  have hTiny := halfLeast_tiny
  push_cast at hDistance
  constructor <;> linarith

/- An ordinary length is printed in any unit, to the hundredth. -/
theorem Line.ofValue_ordinary
    {v : Value}
    (hOrdinary : v.IsOrdinary)
    (u : LengthUnit) :
    ∃ length s k, v.length? = some length ∧ Line.ofValue u v = .ok s ∧
      Decimal.Denotes s.toList ((k : Int) / 100) ∧
      |(k : Rat) / 100 - u.inUnit length| ≤ 6 / 1000 := by
  rcases hOrdinary with
    ⟨name, amount, w, n, a, rfl, hUnit, hPlain, hPlace, hSmall⟩
  have hLength := Value.length?_eq hUnit hPlain.number? hPlace
  have hMiddle : |a| ≤ 2 ^ 1000 :=
    hSmall.trans (le_trans (by norm_num : (10 : Rat) ^ 9 ≤ 2 ^ 30)
      (pow_le_pow_right₀ (by norm_num) (by norm_num)))
  rcases convert_ok hUnit hPlain hPlace hMiddle u with
    ⟨r, m, q, hConvert, hResult, hFinite⟩
  have hInUnit : |u.inUnit (a * w.millimeters)| ≤ 26 * 10 ^ 9 := by
    have hFactor : |w.millimeters / u.millimeters| ≤ 26 := by
      cases w <;> cases u <;>
        norm_num [LengthUnit.millimeters, abs_le]
    rw [LengthUnit.inUnit, mul_div_assoc, abs_mul]
    calc |a| * |w.millimeters / u.millimeters|
        ≤ 10 ^ 9 * 26 :=
          mul_le_mul hSmall hFactor (abs_nonneg _) (by norm_num)
      _ = 26 * 10 ^ 9 := by ring
  have hClose : |q - u.inUnit (a * w.millimeters)| ≤ 1 / 2000 ∧
      |q| ≤ 27 * 10 ^ 9 := by
    rcases convert_within hLength hConvert with ⟨m', hNumber, hWithin⟩
    rw [hResult.number?] at hNumber
    cases hNumber
    exact Double.within_ordinary (hWithin q hFinite) hInUnit
  have hRange : |q| < 2 ^ 1023 :=
    lt_of_le_of_lt hClose.2
      (lt_of_lt_of_le (by norm_num : (27 : Rat) * 10 ^ 9 < 2 ^ 40)
        (pow_le_pow_right₀ (by norm_num) (by norm_num)))
  rcases Line.ofValue_plain_ok u hResult hFinite hRange with
    ⟨s, hPrinted⟩
  rcases Line.ofValue_plain hResult hPrinted with
    ⟨q', hSame, k, hDenotes, hNumeral⟩
  rw [hFinite] at hSame
  cases hSame
  refine ⟨a * w.millimeters, s, k, hLength,
    (Line.ofValue_converted hConvert hResult).mpr hPrinted, hDenotes, ?_⟩
  have hTiny := halfLeast_tiny
  have hTriangle :=
    abs_sub_le ((k : Rat) / 100) q (u.inUnit (a * w.millimeters))
  linarith [hClose.1, hClose.2]

end Joinery
