import Joinery.Gcode.Numeral
import Joinery.Proofs.Decimal.Numerals
import Joinery.Proofs.Decimal.Shortest
import Joinery.Proofs.Double.Closeness

/-
  A numeral denotes a whole number of hundredths. It is half
  a hundredth away from the number it is made from, and as
  much as the shortest decimal of a double is away from the
  double.

  Key definitions include:
    * `Numeral.Prints`
    * `Numeral.FitsPrecision`

  Key theorems include:
    * `Numeral.ofInt_prints`
    * `Numeral.ofFloat_prints`
-/

namespace Joinery

namespace Numeral

open Double

/-
  A numeral of hundredths for a number. It is off by half a
  hundredth at most, and by the least that doubles can tell.
-/
def Prints
    (numeral : String)
    (q : Rat) : Prop :=
  ∃ n : Int,
    Decimal.Denotes numeral.toList (n / 100) ∧
      |(n : Rat) / 100 - q| ≤ 1 / 200 + (|q| / 2 ^ 53 + halfLeast)

/- A number that can be written out is not too long. -/
theorem not_exceedsLimit
    {n : Int}
    (hShort : |(n : Rat)| ≤ 2 ^ 2048) :
    Decimal.exceedsLimit n = false := by
  have hSize : n.natAbs ≤ 2 ^ 2048 := by
    rw [← Int.cast_abs, Int.abs_eq_natAbs] at hShort
    exact_mod_cast hShort
  have hLimit : 2 ^ 2048 < 10 ^ Decimal.digitLimit :=
    calc 2 ^ 2048 < 10 ^ 2048 :=
          Nat.pow_lt_pow_left (by norm_num) (by norm_num)
      _ ≤ 10 ^ Decimal.digitLimit :=
          Nat.pow_le_pow_right (by norm_num) (by decide)
  rw [Decimal.exceedsLimit, decide_eq_false_iff_not]
  exact not_le.mpr (lt_of_le_of_lt hSize hLimit)

/- An integer is printed as it is. -/
theorem ofInt_prints
    {n : Int}
    (hShort : |(n : Rat)| ≤ 2 ^ 2048) :
    ∃ s, ofInt n = .ok s ∧ Prints s n := by
  refine ⟨Decimal.integerText n, ?_, n * 100, ?_, ?_⟩
  · rw [ofInt, not_exceedsLimit hShort]
    rfl
  · have hExact : ((n * 100 : Int) : Rat) / 100 = n := by
      push_cast
      ring
    rw [hExact]
    exact Decimal.integerText_denotes n
  · have hExact : ((n * 100 : Int) : Rat) / 100 - n = 0 := by
      push_cast
      ring
    rw [hExact, abs_zero]
    have hHalf := halfLeast_pos
    positivity

theorem pow_places :
    (10 : Rat) ^ places = 100 := by
  norm_num [places]

/- A decimal whose hundredths have no more digits than are kept. -/
def FitsPrecision
    (d : Decimal) : Prop :=
  Decimal.digitCount
      (Decimal.roundMagnitude .awayFromZero
        (d.magnitude * (10 : Rat) ^ places)) ≤ precision

/- Such a decimal is rounded to two places. -/
theorem ofDecimal_of_fits
    {d : Decimal}
    (hFits : FitsPrecision d) :
    ofDecimal d =
      .ok
        (String.ofList
          (Decimal.fixedText .awayFromZero places d.negative
            d.magnitude)) :=
  if_neg (not_lt.mpr hFits)

/- Any other one is refused. -/
theorem ofDecimal_of_not_fits
    {d : Decimal}
    (hLong : ¬ FitsPrecision d) :
    ofDecimal d = .error .noDecimalForm :=
  if_pos (not_le.mp hLong)

/- A decimal of ordinary size fits the precision. -/
theorem fits_of_size
    {d : Decimal}
    (hSize : d.magnitude ≤ 2 ^ 53) :
    FitsPrecision d := by
  have hNonneg : 0 ≤ d.magnitude * (10 : Rat) ^ places :=
    mul_nonneg d.magnitude_nonneg (pow_pos (by norm_num) places).le
  have hClose :=
    (abs_le.mp (Decimal.roundMagnitude_close .awayFromZero hNonneg)).2
  unfold FitsPrecision
  generalize Decimal.roundMagnitude .awayFromZero
    (d.magnitude * (10 : Rat) ^ places) = units at hClose ⊢
  rw [Decimal.digitCount_le_iff (by decide)]
  rw [pow_places] at hClose
  have hUnits : (units : Rat) < 10 ^ precision :=
    calc (units : Rat) ≤ 2 ^ 53 * 100 + 1 / 2 := by linarith
      _ < 10 ^ precision := by norm_num [precision]
  exact_mod_cast hUnits

/- A decimal of ordinary size is printed with two places. -/
theorem ofDecimal_prints
    {d : Decimal}
    (hSize : d.magnitude ≤ 2 ^ 53) :
    ∃ s, ofDecimal d = .ok s ∧
      ∃ n : Int,
        Decimal.Denotes s.toList (n / 100) ∧
          |(n : Rat) / 100 - d.toRat| ≤ 1 / 200 := by
  have hDenotes :=
    Decimal.fixedText_denotes .awayFromZero (show places ≠ 0 by decide)
      d.negative d.magnitude
  have hClose :=
    Decimal.roundMagnitude_close .awayFromZero
      (mul_nonneg d.magnitude_nonneg (pow_pos (by norm_num) places).le :
        0 ≤ d.magnitude * (10 : Rat) ^ places)
  refine ⟨_, ofDecimal_of_fits (fits_of_size hSize), ?_⟩
  rw [String.toList_ofList]
  generalize Decimal.roundMagnitude .awayFromZero
    (d.magnitude * (10 : Rat) ^ places) = units at hDenotes hClose
  have hUnit : (10 : Rat) ^ (-(places : Int)) = 1 / 100 := by
    rw [zpow_neg, zpow_natCast, pow_places, one_div]
  rw [pow_places, abs_le] at hClose
  refine ⟨if d.negative then -units else units, ?_, ?_⟩
  · convert hDenotes using 1
    simp only [Decimal.toRat, Decimal.magnitude, hUnit]
    split
    · push_cast
      ring
    · push_cast
      ring
  · rw [Decimal.toRat, abs_le]
    split
    · push_cast
      constructor <;> linarith [hClose.1, hClose.2]
    · push_cast
      constructor <;> linarith [hClose.1, hClose.2]

/- The sign is all that the parts of a double leave out. -/
theorem abs_of_parts
    {q : Rat}
    {negative : Bool}
    {m : Nat}
    {e : Int}
    (hExact :
      q = if negative then -(m * (2 : Rat) ^ e) else m * 2 ^ e) :
    |q| = m * (2 : Rat) ^ e := by
  have hNonneg : 0 ≤ (m : Rat) * 2 ^ e :=
    mul_nonneg (Nat.cast_nonneg m) (zpow_pos (by norm_num) e).le
  rw [hExact]
  split
  · rw [abs_neg, abs_of_nonneg hNonneg]
  · exact abs_of_nonneg hNonneg

/- A finite double lies within the range of doubles. -/
theorem exactValue?_le
    {x : Float}
    {q : Rat}
    (hValue : Decimal.exactValue? x = some q) :
    |q| ≤ 2 ^ 1024 := by
  rcases parts_of_exactValue? hValue with
    ⟨negative, m, e, -, hExact, hParts⟩
  rw [abs_of_parts hExact]
  rcases hParts with hZero | ⟨hCanonical, hRange⟩
  · rw [hZero, Nat.cast_zero, zero_mul]
    positivity
  · have hMantissa : (m : Rat) ≤ 2 ^ 53 := by
      exact_mod_cast hCanonical.fits.le
    have hPower : (2 : Rat) ^ e ≤ 2 ^ 971 := by
      rw [← zpow_natCast]
      exact zpow_le_zpow_right₀ (by norm_num) hRange
    calc (m : Rat) * 2 ^ e ≤ 2 ^ 53 * 2 ^ 971 :=
          mul_le_mul hMantissa hPower (zpow_pos (by norm_num) e).le
            (pow_nonneg (by norm_num) _)
      _ = 2 ^ (53 + 971) := (pow_add 2 53 971).symm

/- A double that is not whole has a negative binary exponent. -/
theorem exponent_neg
    {q : Rat}
    {negative : Bool}
    {m : Nat}
    {e : Int}
    (hExact : q = if negative then -(m * (2 : Rat) ^ e) else m * 2 ^ e)
    (hPart : q.den ≠ 1) :
    e < 0 := by
  by_contra hWhole
  apply hPart
  have hPower : (2 : Rat) ^ e = ((2 ^ e.toNat : Int) : Rat) := by
    push_cast
    rw [← zpow_natCast, Int.toNat_of_nonneg (not_lt.mp hWhole)]
  have hInt :
      q = ((if negative then -(m * 2 ^ e.toNat) else m * 2 ^ e.toNat :
        Int) : Rat) := by
    rw [hExact, hPower]
    split <;> push_cast <;> rfl
  rw [hInt]
  exact Rat.den_intCast _

/- A double that is not whole is of ordinary size. -/
theorem abs_lt_of_not_whole
    {x : Float}
    {q : Rat}
    (hValue : Decimal.exactValue? x = some q)
    (hPart : q.den ≠ 1) :
    |q| < 2 ^ 52 := by
  rcases parts_of_exactValue? hValue with
    ⟨negative, m, e, -, hExact, hParts⟩
  have hNeg := exponent_neg hExact hPart
  have hFits : (m : Rat) < 2 ^ 53 := by
    rcases hParts with hZero | ⟨hCanonical, -⟩
    · rw [hZero]
      norm_num
    · exact_mod_cast hCanonical.fits
  have hHalf : (2 : Rat) ^ e ≤ 2 ^ (-1 : Int) :=
    zpow_le_zpow_right₀ (by norm_num) (by omega)
  calc |q| = m * (2 : Rat) ^ e := abs_of_parts hExact
    _ ≤ m * 2 ^ (-1 : Int) :=
        mul_le_mul_of_nonneg_left hHalf (Nat.cast_nonneg m)
    _ < 2 ^ 53 * 2 ^ (-1 : Int) :=
        mul_lt_mul_of_pos_right hFits (by norm_num)
    _ = 2 ^ 52 := by norm_num

/- The shortest decimal of such a double is of ordinary size, too. -/
theorem magnitude_of_not_whole
    {x : Float}
    {q : Rat}
    {d : Decimal}
    (hValue : Decimal.exactValue? x = some q)
    (hPart : q.den ≠ 1)
    (hShortest : Decimal.shortest? x = some d) :
    d.magnitude ≤ 2 ^ 53 := by
  have hNear : Near d.toRat q := by
    rcases Decimal.shortest?_near hValue with ⟨d', hFound, hNear⟩
    rw [hShortest] at hFound
    cases hFound
    exact hNear
  have hTotal := abs_sub_abs_le_abs_sub d.toRat q
  have hLess := abs_lt_of_not_whole hValue hPart
  have hSlack : |q| / 2 ^ 53 + halfLeast ≤ 2 ^ 52 := by
    have hTiny := halfLeast_tiny
    have hShare : |q| / 2 ^ 53 ≤ 2 ^ 52 / 2 ^ 53 :=
      div_le_div_of_nonneg_right hLess.le (by positivity)
    linarith
  rw [← d.abs_toRat]
  unfold Near at hNear
  linarith

/- So it fits the precision. -/
theorem fits_of_not_whole
    {x : Float}
    {q : Rat}
    {d : Decimal}
    (hValue : Decimal.exactValue? x = some q)
    (hPart : q.den ≠ 1)
    (hShortest : Decimal.shortest? x = some d) :
    FitsPrecision d :=
  fits_of_size (magnitude_of_not_whole hValue hPart hShortest)

/- A finite double is printed. -/
theorem ofFloat_prints
    {x : Float}
    {q : Rat}
    (hValue : Decimal.exactValue? x = some q) :
    ∃ s, ofFloat x = .ok s ∧ Prints s q := by
  by_cases hWhole : q.den = 1
  · have hCast : (q.num : Rat) = q := Rat.coe_int_num_of_den_eq_one hWhole
    have hShort : |(q.num : Rat)| ≤ 2 ^ 2048 := by
      rw [hCast]
      exact (exactValue?_le hValue).trans
        (pow_le_pow_right₀ (by norm_num) (by norm_num))
    rcases ofInt_prints hShort with ⟨s, hText, hPrints⟩
    rw [hCast] at hPrints
    refine ⟨s, ?_, hPrints⟩
    rw [ofFloat, hValue]
    simpa [hWhole] using hText
  · rcases Decimal.shortest?_near hValue with ⟨d, hShortest, hNear⟩
    have hSize := magnitude_of_not_whole hValue hWhole hShortest
    rcases ofDecimal_prints hSize with ⟨s, hText, n, hDenotes, hClose⟩
    refine ⟨s, ?_, n, hDenotes, ?_⟩
    · rw [ofFloat, hValue]
      simp [hWhole, hShortest, hText]
    · calc |(n : Rat) / 100 - q|
          ≤ |(n : Rat) / 100 - d.toRat| + |d.toRat - q| :=
            abs_sub_le _ _ _
        _ ≤ 1 / 200 + (|q| / 2 ^ 53 + halfLeast) :=
            add_le_add hClose hNear

end Numeral

end Joinery
