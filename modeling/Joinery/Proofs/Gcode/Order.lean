import Joinery.Proofs.Gcode.Rounding
import Joinery.Proofs.Number.Order

/-
  Numerals keep the order of the numbers, of both kinds and
  across the kinds, and opposite numbers have opposite
  numerals.

  Key definitions include:
    * `Numeral.IsShown`
    * `Number.IsWritable`

  Key theorems include:
    * `Numeral.IsNearestAway.mono`
    * `Numeral.IsShown.mono`
    * `Numeral.exists_shown`
    * `Numeral.keeps_order_and_sign`
-/

namespace Joinery

namespace Numeral

open Double
open Decimal (Denotes IsPlain AreDigits naturalOf withSign)

------------------------------------------------------------
-- Rounding Keeps The Order
------------------------------------------------------------

/-
  Of two numbers, the larger one has the larger nearest
  hundredth. If the order were reversed, both numbers would
  be half way between the two hundredths, and each of these
  would be the one farther from zero.
-/
theorem IsNearestAway.mono
    {c d : Rat}
    {units more : Int}
    (hFirst : IsNearestAway units c)
    (hSecond : IsNearestAway more d)
    (hOrder : c ≤ d) :
    units ≤ more := by
  by_contra hMore
  have hLess : more < units := not_le.mp hMore
  have hGap : (more : Rat) / 100 < units / 100 := by
    have hCast : (more : Rat) < units := by exact_mod_cast hLess
    linarith
  have hMiddle :
      ∀ x : Rat,
        (|(units : Rat) / 100 - x| ≤ |(more : Rat) / 100 - x| →
          (units : Rat) / 100 + more / 100 ≤ 2 * x) ∧
        (|(more : Rat) / 100 - x| ≤ |(units : Rat) / 100 - x| →
          2 * x ≤ units / 100 + more / 100) := by
    intro x
    rw [← sq_le_sq, ← sq_le_sq]
    constructor <;> intro hNear <;> nlinarith
  have hNear : |(units : Rat) / 100 - c| ≤ |(more : Rat) / 100 - c| :=
    (hFirst more hLess.ne).elim le_of_lt fun hTie => hTie.1.le
  have hOther : |(more : Rat) / 100 - d| ≤ |(units : Rat) / 100 - d| :=
    (hSecond units hLess.ne').elim le_of_lt fun hTie => hTie.1.le
  have hSame : c = d := by
    have hAbove := (hMiddle c).1 hNear
    have hBelow := (hMiddle d).2 hOther
    linarith
  subst hSame
  rcases hFirst more hLess.ne with hNearer | ⟨-, hFar⟩
  · exact absurd hNearer (not_lt.mpr hOther)
  · rcases hSecond units hLess.ne' with hNearer | ⟨-, hFarther⟩
    · exact absurd hNearer (not_lt.mpr hNear)
    · exact lt_asymm hFar hFarther

------------------------------------------------------------
-- What Numerals Are Rounded From
------------------------------------------------------------

/-
  A number that is not whole, and the shortest decimal that
  has its sign and rounds to its parts.
-/
structure IsShortened
    (q d : Rat)
    (m : Nat)
    (e : Int) : Prop where
  notWhole : q.den ≠ 1
  exponent : e < 0
  size : |q| = m * 2 ^ e
  decimal : |d| = (Decimal.shortest false m e).magnitude
  rounds : RoundsTo |d| m e
  sign : q < 0 ∧ d < 0 ∨ 0 < q ∧ 0 < d

/-
  What a numeral is rounded from: a whole number itself, and
  a decimal for any other number.
-/
inductive IsShown : Rat → Rat → Prop where
  | whole
      {q : Rat}
      (hWhole : q.den = 1) :
      IsShown q q
  | part
      {q d : Rat}
      {m : Nat}
      {e : Int}
      (hShort : IsShortened q d m e) :
      IsShown q d

namespace IsShortened

variable {p q c d : Rat}
variable {m n : Nat}
variable {e f : Int}

/- The opposite number has the opposite decimal. -/
theorem neg
    (hShort : IsShortened q d m e) :
    IsShortened (-q) (-d) m e where
  notWhole := by
    rw [Rat.den_neg_eq_den]
    exact hShort.notWhole
  exponent := hShort.exponent
  size := by
    rw [abs_neg]
    exact hShort.size
  decimal := by
    rw [abs_neg]
    exact hShort.decimal
  rounds := by
    rw [abs_neg]
    exact hShort.rounds
  sign := by
    rcases hShort.sign with hBelow | hAbove
    · exact Or.inr ⟨neg_pos.mpr hBelow.1, neg_pos.mpr hBelow.2⟩
    · exact Or.inl ⟨neg_neg_of_pos hAbove.1, neg_neg_of_pos hAbove.2⟩

/- The decimal is half a step away at most. -/
theorem close
    (hShort : IsShortened q d m e) :
    |d - q| ≤ 2 ^ e / 2 := by
  have hClose := Decimal.ofParts_holds_close hShort.rounds.holds
  rw [← hShort.size] at hClose
  rcases hShort.sign with hBelow | hAbove
  · rwa [abs_of_neg hBelow.1, abs_of_neg hBelow.2, ← neg_sub',
      abs_neg] at hClose
  · rwa [abs_of_pos hAbove.1, abs_of_pos hAbove.2] at hClose

/-
  A whole number below a number that is not whole is a step
  away at least, so it is below the decimal as well.
-/
theorem le_of_whole_le
    (hShort : IsShortened q d m e)
    (hWhole : p.den = 1)
    (hOrder : p ≤ q) :
    p ≤ d := by
  have hUnit : (0 : Rat) < 2 ^ e := zpow_pos (by norm_num) e
  have hSteps : ∃ k : Int, q = k * (2 : Rat) ^ e := by
    have hSize := hShort.size
    rcases hShort.sign with hBelow | hAbove
    · refine ⟨-m, ?_⟩
      rw [abs_of_neg hBelow.1] at hSize
      push_cast
      linarith
    · refine ⟨m, ?_⟩
      rw [abs_of_pos hAbove.1] at hSize
      exact_mod_cast hSize
  have hWholeSteps : ∃ n : Int, p = n * (2 : Rat) ^ e := by
    refine ⟨p.num * 2 ^ (-e).toNat, ?_⟩
    have hPower : (2 : Rat) ^ (-e).toNat = (2 ^ e)⁻¹ := by
      rw [← zpow_neg, ← zpow_natCast,
        Int.toNat_of_nonneg (by linarith [hShort.exponent])]
    push_cast
    rw [hPower, inv_mul_cancel_right₀ hUnit.ne']
    exact (Rat.coe_int_num_of_den_eq_one hWhole).symm
  rcases hSteps with ⟨k, rfl⟩
  rcases hWholeSteps with ⟨n, rfl⟩
  have hStrict : (n : Rat) * 2 ^ e < k * 2 ^ e := by
    refine lt_of_le_of_ne hOrder fun hSame => hShort.notWhole ?_
    rwa [← hSame]
  have hNext : (n : Rat) + 1 ≤ k := by
    exact_mod_cast lt_of_mul_lt_mul_right hStrict hUnit.le
  have hStep : ((n : Rat) + 1) * 2 ^ e ≤ k * 2 ^ e :=
    mul_le_mul_of_nonneg_right hNext hUnit.le
  have hClose := (abs_le.mp hShort.close).1
  linarith

/- The decimals of positive numbers are in their order. -/
theorem le_of_pos
    (hFirst : IsShortened p c m e)
    (hSecond : IsShortened q d n f)
    (hPos : 0 < p)
    (hOrder : p < q) :
    c ≤ d := by
  have hSigns : 0 < c ∧ 0 < d := by
    refine ⟨?_, ?_⟩
    · rcases hFirst.sign with hBelow | hAbove
      · exact absurd hBelow.1 (not_lt.mpr hPos.le)
      · exact hAbove.2
    · rcases hSecond.sign with hBelow | hAbove
      · exact absurd hBelow.1 (not_lt.mpr (hPos.trans hOrder).le)
      · exact hAbove.2
  have hSizes : (m : Rat) * 2 ^ e < n * 2 ^ f := by
    rwa [← hFirst.size, ← hSecond.size, abs_of_pos hPos,
      abs_of_pos (hPos.trans hOrder)]
  have hLess := hFirst.rounds.lt_of_lt hSecond.rounds hSizes
  rw [abs_of_pos hSigns.1, abs_of_pos hSigns.2] at hLess
  exact hLess.le

/- So are those of any numbers that are not whole. -/
theorem le_of_lt
    (hFirst : IsShortened p c m e)
    (hSecond : IsShortened q d n f)
    (hOrder : p < q) :
    c ≤ d := by
  rcases hFirst.sign with hBelow | hAbove
  · rcases hSecond.sign with hBelowToo | hAbove
    · have hFlipped :=
        hSecond.neg.le_of_pos hFirst.neg (neg_pos.mpr hBelowToo.1)
          (neg_lt_neg hOrder)
      exact neg_le_neg_iff.mp hFlipped
    · exact (hBelow.2.trans hAbove.2).le
  · exact hFirst.le_of_pos hSecond hAbove.1 hOrder

/- A number has one shortest decimal. -/
theorem unique
    (hFirst : IsShortened q c m e)
    (hSecond : IsShortened q d n f) :
    c = d := by
  have hParts : m = n ∧ e = f := by
    apply hFirst.rounds.canonical.eq_of_value hSecond.rounds.canonical
    rw [← hFirst.size, hSecond.size]
  rcases hParts with ⟨rfl, rfl⟩
  have hSame : |c| = |d| := hFirst.decimal.trans hSecond.decimal.symm
  rcases hFirst.sign with hBelow | hAbove
  · rcases hSecond.sign with hBelowToo | hAbove
    · rw [abs_of_neg hBelow.2, abs_of_neg hBelowToo.2] at hSame
      exact neg_injective hSame
    · exact absurd hBelow.1 (not_lt.mpr hAbove.1.le)
  · rcases hSecond.sign with hBelow | hAboveToo
    · exact absurd hBelow.1 (not_lt.mpr hAbove.1.le)
    · rwa [abs_of_pos hAbove.2, abs_of_pos hAboveToo.2] at hSame

end IsShortened

/- Larger numbers are rounded from larger numbers. -/
theorem IsShown.mono
    {p q c d : Rat}
    (hFirst : IsShown p c)
    (hSecond : IsShown q d)
    (hOrder : p ≤ q) :
    c ≤ d := by
  cases hFirst with
  | whole hWhole =>
      cases hSecond with
      | whole hWholeToo => exact hOrder
      | part hShort => exact hShort.le_of_whole_le hWhole hOrder
  | part hShort =>
      cases hSecond with
      | whole hWhole =>
          have hOpposite : (-q).den = 1 := (Rat.den_neg_eq_den q).trans hWhole
          exact neg_le_neg_iff.mp
            (hShort.neg.le_of_whole_le hOpposite (neg_le_neg hOrder))
      | part hShortToo =>
          rcases hOrder.lt_or_eq with hLess | rfl
          · exact hShort.le_of_lt hShortToo hLess
          · exact (hShort.unique hShortToo).le

------------------------------------------------------------
-- Numerals Denote Numbers
------------------------------------------------------------

/- A whole number that is written in full is read as it is. -/
theorem IsWhole.denotes
    {cs : List Char}
    {n : Int}
    (hForm : IsWhole cs n) :
    Denotes cs n := by
  rcases hForm with ⟨ds, rfl, hPlain, hValue⟩
  have hUnsigned :=
    Decimal.unsigned?_digits hPlain.digits hPlain.present
  have hFirst :=
    Decimal.exists_first_digit hPlain.digits hPlain.present []
  rw [List.append_nil] at hFirst
  refine ⟨⟨_, Decimal.ofNumeral?_signed _ hFirst hUnsigned, ?_⟩,
    Decimal.blank_not_mem_signed _
      (Decimal.blank_not_mem_digits hPlain.digits)⟩
  rw [hValue]
  simp only [Decimal.toRat, Decimal.magnitude, zpow_zero, mul_one,
    decide_eq_true_eq]
  rw [Nat.cast_natAbs, Int.cast_abs]
  split
  · rename_i hNeg
    rw [abs_of_neg (by exact_mod_cast hNeg), neg_neg]
  · rename_i hNonneg
    exact abs_of_nonneg (by exact_mod_cast not_lt.mp hNonneg)

/- Hundredths are read as what they count. -/
theorem IsHundredths.denotes
    {cs : List Char}
    {negative : Bool}
    {units : Int}
    (hForm : IsHundredths cs negative units) :
    Denotes cs (units / 100) := by
  rcases hForm with ⟨whole, first, second, rfl, hPlain, hDigits, rfl⟩
  have hUnsigned :=
    Decimal.unsigned?_pointed hPlain.digits hDigits hPlain.present
  have hFirst :=
    Decimal.exists_first_digit hPlain.digits hPlain.present
      ['.', first, second]
  have hBlank : ' ' ∉ whole ++ ['.', first, second] := by
    rw [List.mem_append, List.mem_cons, not_or, not_or]
    exact ⟨Decimal.blank_not_mem_digits hPlain.digits, by decide,
      Decimal.blank_not_mem_digits hDigits⟩
  refine ⟨⟨_, Decimal.ofNumeral?_signed negative hFirst hUnsigned, ?_⟩,
    Decimal.blank_not_mem_signed negative hBlank⟩
  have hPower :
      (10 : Rat) ^ (-([first, second].length : Int)) = 1 / 100 := by
    norm_num
  rw [Decimal.toRat, Decimal.magnitude, hPower]
  split <;> push_cast <;> ring

/- A whole number is a hundred times as many hundredths. -/
theorem hundredths_of_whole
    (n : Int) :
    ((100 * n : Int) : Rat) / 100 = n := by
  push_cast
  ring

/- A whole number has itself as its nearest hundredth. -/
theorem isNearestAway_whole
    (n : Int) :
    IsNearestAway (100 * n) n := by
  intro other hOther
  left
  rw [hundredths_of_whole, sub_self, abs_zero, abs_pos, sub_ne_zero, Ne,
    div_eq_iff (by norm_num), mul_comm]
  exact_mod_cast hOther

------------------------------------------------------------
-- Opposite Numerals
------------------------------------------------------------

/- One of two texts is the other one with a minus sign before it. -/
def AreOpposite
    (s t : String) : Prop :=
  t = "-" ++ s ∨ s = "-" ++ t

/- An integer above zero differs from the opposite one in a sign. -/
theorem integerText_neg
    {n : Int}
    (hPos : 0 < n) :
    Decimal.integerText (-n) = "-" ++ Decimal.integerText n := by
  rw [← String.toList_inj, String.toList_append,
    Decimal.integerText_toList, Decimal.integerText_toList,
    if_pos (by omega), if_neg (by omega), Int.natAbs_neg]
  rfl

/- Opposite integers have opposite numerals. -/
theorem ofInt_opposite
    {n : Int}
    (hShort : Decimal.exceedsLimit n = false)
    (hSome : n ≠ 0) :
    ∃ s t, ofInt n = .ok s ∧ ofInt (-n) = .ok t ∧ AreOpposite s t := by
  have hShortToo : Decimal.exceedsLimit (-n) = false := by
    rw [Decimal.exceedsLimit, Int.natAbs_neg]
    exact hShort
  refine ⟨Decimal.integerText n, Decimal.integerText (-n), ?_, ?_, ?_⟩
  · rw [ofInt, hShort]
    rfl
  · rw [ofInt, hShortToo]
    rfl
  · rcases lt_or_gt_of_ne hSome with hNeg | hPos
    · have hText := integerText_neg (neg_pos.mpr hNeg)
      rw [neg_neg] at hText
      exact Or.inr hText
    · exact Or.inl (integerText_neg hPos)

/- Opposite decimals have opposite numerals. -/
theorem ofDecimal_opposite
    {d : Decimal}
    (hFits : FitsPrecision d) :
    ∃ s t, ofDecimal d = .ok s ∧
      ofDecimal { d with negative := !d.negative } = .ok t ∧
      AreOpposite s t := by
  have hFitsToo :
      FitsPrecision { d with negative := !d.negative } :=
    hFits
  have hMinus :
      ∀ cs : List Char,
        String.ofList ('-' :: cs) = "-" ++ String.ofList cs := by
    intro cs
    rw [← String.toList_inj, String.toList_append]
    simp only [String.toList_ofList]
    rfl
  refine ⟨_, _, ofDecimal_of_fits hFits, ofDecimal_of_fits hFitsToo, ?_⟩
  unfold Decimal.fixedText
  cases d.negative with
  | true => exact Or.inr (hMinus _)
  | false => exact Or.inl (hMinus _)

end Numeral

------------------------------------------------------------
-- Numbers With Numerals
------------------------------------------------------------

/- An integer that is not too long, or a finite double. -/
def Number.IsWritable : Number → Prop
  | .int n => Decimal.digitCount n.natAbs ≤ 4300
  | .float x => Decimal.isFinite x = true
  | .ratio _ => False

namespace Numeral

open Double
open Decimal (Denotes)

/-
  A double that is not whole is shown as the hundredth that is
  nearest to its shortest decimal.
-/
theorem exists_shown_part
    {x : Float}
    {q : Rat}
    (hValue : Decimal.exactValue? x = some q)
    (hPart : q.den ≠ 1) :
    ∃ d s units, IsShown q d ∧ ofFloat x = .ok s ∧
      IsNearestAway units d ∧ Denotes s.toList (units / 100) := by
  have hSome : q ≠ 0 := by
    rintro rfl
    exact hPart rfl
  rcases Decimal.shortest?_parts hValue hSome with
    ⟨negative, m, e, hShortest, -, hNegative, hExact, hRounds⟩
  have hFits := fits_of_not_whole hValue hPart hShortest
  rcases ofDecimal_rounds hFits with ⟨s, units, hText, hForm, hNearest⟩
  have hAbs := (Decimal.shortest negative m e).abs_toRat
  have hNonneg := (Decimal.shortest negative m e).magnitude_nonneg
  have hShort :
      IsShortened q (Decimal.shortest negative m e).toRat m e := by
    constructor
    case notWhole => exact hPart
    case exponent => exact exponent_neg hExact hPart
    case size => exact abs_of_parts hExact
    case decimal =>
      rw [hAbs, Decimal.shortest_sign]
      rfl
    case rounds => rwa [hAbs]
    case sign =>
      have hPositive :
          0 < (Decimal.shortest negative m e).magnitude := by
        have hMantissa : 0 < m := by
          apply Nat.pos_of_ne_zero
          rintro rfl
          rw [Nat.cast_zero, zero_mul, neg_zero, ite_self] at hExact
          exact hSome hExact
        have hRange : e ≤ 971 := by
          linarith [exponent_neg hExact hPart]
        exact lt_of_lt_of_le (zpow_pos (by norm_num) _)
          (Decimal.roundsTo_bounds hMantissa hRange hRounds).1
      rw [Decimal.toRat, Decimal.shortest_negative]
      rcases lt_or_gt_of_ne hSome with hNeg | hPos
      · rw [if_pos (hNegative.trans (decide_eq_true hNeg))]
        exact Or.inl ⟨hNeg, neg_neg_of_pos hPositive⟩
      · have hNotNeg := decide_eq_false (not_lt.mpr hPos.le)
        rw [hNegative.trans hNotNeg, if_neg Bool.false_ne_true,
          ← hNegative.trans hNotNeg]
        exact Or.inr ⟨hPos, hPositive⟩
  refine ⟨_, s, units, .part hShort, ?_, hNearest, hForm.denotes⟩
  rw [ofFloat, hValue]
  simp only [hPart, if_false, hShortest, hText]

/-
  A number with a numeral is shown as the hundredth that is
  nearest to what the numeral is rounded from.
-/
theorem exists_shown
    {a : Number}
    (hWritable : a.IsWritable) :
    ∃ q d s units, a.place = .finite q ∧ IsShown q d ∧
      ofValue a.toValue = .ok s ∧
      IsNearestAway units d ∧ Denotes s.toList (units / 100) := by
  cases a with
  | int n =>
      have hShort := (Decimal.exceedsLimit_eq_false_iff n).mpr hWritable
      rcases ofInt_whole hShort with ⟨s, hText, hForm⟩
      refine ⟨n, n, s, 100 * n, Number.place_int n,
        .whole (Rat.den_intCast n), hText, isNearestAway_whole n, ?_⟩
      rw [hundredths_of_whole]
      exact hForm.denotes
  | float x =>
      rcases (Number.isFinite_iff x).mp hWritable with ⟨q, hValue⟩
      have hPlace := (Number.place_float_iff x q).mpr hValue
      by_cases hWhole : q.den = 1
      · have hCast : (q.num : Rat) = q :=
          Rat.coe_int_num_of_den_eq_one hWhole
        rcases ofFloat_whole hValue hWhole with ⟨s, hText, hForm⟩
        have hNearest := isNearestAway_whole q.num
        rw [hCast] at hNearest
        refine ⟨q, q, s, 100 * q.num, hPlace, .whole hWhole, hText,
          hNearest, ?_⟩
        rw [hundredths_of_whole]
        exact hForm.denotes
      · rcases exists_shown_part hValue hWhole with
          ⟨d, s, units, hShown, hText, hNearest, hDenotes⟩
        exact ⟨q, d, s, units, hPlace, hShown, hText, hNearest, hDenotes⟩
  | ratio q => exact hWritable.elim

/- Opposite numbers have opposite numerals. -/
theorem exists_opposite
    {a : Number}
    (hWritable : a.IsWritable)
    (hSome : a.place ≠ .finite 0) :
    ∃ s t, ofValue a.toValue = .ok s ∧ ofValue a.neg.toValue = .ok t ∧
      AreOpposite s t := by
  cases a with
  | int n =>
      have hShort := (Decimal.exceedsLimit_eq_false_iff n).mpr hWritable
      refine ofInt_opposite hShort fun hZero => hSome ?_
      rw [hZero]
      rfl
  | float x =>
      rcases (Number.isFinite_iff x).mp hWritable with ⟨q, hValue⟩
      have hPlace := (Number.place_float_iff x q).mpr hValue
      have hNonzero : q ≠ 0 := by
        rintro rfl
        exact hSome hPlace
      have hOpposite := exactValue?_neg hValue
      change ∃ s t, ofFloat x = .ok s ∧ ofFloat (-x) = .ok t ∧
        AreOpposite s t
      rw [ofFloat, ofFloat, hValue, hOpposite]
      simp only [Rat.den_neg_eq_den, Rat.neg_num]
      by_cases hWhole : q.den = 1
      · simp only [hWhole, if_true]
        exact ofInt_opposite (not_exceedsLimit_num hValue hWhole)
          (Rat.num_ne_zero.mpr hNonzero)
      · rcases Decimal.shortest?_parts hValue hNonzero with
          ⟨negative, m, e, hShortest, hFlipped, -, -, -⟩
        have hFits := fits_of_not_whole hValue hWhole hShortest
        have hSame :
            Decimal.shortest (!negative) m e =
              { Decimal.shortest negative m e with
                negative := !(Decimal.shortest negative m e).negative } := by
          rw [Decimal.shortest_sign (!negative),
            Decimal.shortest_sign negative]
        simp only [hWhole, if_false, hShortest, hFlipped, hSame]
        exact ofDecimal_opposite hFits
  | ratio q => exact hWritable.elim

/-
  Of two numbers that have numerals, the larger one has the
  numeral for the larger number. The numerals of opposite
  numbers differ in a sign, if these are not zero.
-/
theorem keeps_order_and_sign
    {a : Number}
    (hFirst : a.IsWritable) :
    (∀ b : Number, b.IsWritable → a.atMost b = true →
      ∃ s t p q,
        ofValue a.toValue = .ok s ∧ ofValue b.toValue = .ok t ∧
          Denotes s.toList p ∧ Denotes t.toList q ∧ p ≤ q) ∧
    (a.place ≠ .finite 0 →
      ∃ s t,
        ofValue a.toValue = .ok s ∧ ofValue a.neg.toValue = .ok t ∧
          (t = "-" ++ s ∨ s = "-" ++ t)) := by
  refine ⟨fun b hSecond hOrder => ?_, exists_opposite hFirst⟩
  rcases exists_shown hFirst with
    ⟨p, c, s, units, hPlace, hShown, hText, hNearest, hDenotes⟩
  rcases exists_shown hSecond with
    ⟨q, d, t, more, hPlaceToo, hShownToo, hTextToo, hNearestToo,
      hDenotesToo⟩
  have hExact := (Number.atMost_iff hPlace hPlaceToo).mp hOrder
  have hUnits := hNearest.mono hNearestToo (hShown.mono hShownToo hExact)
  have hCast : (units : Rat) ≤ more := by exact_mod_cast hUnits
  exact ⟨s, t, _, _, hText, hTextToo, hDenotes, hDenotesToo,
    div_le_div_of_nonneg_right hCast (by norm_num)⟩

/- An integer and a double that is rounded up to the next hundredth. -/
theorem keeps_order_and_sign_acrossKinds :
    (Number.float 3.005).IsWritable ∧ (Number.int 4).IsWritable ∧
    (∃ s t p q,
      ofValue (.float 3.005) = .ok s ∧ ofValue (.int 4) = .ok t ∧
        Denotes s.toList p ∧ Denotes t.toList q ∧ p ≤ q) ∧
    (∃ s t,
      ofValue (.float 3.005) = .ok s ∧ ofValue (.float (-3.005)) = .ok t ∧
        (t = "-" ++ s ∨ s = "-" ++ t)) := by
  have hDouble : (Number.float 3.005).IsWritable :=
    show Decimal.isFinite 3.005 = true by decide +kernel
  have hInteger : (Number.int 4).IsWritable :=
    show Decimal.digitCount 4 ≤ 4300 by decide +kernel
  have hSome : (Number.float 3.005).place ≠ .finite 0 := by
    decide +kernel
  have hKept := keeps_order_and_sign hDouble
  exact ⟨hDouble, hInteger, hKept.1 (.int 4) hInteger (by decide +kernel),
    hKept.2 hSome⟩

end Numeral

end Joinery
