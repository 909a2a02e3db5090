import Joinery.Proofs.Gcode.Lengths
import Joinery.Proofs.Gcode.Order
import Joinery.Proofs.Text.Alphabet

/-
  The grammar of numerals. What is printed for a finite
  number is a numeral, and where letters stand before a
  numeral, it is plain where they end.

  Key definitions include:
    * `Numeral.IsNumeral`
    * `Numeral.AreLetters`
    * `Number.IsRoundedFrom`

  Key theorems include:
    * `Numeral.split_unique`
    * `Numeral.exists_numeral`
-/

namespace Joinery

------------------------------------------------------------
-- Numerals
------------------------------------------------------------

namespace Numeral

open Decimal (Denotes AreDigits withSign)

/-
  A numeral: digits, with a minus sign before them or not,
  and with a point and two more digits behind them or not.
-/
inductive IsNumeral : List Char → Prop where
  | whole
      (negative : Bool)
      {ds : List Char}
      (hDigits : AreDigits ds)
      (hSome : ds ≠ []) :
      IsNumeral (withSign negative ds)
  | hundredths
      (negative : Bool)
      {ds : List Char}
      {first second : Char}
      (hDigits : AreDigits ds)
      (hSome : ds ≠ [])
      (hPlaces : AreDigits [first, second]) :
      IsNumeral (withSign negative (ds ++ ['.', first, second]))

theorem IsWhole.isNumeral
    {cs : List Char}
    {n : Int}
    (hForm : IsWhole cs n) :
    IsNumeral cs := by
  rcases hForm with ⟨ds, rfl, hPlain, -⟩
  exact .whole _ hPlain.digits hPlain.present

theorem IsHundredths.isNumeral
    {cs : List Char}
    {negative : Bool}
    {units : Int}
    (hForm : IsHundredths cs negative units) :
    IsNumeral cs := by
  rcases hForm with ⟨whole, first, second, rfl, hPlain, hPlaces, -⟩
  exact .hundredths _ hPlain.digits hPlain.present hPlaces

------------------------------------------------------------
-- Letters Before A Numeral
------------------------------------------------------------

/- Characters that are letters of the alphabet, one and all. -/
def AreLetters
    (cs : List Char) : Prop :=
  ∀ c ∈ cs, c.isAlpha = true

/- A digit is no letter. -/
theorem not_isAlpha_of_digit
    {c : Char}
    (hDigit : Decimal.isAsciiDigit c = true) :
    c.isAlpha = false := by
  have hFigure := Text.digit_bounds ((Decimal.isAsciiDigit_iff c).mp hDigit)
  rw [Bool.eq_false_iff]
  intro hAlpha
  have hLetter := Text.letter_bounds hAlpha
  omega

/- A numeral starts with a minus sign or a digit, and so with no letter. -/
theorem IsNumeral.starts
    {cs : List Char}
    (hForm : IsNumeral cs) :
    ∃ c rest, cs = c :: rest ∧ c.isAlpha = false := by
  have hSigned :
      ∀ (negative : Bool) {ds : List Char} (more : List Char),
        AreDigits ds → ds ≠ [] →
          ∃ c rest, withSign negative (ds ++ more) = c :: rest ∧
            c.isAlpha = false := by
    intro negative ds more hDigits hSome
    cases negative with
    | true => exact ⟨'-', ds ++ more, rfl, rfl⟩
    | false =>
        rcases Decimal.exists_first_digit hDigits hSome more with
          ⟨c, rest, hFirst, hDigit⟩
        exact ⟨c, rest, hFirst, not_isAlpha_of_digit hDigit⟩
  cases hForm with
  | whole negative hDigits hSome =>
      have hStart := hSigned negative [] hDigits hSome
      rwa [List.append_nil] at hStart
  | hundredths negative hDigits hSome hPlaces =>
      exact hSigned negative _ hDigits hSome

/- Letters and a numeral behind them are parted in one way only. -/
theorem split_unique
    {front back name numeral : List Char}
    (hFront : AreLetters front)
    (hBack : IsNumeral back)
    (hName : AreLetters name)
    (hNumeral : IsNumeral numeral)
    (hSame : front ++ back = name ++ numeral) :
    front = name ∧ back = numeral := by
  have hStops :
      ∀ ds : List Char, IsNumeral ds →
        ∀ c others, ds = c :: others → c.isAlpha = false := by
    rintro ds hForm c others rfl
    rcases hForm.starts with ⟨d, rest, hFirst, hOther⟩
    cases hFirst
    exact hOther
  exact Text.span_unique hFront (hStops back hBack) hName
    (hStops numeral hNumeral) hSame

end Numeral

------------------------------------------------------------
-- Rounded Numbers
------------------------------------------------------------

/-
  What a number is rounded from: a whole number is what it
  is, and any other double is what its text denotes.
-/
inductive Number.IsRoundedFrom : Number → Rat → Prop where
  | whole
      {n : Number}
      {q : Rat}
      (hPlace : n.place = .finite q)
      (hWhole : q.den = 1) :
      Number.IsRoundedFrom n q
  | part
      {x : Float}
      {q : Rat}
      {d : Decimal}
      (hValue : Decimal.exactValue? x = some q)
      (hPart : q.den ≠ 1)
      (hRead :
        Decimal.ofNumeral? (Decimal.doubleText x).toList = some d) :
      Number.IsRoundedFrom (.float x) d.toRat

namespace Numeral

open Decimal (Denotes)

/- An integer in the range of doubles is written in full. -/
theorem ofInt_inRange
    {n : Int}
    {x : Float}
    (hDouble : (Number.int n).toDouble = .ok x) :
    ∃ s, ofInt n = .ok s ∧ IsWhole s.toList n :=
  ofInt_whole (not_exceedsLimit (Line.abs_le_of_toDouble hDouble))

/-
  Every finite number has a numeral. It denotes the hundredth
  that is nearest to what the number is rounded from.
-/
theorem exists_numeral
    {v : Value}
    {n : Number}
    (hPlain : v.IsPlain n)
    (hFinite : n.isFinite = .ok true) :
    ∃ (s : String) (units : Int) (d : Rat),
      ofValue v = .ok s ∧ IsNumeral s.toList ∧
        Denotes s.toList (units / 100) ∧ n.IsRoundedFrom d ∧
        IsNearestAway units d := by
  cases hPlain with
  | int k =>
      rcases Outcome.map_eq_ok_iff.mp hFinite with ⟨x, hDouble, -⟩
      rcases ofInt_inRange hDouble with ⟨s, hText, hForm⟩
      refine ⟨s, 100 * k, k, hText, hForm.isNumeral, ?_,
        .whole (Number.place_int k) (Rat.den_intCast k),
        isNearestAway_whole k⟩
      rw [hundredths_of_whole]
      exact hForm.denotes
  | float x =>
      rcases (Number.isFinite_iff x).mp (Except.ok.inj hFinite) with
        ⟨q, hValue⟩
      by_cases hWhole : q.den = 1
      · have hCast : (q.num : Rat) = q :=
          Rat.coe_int_num_of_den_eq_one hWhole
        rcases ofFloat_whole hValue hWhole with ⟨s, hText, hForm⟩
        refine ⟨s, 100 * q.num, q.num, hText, hForm.isNumeral, ?_, ?_,
          isNearestAway_whole q.num⟩
        · rw [hundredths_of_whole]
          exact hForm.denotes
        · rw [hCast]
          exact .whole ((Number.place_float_iff x q).mpr hValue) hWhole
      · rcases ofFloat_rounds hValue hWhole with
          ⟨s, d, units, hText, hRead, hNearest, hForm⟩
        exact ⟨s, units, d.toRat, hText, hForm.isNumeral, hForm.denotes,
          .part hValue hWhole hRead, hNearest⟩

end Numeral

end Joinery
