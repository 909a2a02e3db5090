import Joinery.Proofs.Gcode.Operands

/-
  What is said of an operand whose double may be of a class
  that shows its numbers in its own way. One that is finite
  and not whole is rounded from the text that is shown. If
  this is no decimal that fits the precision, the operand has
  no numeral and is not refused as one either.

  Key definitions include:
    * `Numeral.Fits`
    * `Numeral.NamesNan`
    * `Line.Operand.Rounds`

  Key theorems include:
    * `Numeral.exists_numeral_of_fits`
    * `Numeral.ofText_of_nan`
    * `Line.ofOperand_told_iff`
-/

namespace Joinery

open Decimal (Reading)

------------------------------------------------------------
-- Numerals Of Texts
------------------------------------------------------------

namespace Numeral

/- A text that denotes a decimal, and one that fits the precision. -/
def Fits
    (t : Text) : Prop :=
  ∃ d, Reading.ofChars? t.chars = some (.finite d) ∧ FitsPrecision d

/- A text that names what is no number. -/
def NamesNan
    (t : Text) : Prop :=
  ∃ negative payload,
    Reading.ofChars? t.chars = some (.nan negative payload)

/- A text that fits has a numeral. -/
theorem exists_numeral_of_fits
    {t : Text}
    (hFits : Fits t) :
    ∃ s, ofText t = .ok s ∧ IsNumeral s.toList := by
  rcases hFits with ⟨d, hRead, hFits⟩
  rcases ofDecimal_rounds hFits with ⟨s, units, hText, hForm, -⟩
  refine ⟨s, ?_, hForm.isNumeral⟩
  rw [ofText, hRead]
  exact hText

/- A text that is neither is refused by the decimals. -/
theorem ofText_of_other
    {t : Text}
    (hOther : ¬ Fits t)
    (hNumber : ¬ NamesNan t) :
    ofText t = .error .noDecimalForm := by
  unfold ofText
  cases hRead : Reading.ofChars? t.chars with
  | none => rfl
  | some reading =>
      cases reading with
      | finite d =>
          exact ofDecimal_of_not_fits fun hFits =>
            hOther ⟨d, hRead, hFits⟩
      | nan negative payload =>
          exact absurd ⟨negative, payload, hRead⟩ hNumber

/- The word for what is no number is no numeral, whatever its sign. -/
theorem not_isNumeral_nan
    (negative : Bool)
    (cs : List Char) :
    ¬ IsNumeral (Decimal.withSign negative ('N' :: cs)) := by
  intro hForm
  generalize hWord : Decimal.withSign negative ('N' :: cs) = word at hForm
  have hSigned :
      ∀ (sign : Bool) {ds : List Char} (more : List Char),
        Decimal.AreDigits ds → ds ≠ [] →
          Decimal.withSign sign (ds ++ more) ≠ word := by
    intro sign ds more hDigits hSome hSame
    rcases Decimal.exists_first_digit hDigits hSome more with
      ⟨c, rest, hFirst, hDigit⟩
    rw [hFirst, ← hWord] at hSame
    cases sign <;> cases negative <;> cases hSame <;> cases hDigit
  cases hForm with
  | whole sign hDigits hSome =>
      exact hSigned sign [] hDigits hSome (by rw [List.append_nil])
  | hundredths sign hDigits hSome hPlaces =>
      exact hSigned sign _ hDigits hSome rfl

/- So a text that names it has something else printed. -/
theorem ofText_of_nan
    {t : Text}
    (hNan : NamesNan t) :
    ∃ s, ofText t = .ok s ∧ ¬ IsNumeral s.toList := by
  rcases hNan with ⟨negative, payload, hRead⟩
  refine ⟨_, by rw [ofText, hRead], ?_⟩
  rw [String.toList_append, String.toList_ofList]
  cases negative with
  | true => exact not_isNumeral_nan true _
  | false => exact not_isNumeral_nan false _

end Numeral

------------------------------------------------------------
-- Operands
------------------------------------------------------------

namespace Line

/- A finite double that is not whole is rounded from a text of its class. -/
def Operand.Rounds
    (u : LengthUnit)
    (operand : Operand)
    (t : Text) : Prop :=
  ∃ x q, operand.own? u = some (x, t) ∧
    Decimal.exactValue? x = some q ∧ q.den ≠ 1

/- Without a double that shows its own text, the value is told. -/
theorem ofOperand_of_none
    {u : LengthUnit}
    {operand : Operand}
    (hOwn : operand.own? u = none) :
    ofOperand u operand = ofValue u operand.value := by
  rw [ofOperand, hOwn]

/- The text of a finite double that is not whole is rounded. -/
theorem ofOperand_of_rounds
    {u : LengthUnit}
    {operand : Operand}
    {t : Text}
    (hRounds : operand.Rounds u t) :
    ofOperand u operand = Numeral.ofText t := by
  rcases hRounds with ⟨x, q, hOwn, hValue, hPart⟩
  have hFinite := (Number.isFinite_iff x).mpr ⟨q, hValue⟩
  rw [ofOperand, hOwn]
  simp only [hFinite, if_true, Numeral.ofShown, hValue, hPart, if_false]

/- If no text does, everything is said that can be said of a value. -/
theorem told_of_not_rounds
    {u : LengthUnit}
    {operand : Operand}
    (hShort : operand.value.HasShortIntegers)
    (hPlain : ∀ t, ¬ operand.Rounds u t) :
    Told u operand.value (ofOperand u operand) := by
  cases hOwn : operand.own? u with
  | none =>
      rw [ofOperand_of_none hOwn]
      exact ofValue_told u hShort
  | some own =>
      rcases own with ⟨x, t⟩
      rw [ofOperand, hOwn]
      dsimp only
      cases hFinite : Decimal.isFinite x with
      | false =>
          rw [if_neg (by decide),
            (fail_unknownOperand_iff operand.value).mpr hShort]
          exact .operand
      | true =>
          rcases (Number.isFinite_iff x).mp hFinite with ⟨q, hValue⟩
          have hWhole : q.den = 1 := by
            by_contra hPart
            exact hPlain t ⟨x, q, hOwn, hValue, hPart⟩
          rcases Numeral.ofInt_whole
              (Numeral.not_exceedsLimit_num hValue hWhole) with
            ⟨s, hText, hForm⟩
          rw [if_pos rfl, Numeral.ofShown, hValue]
          simp only [hWhole, if_true, hText]
          exact .numeral hForm.isNumeral

/-
  An operand whose integers are short is printed as a numeral,
  or refused for one of the causes that there are for values,
  exactly if the text that it is rounded from, should there be
  one, fits. Such a text decides what is printed, and a fault
  of the decimals comes from there only. An operand without a
  text of its own is told as its value, and every finite number
  that it is resolved to has a numeral, which is printed.
-/
theorem ofOperand_told_iff
    (u : LengthUnit)
    {operand : Operand}
    (hShort : operand.value.HasShortIntegers) :
    (Told u operand.value (ofOperand u operand) ↔
      ∀ t, operand.Rounds u t → Numeral.Fits t) ∧
    (∀ t, operand.Rounds u t →
      ofOperand u operand = Numeral.ofText t) ∧
    (∀ fault, ofOperand u operand = .error fault →
      (fault.family = .decimal ↔
        ∃ t, operand.Rounds u t ∧
          ¬ Numeral.Fits t ∧ ¬ Numeral.NamesNan t)) ∧
    (operand.own? u = none →
      ofOperand u operand = ofValue u operand.value ∧
        ∀ r n, resolve u operand.value = .ok r → r.IsPlain n →
          n.isFinite = .ok true →
            ∃ s, Numeral.ofValue r = .ok s ∧
              ofOperand u operand = .ok s) := by
  have hTold :
      Told u operand.value (ofOperand u operand) ↔
        ∀ t, operand.Rounds u t → Numeral.Fits t := by
    constructor
    · intro hTold t hRounds
      by_contra hOther
      rw [ofOperand_of_rounds hRounds] at hTold
      by_cases hNan : Numeral.NamesNan t
      · rcases Numeral.ofText_of_nan hNan with ⟨s, hText, hForm⟩
        rw [hText] at hTold
        cases hTold with
        | numeral hNumeral => exact hForm hNumeral
      · rw [Numeral.ofText_of_other hOther hNan] at hTold
        exact not_told_of_decimal rfl hTold
    · intro hFits
      by_cases hRounds : ∃ t, operand.Rounds u t
      · rcases hRounds with ⟨t, hRounds⟩
        rcases Numeral.exists_numeral_of_fits (hFits t hRounds) with
          ⟨s, hText, hForm⟩
        rw [ofOperand_of_rounds hRounds, hText]
        exact .numeral hForm
      · exact told_of_not_rounds hShort (not_exists.mp hRounds)
  refine ⟨hTold, fun t => ofOperand_of_rounds, ?_, ?_⟩
  · intro fault hFault
    constructor
    · intro hDecimal
      rw [hFault] at hTold
      have hSome := mt hTold.mpr (not_told_of_decimal hDecimal)
      rcases not_forall.mp hSome with ⟨t, hSome⟩
      rcases Classical.not_imp.mp hSome with ⟨hRounds, hOther⟩
      refine ⟨t, hRounds, hOther, fun hNan => ?_⟩
      rcases Numeral.ofText_of_nan hNan with ⟨s, hText, -⟩
      rw [ofOperand_of_rounds hRounds, hText] at hFault
      cases hFault
    · rintro ⟨t, hRounds, hOther, hNumber⟩
      rw [ofOperand_of_rounds hRounds,
        Numeral.ofText_of_other hOther hNumber] at hFault
      cases hFault
      rfl
  · intro hOwn
    have hPlainly := ofOperand_of_none hOwn
    refine ⟨hPlainly, fun r n hResolve hPlain hFinite => ?_⟩
    rw [hPlainly]
    rcases exists_numeral hResolve hPlain hFinite with
      ⟨s, hText, hPrinted, -⟩
    exact ⟨s, hText, hPrinted⟩

/-
  A double that shows its digits is rounded from them, and one
  that is converted does not show anything any more.
-/
theorem ofOperand_told_each :
    (Value.float 1.5).HasShortIntegers ∧
    (ofOperand .inch ⟨.float 1.5, some "1.50e0"⟩).toOption =
      some "1.50" ∧
    Told .inch (.float 1.5)
      (ofOperand .inch ⟨.float 1.5, some "1.50e0"⟩) ∧
    (Value.inch (.float 0.5)).HasShortIntegers ∧
    (ofOperand .millimeter
        ⟨.inch (.float 0.5), some "<Feed.HALF: 0.5>"⟩).toOption =
      some "12.70" ∧
    Told .millimeter (.inch (.float 0.5))
      (ofOperand .millimeter
        ⟨.inch (.float 0.5), some "<Feed.HALF: 0.5>"⟩) := by
  have hShort : (Value.float 1.5).HasShortIntegers :=
    (Value.unwritable_eq_false_iff _).mp (by decide +kernel)
  have hQuantity : (Value.inch (.float 0.5)).HasShortIntegers :=
    (Value.unwritable_eq_false_iff _).mp (by decide +kernel)
  have hFits : Numeral.Fits "1.50e0" :=
    ⟨⟨false, 150, -2⟩, by decide +kernel, by
      unfold Numeral.FitsPrecision
      decide +kernel⟩
  have hConverted :
      (Operand.mk (.inch (.float 0.5))
        (some "<Feed.HALF: 0.5>")).own? .millimeter = none := by
    decide +kernel
  refine ⟨hShort, by decide +kernel, ?_, hQuantity, by decide +kernel, ?_⟩
  · refine (@ofOperand_told_iff .inch
      ⟨.float 1.5, some "1.50e0"⟩ hShort).1.mpr ?_
    rintro t ⟨x, q, hOwn, -, -⟩
    cases hOwn
    exact hFits
  · refine (@ofOperand_told_iff .millimeter
      ⟨.inch (.float 0.5), some "<Feed.HALF: 0.5>"⟩ hQuantity).1.mpr ?_
    rintro t ⟨x, q, hOwn, -, -⟩
    rw [hConverted] at hOwn
    cases hOwn

/-
  A member that is not whole is neither printed nor refused as
  an operand: the decimals cannot read its text.
-/
theorem slowMember_untold :
    (Value.float 1.5).HasShortIntegers ∧
    ofOperand .millimeter ⟨.float 1.5, some "<Feed.SLOW: 1.5>"⟩ =
      .error .noDecimalForm ∧
    ¬ Told .millimeter (.float 1.5)
      (ofOperand .millimeter
        ⟨.float 1.5, some "<Feed.SLOW: 1.5>"⟩) := by
  have hShort : (Value.float 1.5).HasShortIntegers :=
    (Value.unwritable_eq_false_iff _).mp (by decide +kernel)
  have hFault :
      ofOperand .millimeter ⟨.float 1.5, some "<Feed.SLOW: 1.5>"⟩ =
        .error .noDecimalForm := by
    have hValue : Decimal.exactValue? 1.5 = some (3 / 2) := by
      decide +kernel
    rw [ofOperand_of_rounds ⟨1.5, 3 / 2, rfl, hValue, by decide +kernel⟩]
    have hRead :
        Reading.ofChars? ("<Feed.SLOW: 1.5>" : Text).chars = none := by
      decide +kernel
    rw [Numeral.ofText, hRead]
    rfl
  refine ⟨hShort, hFault, ?_⟩
  rw [hFault]
  exact not_told_of_decimal rfl

end Line

end Joinery
