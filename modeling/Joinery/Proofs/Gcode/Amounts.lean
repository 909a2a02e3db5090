import Joinery.Proofs.Gcode.Operands

/-
  Quantities are meant to be printed only as plain numbers of a
  unit of length. A conversion makes a plain number also of
  other amounts, and lets these through.

  Key definitions include:
    * `Line.IsPrintedAsNumber`
    * `Line.LetsThrough`

  Key theorems include:
    * `Line.not_refused_of_letsThrough`
    * `Line.ofValue_of_not_letsThrough`
    * `Line.isPrintedAsNumber_iff`
-/

namespace Joinery

namespace Line

------------------------------------------------------------
-- Amounts Of Quantities
------------------------------------------------------------

/-
  Only a plain number of a unit of length is printed for a
  quantity. A quantity of a unit of length with any other amount
  is refused itself.
-/
structure IsPrintedAsNumber
    (u : LengthUnit)
    (name amount : Value) : Prop where
  printed :
    ∀ s, ofValue u (.quantity name amount) = .ok s →
      (∃ w, LengthUnit.ofValue? name = some w) ∧
        ∃ n, amount.IsPlain n
  refused :
    (∃ w, LengthUnit.ofValue? name = some w) →
      (¬ ∃ n, amount.IsPlain n) →
        ofValue u (.quantity name amount) =
          .error (.unknownOperand (.quantity name amount))

/-
  A conversion lets an amount of the other unit through: a
  number of any kind, which is too large to be scaled or comes
  out finite.
-/
def LetsThrough
    (u : LengthUnit)
    (name amount : Value) : Prop :=
  ∃ w n, LengthUnit.ofValue? name = some w ∧ w ≠ u ∧
    amount.number? = some n ∧
    ∀ x, n.toDouble = .ok x → Decimal.isFinite (u.scaled x) = true

/- What is let through is not refused with its quantity. -/
theorem not_refused_of_letsThrough
    {u : LengthUnit}
    {name amount : Value}
    (hThrough : LetsThrough u name amount) :
    ofValue u (.quantity name amount) ≠
      .error (.unknownOperand (.quantity name amount)) := by
  intro hRefused
  rcases hThrough with ⟨w, n, hUnit, hOther, hNumber, hScaled⟩
  cases hDouble : n.toDouble with
  | error fault =>
      have hFault := ofValue_of_range hUnit hOther hNumber hDouble
      have hOverflow := n.toDouble_fails fault hDouble
      rw [hRefused] at hFault
      cases hFault
      cases hOverflow
  | ok x =>
      have hFinite : (Number.float (u.scaled x)).isFinite = .ok true :=
        congrArg Except.ok (hScaled x hDouble)
      rcases exists_numeral
          (resolve_of_scaled hUnit hOther hNumber hDouble)
          (.float (u.scaled x)) hFinite with
        ⟨s, -, hPrinted, -⟩
      rw [hRefused] at hPrinted
      cases hPrinted

/- Any other amount that is no plain number is refused. -/
theorem ofValue_of_not_letsThrough
    {u w : LengthUnit}
    {name amount : Value}
    (hUnit : LengthUnit.ofValue? name = some w)
    (hOther : ¬ ∃ n, amount.IsPlain n)
    (hThrough : ¬ LetsThrough u name amount) :
    ofValue u (.quantity name amount) =
      fail (.unknownOperand (.quantity name amount)) := by
  by_cases hSame : w = u
  · subst hSame
    exact ofValue_of_other (resolve_of_convert (convert_same hUnit)) hOther
  · cases hNumber : amount.number? with
    | none => exact ofValue_of_notNumber hUnit hSame hNumber
    | some n =>
        have hInfinite :
            ∃ x, n.toDouble = .ok x ∧
              Decimal.isFinite (u.scaled x) ≠ true := by
          by_contra hNone
          apply hThrough
          refine ⟨w, n, hUnit, hSame, hNumber, fun x hDouble => ?_⟩
          by_contra hOver
          exact hNone ⟨x, hDouble, hOver⟩
        rcases hInfinite with ⟨x, hDouble, hOver⟩
        rw [ofValue_of_plain
          (resolve_of_scaled hUnit hSame hNumber hDouble)
          (.float (u.scaled x))]
        exact if_neg hOver

/-
  The amounts of quantities are printed as they should be unless
  a conversion lets an amount through that is no plain number,
  or the refusal would show an integer that is too long.
  A quantity without a unit of length is never printed.
-/
theorem isPrintedAsNumber_iff
    (u : LengthUnit)
    (name amount : Value) :
    (IsPrintedAsNumber u name amount ↔
      (∃ n, amount.IsPlain n) ∨ LengthUnit.ofValue? name = none ∨
        (Value.quantity name amount).HasShortIntegers ∧
          ¬ LetsThrough u name amount) ∧
    (LengthUnit.ofValue? name = none →
      ofValue u (.quantity name amount) =
        fail (.noConversion name amount (.unit u))) := by
  have hNamed :
      ∀ s, ofValue u (.quantity name amount) = .ok s →
        ∃ w, LengthUnit.ofValue? name = some w := by
    intro s hPrinted
    cases hUnit : LengthUnit.ofValue? name with
    | some w => exact ⟨w, rfl⟩
    | none =>
        rw [ofValue_of_unnamed hUnit] at hPrinted
        cases hPrinted
  refine ⟨⟨fun hKept => ?_, ?_⟩, fun hUnit => ofValue_of_unnamed hUnit amount⟩
  · by_cases hPlain : ∃ n, amount.IsPlain n
    · exact .inl hPlain
    · cases hUnit : LengthUnit.ofValue? name with
      | none => exact .inr (.inl rfl)
      | some w =>
          have hRefused := hKept.refused ⟨w, hUnit⟩ hPlain
          have hThrough : ¬ LetsThrough u name amount :=
            fun hThrough => not_refused_of_letsThrough hThrough hRefused
          rw [ofValue_of_not_letsThrough hUnit hPlain hThrough] at hRefused
          exact .inr (.inr
            ⟨(fail_unknownOperand_iff _).mp hRefused, hThrough⟩)
  · rintro (hPlain | hUnit | ⟨hShort, hThrough⟩)
    · exact ⟨fun s hPrinted => ⟨hNamed s hPrinted, hPlain⟩,
        fun _ hOther => absurd hPlain hOther⟩
    · have hNone : ¬ ∃ w, LengthUnit.ofValue? name = some w := by
        rintro ⟨w, hNamed⟩
        rw [hUnit] at hNamed
        cases hNamed
      exact ⟨fun s hPrinted => absurd (hNamed s hPrinted) hNone,
        fun hSome => absurd hSome hNone⟩
    · have hRefused :
          (∃ w, LengthUnit.ofValue? name = some w) →
            (¬ ∃ n, amount.IsPlain n) →
              ofValue u (.quantity name amount) =
                .error (.unknownOperand (.quantity name amount)) := by
        rintro ⟨w, hUnit⟩ hOther
        rw [ofValue_of_not_letsThrough hUnit hOther hThrough]
        exact (fail_unknownOperand_iff _).mpr hShort
      refine ⟨fun s hPrinted => ⟨hNamed s hPrinted, ?_⟩, hRefused⟩
      by_contra hOther
      rw [hRefused (hNamed s hPrinted) hOther] at hPrinted
      cases hPrinted

/- A truth value in inches is let through in millimetres, and is printed. -/
theorem truth_letThrough :
    (ofValue .millimeter (.inch (.bool true))).toOption = some "25.40" ∧
    ¬ IsPrintedAsNumber .millimeter (.unit .inch) (.bool true) := by
  have hText :
      (ofValue .millimeter (.inch (.bool true))).toOption =
        some "25.40" := by
    decide +kernel
  refine ⟨hText, fun hKept => ?_⟩
  have hFound :
      (ofValue .millimeter (.inch (.bool true))).toOption.map id =
        some "25.40" := by
    rw [hText]
    rfl
  rcases Outcome.exists_of_toOption hFound with ⟨s, hPrinted, -⟩
  rcases hKept.printed s hPrinted with ⟨-, n, hPlain⟩
  cases hPlain

end Line

end Joinery
