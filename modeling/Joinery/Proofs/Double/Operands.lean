import Joinery.Proofs.Double.Arithmetic

/-
  An operation on doubles has a finite result only if its
  operands are finite: infinities and NaN stay what they are.

  Key theorems include:
    * `Double.operands_of_add`
    * `Double.operands_of_sub`
    * `Double.operand_of_neg`
    * `Double.operands_of_mul`
    * `Double.dividend_of_div`
-/

namespace Joinery

namespace Double

open Float.Model Float.Model.UnpackedFloat

/- A number without a value is NaN or an infinity. -/
theorem beyond_of_valueOf?
    {u : UnpackedFloat}
    (hBeyond : valueOf? u = none) :
    u = .notANumber ∨ ∃ s, u = .infinity s := by
  cases u with
  | notANumber => exact Or.inl rfl
  | infinity s => exact Or.inr ⟨s, rfl⟩
  | zero s => cases hBeyond
  | finite s m e hPos => cases hBeyond

/- NaN and the infinities come back from their bits. -/
theorem exactValue?_pack_beyond
    {u : UnpackedFloat}
    (hBeyond : valueOf? u = none) :
    Decimal.exactValue? (.ofModel (Float.Model.pack u)) = none := by
  rw [exactValue?_eq]
  rcases beyond_of_valueOf? hBeyond with rfl | ⟨s, rfl⟩
  · rfl
  · rw [unpack_pack_infinity]
    rfl

/- A finite result has an operand that is finite, if others have none. -/
theorem finite_of_result
    {u result : UnpackedFloat}
    {r : Rat}
    (hStays : valueOf? u = none → valueOf? result = none)
    (hResult :
      Decimal.exactValue? (.ofModel (Float.Model.pack result)) = some r) :
    ∃ p, valueOf? u = some p := by
  cases hValue : valueOf? u with
  | some p => exact ⟨p, rfl⟩
  | none =>
      rw [exactValue?_pack_beyond (hStays hValue)] at hResult
      cases hResult

------------------------------------------------------------
-- Sums And Differences
------------------------------------------------------------

theorem add_beyond_left
    {u : UnpackedFloat}
    (hBeyond : valueOf? u = none)
    (v : UnpackedFloat) :
    valueOf? (UnpackedFloat.add Format.binary64 u v) = none := by
  rcases beyond_of_valueOf? hBeyond with rfl | ⟨s, rfl⟩
  · cases v <;> rfl
  · cases v with
    | notANumber => rfl
    | infinity t =>
        unfold UnpackedFloat.add
        dsimp only
        split <;> rfl
    | zero t => rfl
    | finite t m e hPos => rfl

theorem add_beyond_right
    (u : UnpackedFloat)
    {v : UnpackedFloat}
    (hBeyond : valueOf? v = none) :
    valueOf? (UnpackedFloat.add Format.binary64 u v) = none := by
  rcases beyond_of_valueOf? hBeyond with rfl | ⟨s, rfl⟩
  · cases u <;> rfl
  · cases u with
    | notANumber => rfl
    | infinity t =>
        unfold UnpackedFloat.add
        dsimp only
        split <;> rfl
    | zero t => rfl
    | finite t m e hPos => rfl

theorem valueOf?_neg_eq_none
    {u : UnpackedFloat}
    (hBeyond : valueOf? u = none) :
    valueOf? u.neg = none := by
  rcases beyond_of_valueOf? hBeyond with rfl | ⟨s, rfl⟩
  · rfl
  · rfl

/- A finite sum is one of finite doubles. -/
theorem operands_of_add
    {x y : Float}
    {r : Rat}
    (hSum : Decimal.exactValue? (x + y) = some r) :
    ∃ p q, Decimal.exactValue? x = some p ∧
      Decimal.exactValue? y = some q := by
  rcases finite_of_result (fun hBeyond => add_beyond_left hBeyond _)
    hSum with ⟨p, hFirst⟩
  rcases finite_of_result (fun hBeyond => add_beyond_right _ hBeyond)
    hSum with ⟨q, hSecond⟩
  exact ⟨p, q, by rw [exactValue?_eq, hFirst],
    by rw [exactValue?_eq, hSecond]⟩

/- A finite difference is one of finite doubles. -/
theorem operands_of_sub
    {x y : Float}
    {r : Rat}
    (hDifference : Decimal.exactValue? (x - y) = some r) :
    ∃ p q, Decimal.exactValue? x = some p ∧
      Decimal.exactValue? y = some q := by
  have hSum :
      Decimal.exactValue?
        (.ofModel
          (Float.Model.pack
            (UnpackedFloat.add Format.binary64 x.toModel.unpack
              y.toModel.unpack.neg))) = some r := by
    rw [← unpacked_sub_eq]
    exact hDifference
  rcases finite_of_result (fun hBeyond => add_beyond_left hBeyond _)
    hSum with ⟨p, hFirst⟩
  rcases finite_of_result
    (fun hBeyond => add_beyond_right _ (valueOf?_neg_eq_none hBeyond))
    hSum with ⟨q, hSecond⟩
  exact ⟨p, q, by rw [exactValue?_eq, hFirst],
    by rw [exactValue?_eq, hSecond]⟩

/- A double with a finite opposite is finite. -/
theorem operand_of_neg
    {x : Float}
    {r : Rat}
    (hOpposite : Decimal.exactValue? (-x) = some r) :
    Decimal.exactValue? x = some (-r) := by
  rcases finite_of_result valueOf?_neg_eq_none hOpposite with
    ⟨p, hValue⟩
  have hValue : Decimal.exactValue? x = some p := by
    rw [exactValue?_eq, hValue]
  rw [exactValue?_neg hValue] at hOpposite
  cases hOpposite
  rw [neg_neg, hValue]

------------------------------------------------------------
-- Products And Quotients
------------------------------------------------------------

/- A finite product is one of finite doubles. -/
theorem operands_of_mul
    {x y : Float}
    {r : Rat}
    (hProduct : Decimal.exactValue? (x * y) = some r) :
    ∃ p q, Decimal.exactValue? x = some p ∧
      Decimal.exactValue? y = some q := by
  have hLeft :
      ∀ v, valueOf? x.toModel.unpack = none →
        valueOf? (UnpackedFloat.mul Format.binary64 x.toModel.unpack v) =
          none := by
    intro v hBeyond
    rcases beyond_of_valueOf? hBeyond with hFirst | ⟨s, hFirst⟩ <;>
      rw [hFirst] <;> cases v <;> rfl
  have hRight :
      ∀ u, valueOf? y.toModel.unpack = none →
        valueOf? (UnpackedFloat.mul Format.binary64 u y.toModel.unpack) =
          none := by
    intro u hBeyond
    rcases beyond_of_valueOf? hBeyond with hSecond | ⟨s, hSecond⟩ <;>
      rw [hSecond] <;> cases u <;> rfl
  rcases finite_of_result (hLeft _) hProduct with ⟨p, hFirst⟩
  rcases finite_of_result (hRight _) hProduct with ⟨q, hSecond⟩
  exact ⟨p, q, by rw [exactValue?_eq, hFirst],
    by rw [exactValue?_eq, hSecond]⟩

/- A finite quotient is one of a finite dividend. -/
theorem dividend_of_div
    {x y : Float}
    {r : Rat}
    (hQuotient : Decimal.exactValue? (x / y) = some r) :
    ∃ p, Decimal.exactValue? x = some p := by
  have hLeft :
      ∀ v, valueOf? x.toModel.unpack = none →
        valueOf? (UnpackedFloat.div Format.binary64 x.toModel.unpack v) =
          none := by
    intro v hBeyond
    rcases beyond_of_valueOf? hBeyond with hFirst | ⟨s, hFirst⟩ <;>
      rw [hFirst] <;> cases v <;> rfl
  rcases finite_of_result (hLeft _) hQuotient with ⟨p, hFirst⟩
  exact ⟨p, by rw [exactValue?_eq, hFirst]⟩

end Double

end Joinery
