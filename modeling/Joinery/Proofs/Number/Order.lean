import Joinery.Proofs.Number.Closeness

/-
  Finite numbers of any kinds are ordered as the rational
  numbers they stand for, and rounded up as those are.

  Key theorems include:
    * `Number.less_iff`
    * `Number.atMost_iff`
    * `Number.ceiling_eq_ok_iff`
    * `Number.finite_of_isFinite`
-/

namespace Joinery

namespace Number

/- Finite numbers are ordered as rationals. -/
theorem less_iff
    {a b : Number}
    {p q : Rat}
    (hFirst : a.place = .finite p)
    (hSecond : b.place = .finite q) :
    a.less b = true ↔ p < q := by
  rw [less, compare?, hFirst, hSecond]
  simp only [Place.compare?]
  rcases lt_trichotomy p q with hLess | hSame | hMore
  · simp [hLess]
  · simp [hSame]
  · simp [hMore, hMore.le]

theorem atMost_iff
    {a b : Number}
    {p q : Rat}
    (hFirst : a.place = .finite p)
    (hSecond : b.place = .finite q) :
    a.atMost b = true ↔ p ≤ q := by
  have hEquals : a.equals b = true ↔ p = q := by
    rw [equals, compare?, hFirst, hSecond]
    simp only [Place.compare?]
    rcases lt_trichotomy p q with hLess | hSame | hMore
    · simp [hLess, hLess.ne]
    · simp [hSame]
    · simp [hMore, hMore.not_gt, hMore.ne']
  rw [atMost, Bool.or_eq_true, less_iff hFirst hSecond, hEquals]
  exact le_iff_lt_or_eq.symm

/- Only finite numbers are rounded up. -/
theorem ceiling_eq_ok_iff
    {a : Number}
    {n : Int} :
    a.ceiling = .ok n ↔ ∃ q, a.place = .finite q ∧ q.ceil = n := by
  cases a with
  | int m => simp [ceiling, Rat.ceil_intCast]
  | ratio q => simp [ceiling]
  | float x =>
      cases hValue : Decimal.exactValue? x with
      | some q =>
          have hPlace := (place_float_iff x q).mpr hValue
          simp [ceiling, hValue, hPlace]
      | none =>
          have hNowhere : ∀ q, (Number.float x).place ≠ .finite q := by
            intro q hPlace
            rw [place_float_iff, hValue] at hPlace
            cases hPlace
          simp only [ceiling, hValue, hNowhere, false_and, exists_false,
            iff_false]
          split <;> simp [fail]

/- A number that is found finite is finite. -/
theorem finite_of_isFinite
    {a : Number}
    (hFinite : a.isFinite = .ok true) :
    ∃ q, a.place = .finite q := by
  rcases Outcome.map_eq_ok_iff.mp hFinite with ⟨x, hDouble, hTrue⟩
  rcases (isFinite_iff x).mp hTrue with ⟨r, hValue⟩
  rcases place_of_toDouble hDouble hValue with ⟨p, hPlace, -⟩
  exact ⟨p, hPlace⟩

end Number

end Joinery
