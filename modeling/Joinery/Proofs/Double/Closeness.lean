import Joinery.Proofs.Double.Arithmetic

/-
  Several roundings one after the other still give a number
  close to the exact one. How close is counted in roundings.

  Key definitions include:
    * `Double.Within`

  Key theorems include:
    * `Double.Within.trans`
    * `Double.Within.scale`
-/

namespace Joinery

namespace Double

/- A number is as close to another one as so many roundings leave it. -/
def Within
    (k : Nat)
    (r v : Rat) : Prop :=
  |r - v| ≤ k * (|v| / 2 ^ 53 + halfLeast)

theorem halfLeast_tiny :
    halfLeast ≤ 1 / 2 ^ 60 := by
  rw [halfLeast]
  exact one_div_le_one_div_of_le (by positivity)
    (pow_le_pow_right₀ (by norm_num) (by norm_num))

theorem slack_nonneg
    (v : Rat) :
    0 ≤ |v| / 2 ^ 53 + halfLeast := by
  have hHalf := halfLeast_pos
  positivity

theorem Near.within
    {r v : Rat}
    (hNear : Near r v) :
    Within 1 r v := by
  rw [Within, Nat.cast_one, one_mul]
  exact hNear

theorem Within.refl
    (k : Nat)
    (v : Rat) :
    Within k v v := by
  rw [Within, sub_self, abs_zero]
  exact mul_nonneg (Nat.cast_nonneg k) (slack_nonneg v)

theorem Within.mono
    {j k : Nat}
    {r v : Rat}
    (hWithin : Within j r v)
    (hLess : j ≤ k) :
    Within k r v := by
  refine le_trans hWithin ?_
  exact mul_le_mul_of_nonneg_right (by exact_mod_cast hLess)
    (slack_nonneg v)

/-
  Roundings add up. The one more makes up for the roundings
  of what earlier roundings have left.
-/
theorem Within.trans
    {j k : Nat}
    {r s v : Rat}
    (hLast : Within j r s)
    (hFirst : Within k s v)
    (hFew : j * k ≤ 2 ^ 53) :
    Within (j + k + 1) r v := by
  have hSlack := slack_nonneg v
  have hLate : |s - v| ≤ k * (|v| / 2 ^ 53 + halfLeast) := hFirst
  have hMiddle : |s| ≤ |v| + k * (|v| / 2 ^ 53 + halfLeast) := by
    have hTriangle := abs_sub_abs_le_abs_sub s v
    linarith
  have hCross :
      (j : Rat) * k * (|v| / 2 ^ 53 + halfLeast) ≤
        2 ^ 53 * (|v| / 2 ^ 53 + halfLeast) := by
    refine mul_le_mul_of_nonneg_right ?_ hSlack
    exact_mod_cast hFew
  calc |r - v| ≤ |r - s| + |s - v| := abs_sub_le r s v
    _ ≤ j * (|s| / 2 ^ 53 + halfLeast) +
          k * (|v| / 2 ^ 53 + halfLeast) := add_le_add hLast hLate
    _ ≤ j * ((|v| + k * (|v| / 2 ^ 53 + halfLeast)) / 2 ^ 53 +
            halfLeast) +
          k * (|v| / 2 ^ 53 + halfLeast) := by gcongr
    _ = (j + k) * (|v| / 2 ^ 53 + halfLeast) +
          j * k * (|v| / 2 ^ 53 + halfLeast) / 2 ^ 53 := by ring
    _ ≤ ((j + k + 1 : Nat) : Rat) *
          (|v| / 2 ^ 53 + halfLeast) := by
        push_cast
        linarith

/- A factor scales a number and what roundings leave of it. -/
theorem Within.scale
    {k : Nat}
    {r v : Rat}
    (hWithin : Within k r v)
    {c : Rat}
    (hPos : 0 ≤ c)
    {factor : Nat}
    (hFactor : c ≤ factor)
    (hOne : 1 ≤ factor) :
    Within (k * factor) (r * c) (v * c) := by
  have hHalf := halfLeast_pos
  have hCast : (1 : Rat) ≤ factor := by exact_mod_cast hOne
  have hSize : 0 ≤ |v| * c / 2 ^ 53 := by positivity
  rw [Within, ← sub_mul, abs_mul, abs_mul, abs_of_nonneg hPos]
  calc |r - v| * c
      ≤ k * (|v| / 2 ^ 53 + halfLeast) * c :=
        mul_le_mul_of_nonneg_right hWithin hPos
    _ = k * (|v| * c / 2 ^ 53 + c * halfLeast) := by ring
    _ ≤ k * (factor * (|v| * c / 2 ^ 53) + factor * halfLeast) := by
        gcongr
        exact le_mul_of_one_le_left hSize hCast
    _ = ((k * factor : Nat) : Rat) *
          (|v| * c / 2 ^ 53 + halfLeast) := by
        push_cast
        ring

/- A rounded factor counts as one rounding of the product. -/
theorem Within.factor
    (v : Rat)
    {c d : Rat}
    (hNear : |c - d| ≤ |d| / 2 ^ 53) :
    Within 1 (v * c) (v * d) := by
  have hHalf := halfLeast_pos
  rw [Within, ← mul_sub, abs_mul, abs_mul, Nat.cast_one, one_mul]
  calc |v| * |c - d| ≤ |v| * (|d| / 2 ^ 53) := by gcongr
    _ = |v| * |d| / 2 ^ 53 := by ring
    _ ≤ |v| * |d| / 2 ^ 53 + halfLeast := by linarith

end Double

end Joinery
