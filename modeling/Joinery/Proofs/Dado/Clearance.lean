import Mathlib.Analysis.Convex.Segment
import Mathlib.Data.Real.Basic
import Mathlib.Tactic.Linarith
import Joinery.Proofs.Dado.Exact

/-
  A pass cuts along both sides of a dado and across its far
  end. The cutter clears what it comes within its radius of:
  the whole dado if that is at most twice as wide as the
  cutter, and otherwise not what lies between the sides.

  Key definitions include:
    * `Stroke.Clears`
    * `Lengths.InBand`
    * `Lengths.ClearsBand`

  Key theorems include:
    * `Stroke.clears_upright_iff`
    * `Lengths.pass_clears_iff`
    * `Lengths.passes_clear_band_iff`
    * `Lengths.wide_dado_not_cleared`
-/

namespace Joinery

------------------------------------------------------------
-- Clearing Points
------------------------------------------------------------

/-
  A point is cleared by a stroke if a spot on the stroke is no
  farther from it than the radius of the cutter.
-/
def Stroke.Clears
    (stroke : Stroke)
    (radius : Rat)
    (x y : ℝ) : Prop :=
  ∃ t : ℝ, 0 ≤ t ∧ t ≤ 1 ∧
    (x - (stroke.start.x + t * (stroke.finish.x - stroke.start.x))) ^ 2 +
        (y - (stroke.start.y + t * (stroke.finish.y - stroke.start.y))) ^ 2 ≤
      (radius : ℝ) ^ 2

/- A point is cleared by a stroke of a pass. -/
def ClearedBy
    (pass : List Stroke)
    (radius : Rat)
    (x y : ℝ) : Prop :=
  ∃ stroke ∈ pass, stroke.Clears radius x y

namespace Lengths

/- The radius of the cutter. -/
def radius
    (lengths : Lengths) : Rat :=
  lengths.cutter / 2

/-
  A point is in the band between the outer edges of the sides,
  and away from the ends of the dado.
-/
structure InBand
    (lengths : Lengths)
    (x y : ℝ) : Prop where
  afterFar : (lengths.exact .far - lengths.radius : ℝ) ≤ x
  beforeNear : x ≤ lengths.exact .near + lengths.radius
  afterStart : lengths.radius ≤ y
  beforeEnd : y ≤ lengths.length - lengths.radius

/- A pass clears every point of the band. -/
def ClearsBand
    (lengths : Lengths)
    (pass : List Stroke) : Prop :=
  ∀ x y, lengths.InBand x y → ClearedBy pass lengths.radius x y

end Lengths

------------------------------------------------------------
-- Straight Strokes
------------------------------------------------------------

namespace Stroke

section Straight

variable {stroke : Stroke}
variable {radius : Rat}
variable {x y : ℝ}

/- A part of the way from one number to another leads between them. -/
theorem mem_uIcc_iff_exists_part
    {a b z : ℝ} :
    z ∈ Set.uIcc a b ↔ ∃ t : ℝ, 0 ≤ t ∧ t ≤ 1 ∧ z = a + t * (b - a) := by
  rw [← segment_eq_uIcc, segment_eq_image']
  constructor
  · rintro ⟨t, ⟨hFrom, hTo⟩, rfl⟩
    exact ⟨t, hFrom, hTo, rfl⟩
  · rintro ⟨t, hFrom, hTo, rfl⟩
    exact ⟨t, ⟨hFrom, hTo⟩, rfl⟩

/- Beside an upright stroke only the distance across counts. -/
theorem clears_upright_iff
    (hUpright : stroke.finish.x = stroke.start.x)
    (hRadius : 0 ≤ radius)
    (hBeside : y ∈ Set.uIcc (stroke.start.y : ℝ) stroke.finish.y) :
    stroke.Clears radius x y ↔ |x - stroke.start.x| ≤ radius := by
  have hReal : (0 : ℝ) ≤ radius := by exact_mod_cast hRadius
  rw [← sq_le_sq₀ (abs_nonneg _) hReal, sq_abs]
  constructor
  · rintro ⟨t, -, -, hClose⟩
    rw [hUpright, sub_self, mul_zero, add_zero] at hClose
    exact (le_add_of_nonneg_right (sq_nonneg _)).trans hClose
  · intro hClose
    rcases mem_uIcc_iff_exists_part.mp hBeside with ⟨t, hFrom, hTo, rfl⟩
    refine ⟨t, hFrom, hTo, ?_⟩
    rw [hUpright]
    simpa using hClose

/-
  A stroke across comes within its radius of a point that is
  as far below it only where it passes right above.
-/
theorem clears_level_iff
    (hLevel : stroke.finish.y = stroke.start.y)
    (hBelow : y ≤ stroke.start.y - radius)
    (hRadius : 0 ≤ radius) :
    stroke.Clears radius x y ↔
      y = stroke.start.y - radius ∧
        x ∈ Set.uIcc (stroke.start.x : ℝ) stroke.finish.x := by
  have hReal : (0 : ℝ) ≤ radius := by exact_mod_cast hRadius
  rw [mem_uIcc_iff_exists_part]
  constructor
  · rintro ⟨t, hFrom, hTo, hClose⟩
    rw [hLevel, sub_self, mul_zero, add_zero] at hClose
    have hDistance : |y - stroke.start.y| ≤ radius := by
      refine abs_le_of_sq_le_sq ?_ hReal
      exact (le_add_of_nonneg_left (sq_nonneg _)).trans hClose
    have hSame : y = stroke.start.y - radius := by
      linarith [(abs_le.mp hDistance).1]
    have hAcross :
        (x - (stroke.start.x +
          t * (stroke.finish.x - stroke.start.x))) ^ 2 = 0 := by
      refine le_antisymm ?_ (sq_nonneg _)
      rw [hSame, sub_sub_cancel_left, neg_sq] at hClose
      linarith
    exact ⟨hSame, t, hFrom, hTo,
      sub_eq_zero.mp (pow_eq_zero_iff two_ne_zero |>.mp hAcross)⟩
  · rintro ⟨hSame, t, hFrom, hTo, hAbove⟩
    refine ⟨t, hFrom, hTo, ?_⟩
    rw [← hAbove, hSame, hLevel]
    simp

end Straight

end Stroke

------------------------------------------------------------
-- Cleared Points Of A Pass
------------------------------------------------------------

namespace Lengths

section Pass

variable {lengths : Lengths}
variable {x y : ℝ}

theorem radius_pos
    (hCutter : 0 < lengths.cutter) :
    0 < lengths.radius :=
  half_pos hCutter

theorem cutter_eq
    (lengths : Lengths) :
    lengths.cutter = 2 * lengths.radius := by
  rw [radius]
  ring

/- The sides of a pass are apart by the width less the cutter. -/
theorem near_sub_far
    (lengths : Lengths) :
    (lengths.exact .near - lengths.exact .far : ℝ) =
      lengths.stock / 2 - 2 * lengths.radius := by
  rw [exact, exact, radius]
  push_cast
  ring

/- Points of the band are beside the sides. -/
theorem InBand.beside
    (hCutter : 0 < lengths.cutter)
    (hBand : lengths.InBand x y) :
    y ∈ Set.Icc (0 : ℝ) lengths.length := by
  have hReal : (0 : ℝ) < lengths.radius := by
    exact_mod_cast radius_pos hCutter
  rcases hBand with ⟨-, -, hStart, hEnd⟩
  constructor <;> linarith

theorem nearStroke_clears_iff
    (hCutter : 0 < lengths.cutter)
    (hBand : lengths.InBand x y)
    (k : Nat) :
    (lengths.nearStroke k).Clears lengths.radius x y ↔
      |x - lengths.exact .near| ≤ lengths.radius := by
  apply Stroke.clears_upright_iff rfl (radius_pos hCutter).le
  apply Set.Icc_subset_uIcc
  simpa [nearStroke, spot] using hBand.beside hCutter

theorem farStroke_clears_iff
    (hCutter : 0 < lengths.cutter)
    (hBand : lengths.InBand x y)
    (k : Nat) :
    (lengths.farStroke k).Clears lengths.radius x y ↔
      |x - lengths.exact .far| ≤ lengths.radius := by
  apply Stroke.clears_upright_iff rfl (radius_pos hCutter).le
  apply Set.Icc_subset_uIcc'
  simpa [farStroke, spot] using hBand.beside hCutter

theorem crossStroke_clears_iff
    (hCutter : 0 < lengths.cutter)
    (hBand : lengths.InBand x y)
    (k : Nat) :
    (lengths.crossStroke k).Clears lengths.radius x y ↔
      y = lengths.length - lengths.radius ∧
        x ∈ Set.uIcc (lengths.exact .near : ℝ) (lengths.exact .far) :=
  Stroke.clears_level_iff rfl hBand.beforeEnd (radius_pos hCutter).le

/-
  A point of the band is cleared by a pass exactly if it is
  near one of the sides, or right below the far end.
-/
theorem pass_clears_iff
    (hCutter : 0 < lengths.cutter)
    (hBand : lengths.InBand x y)
    (k : Nat) :
    ClearedBy (lengths.passStrokes k) lengths.radius x y ↔
      |x - lengths.exact .near| ≤ lengths.radius ∨
        |x - lengths.exact .far| ≤ lengths.radius ∨
        y = lengths.length - lengths.radius := by
  have hStrokes :
      ClearedBy (lengths.passStrokes k) lengths.radius x y ↔
        |x - lengths.exact .near| ≤ lengths.radius ∨
          (y = lengths.length - lengths.radius ∧
            x ∈ Set.uIcc (lengths.exact .near : ℝ) (lengths.exact .far)) ∨
          |x - lengths.exact .far| ≤ lengths.radius := by
    simp only [ClearedBy, passStrokes, List.mem_cons, List.not_mem_nil,
      or_false, exists_eq_or_imp, exists_eq_left,
      nearStroke_clears_iff hCutter hBand,
      crossStroke_clears_iff hCutter hBand,
      farStroke_clears_iff hCutter hBand]
  rw [hStrokes]
  constructor
  · rintro (hNear | ⟨hEnd, -⟩ | hFar)
    · exact Or.inl hNear
    · exact Or.inr (Or.inr hEnd)
    · exact Or.inr (Or.inl hFar)
  · rintro (hNear | hFar | hEnd)
    · exact Or.inl hNear
    · exact Or.inr (Or.inr hFar)
    · -- What is not between the sides is outside one of them.
      rcases hBand with ⟨hAfterFar, hBeforeNear, -, -⟩
      rcases lt_or_ge (lengths.exact .near : ℝ) x with hRight | hLeft
      · left
        rw [abs_of_pos (sub_pos.mpr hRight)]
        linarith
      · rcases lt_or_ge x (lengths.exact .far : ℝ) with hOut | hIn
        · right
          right
          rw [abs_of_neg (sub_neg.mpr hOut)]
          linarith
        · exact Or.inr (Or.inl ⟨hEnd, Set.mem_uIcc_of_ge hIn hLeft⟩)

end Pass

section Band

variable {lengths : Lengths}

/-
  In a dado more than twice as wide as the cutter, a pass
  leaves what is halfway between the sides.
-/
theorem middle_not_cleared
    (hCutter : 0 < lengths.cutter)
    (hWide : 2 * lengths.cutter < lengths.stock / 2)
    {y : ℝ}
    (hStart : lengths.radius ≤ y)
    (hEnd : y < lengths.length - lengths.radius)
    (k : Nat) :
    lengths.InBand ((lengths.exact .near + lengths.exact .far) / 2) y ∧
      ¬ ClearedBy (lengths.passStrokes k) lengths.radius
        ((lengths.exact .near + lengths.exact .far) / 2) y := by
  have hApart := lengths.near_sub_far
  have hReal : (0 : ℝ) < lengths.radius := by
    exact_mod_cast radius_pos hCutter
  have hWideReal :
      2 * (2 * (lengths.radius : ℝ)) < lengths.stock / 2 := by
    rw [lengths.cutter_eq] at hWide
    exact_mod_cast hWide
  have hBand :
      lengths.InBand
        ((lengths.exact .near + lengths.exact .far) / 2) y := by
    constructor <;> linarith
  refine ⟨hBand, ?_⟩
  rw [pass_clears_iff hCutter hBand]
  rintro (hNear | hFar | hSame)
  · linarith [(abs_le.mp hNear).1]
  · linarith [(abs_le.mp hFar).2]
  · linarith

/- A dado at most twice as wide as the cutter is cleared by a pass. -/
theorem clears_band_of_narrow
    (hCutter : 0 < lengths.cutter)
    (hNarrow : lengths.stock / 2 ≤ 2 * lengths.cutter)
    (k : Nat) :
    lengths.ClearsBand (lengths.passStrokes k) := by
  intro x y hBand
  rw [pass_clears_iff hCutter hBand]
  have hApart := lengths.near_sub_far
  have hNarrowReal :
      (lengths.stock : ℝ) / 2 ≤ 2 * (2 * lengths.radius) := by
    rw [lengths.cutter_eq] at hNarrow
    exact_mod_cast hNarrow
  rcases hBand with ⟨hAfterFar, hBeforeNear, -, -⟩
  rcases le_or_gt (lengths.exact .near - lengths.radius : ℝ) x with
    hNear | hFar
  · left
    rw [abs_le]
    constructor <;> linarith
  · right
    left
    rw [abs_le]
    constructor <;> linarith

/- A dado no longer than the cutter is cleared across its end. -/
theorem clears_band_of_short
    (hCutter : 0 < lengths.cutter)
    (hShort : lengths.length ≤ lengths.cutter)
    (k : Nat) :
    lengths.ClearsBand (lengths.passStrokes k) := by
  intro x y hBand
  rw [pass_clears_iff hCutter hBand]
  have hShortReal : (lengths.length : ℝ) ≤ 2 * lengths.radius := by
    rw [lengths.cutter_eq] at hShort
    exact_mod_cast hShort
  right
  right
  linarith [hBand.afterStart, hBand.beforeEnd]

/-
  A pass clears the band exactly if the dado is at most twice
  as wide as the cutter, or no longer than the cutter.
-/
theorem pass_clears_band_iff
    (hCutter : 0 < lengths.cutter)
    (k : Nat) :
    lengths.ClearsBand (lengths.passStrokes k) ↔
      lengths.stock / 2 ≤ 2 * lengths.cutter ∨
        lengths.length ≤ lengths.cutter := by
  constructor
  · intro hClears
    by_contra hOther
    rw [not_or, not_le, not_le] at hOther
    rcases hOther with ⟨hWide, hLong⟩
    have hLongReal :
        (lengths.radius : ℝ) < lengths.length - lengths.radius := by
      rw [lengths.cutter_eq, two_mul] at hLong
      rw [lt_sub_iff_add_lt]
      exact_mod_cast hLong
    rcases middle_not_cleared hCutter hWide (le_refl _) hLongReal k with
      ⟨hBand, hLeft⟩
    exact hLeft (hClears _ _ hBand)
  · rintro (hNarrow | hShort)
    · exact clears_band_of_narrow hCutter hNarrow k
    · exact clears_band_of_short hCutter hShort k

end Band

------------------------------------------------------------
-- Generated Cuts
------------------------------------------------------------

/-
  The passes of a generated cut clear the band, which is as
  wide as the dado, exactly if the dado is at most twice as
  wide as the cutter, or no longer than the cutter. Otherwise
  what they leave is what is near neither side.
-/
theorem passes_clear_band_iff
    (lengths : Lengths)
    (settings : Settings)
    (ambient : Ambient)
    (program : Operation)
    (hGenerated :
      (generate lengths.joint settings).result ambient = .ok program) :
    (lengths.exact .near + lengths.radius) -
        (lengths.exact .far - lengths.radius) = lengths.stock / 2 ∧
      ∃ count,
        0 < count ∧
        (∀ tool : Tool, tool.modes = ambient →
          tool.strokes (Deed.ofProgram program) =
            (List.range count).flatMap lengths.passStrokes) ∧
        ∀ k < count,
          (∀ x y, lengths.InBand x y →
            (ClearedBy (lengths.passStrokes k) lengths.radius x y ↔
              |x - lengths.exact .near| ≤ lengths.radius ∨
                |x - lengths.exact .far| ≤ lengths.radius ∨
                y = lengths.length - lengths.radius)) ∧
          (lengths.ClearsBand (lengths.passStrokes k) ↔
            lengths.stock / 2 ≤ 2 * lengths.cutter ∨
              lengths.length ≤ lengths.cutter) := by
  rcases Plan.exists_exact hGenerated with ⟨plan, hPlan, rfl, hPass⟩
  have hCutter := (Plan.exact_geometry hPlan).1
  refine ⟨?_, plan.geometry.depths.length, hPass, ?_, ?_⟩
  · rw [exact, exact, radius]
    ring
  · intro tool hModes
    rw [Plan.deeds_eq hPlan]
    exact lengths.strokes_deeds ambient _ tool
  · intro k hLess
    refine ⟨?_, pass_clears_band_iff hCutter k⟩
    intro x y hBand
    exact pass_clears_iff hCutter hBand k

/- The lengths of a dado that is twice as wide as the cutter. -/
def snug : Lengths where
  plate := 4
  retract := 5
  stock := 8
  cutter := 2
  offset := 20
  length := 60

/- A dado that is twice as wide as the cutter is cleared by each pass. -/
theorem snug_cleared :
    ∃ program,
      (generate snug.joint { }).result { } = .ok program ∧
        ∃ count, 0 < count ∧
          (∀ tool : Tool, tool.modes = { } →
            tool.strokes (Deed.ofProgram program) =
              (List.range count).flatMap snug.passStrokes) ∧
          ∀ k < count, snug.ClearsBand (snug.passStrokes k) := by
  have hBuilt :
      ((generate snug.joint { }).result { }).toOption.map
        (fun _ => true) = some true := by
    decide +kernel
  rcases Outcome.exists_of_toOption hBuilt with ⟨program, hGenerated, -⟩
  rcases (passes_clear_band_iff snug { } { } program hGenerated).2 with
    ⟨count, hPos, hStrokes, hClears⟩
  refine ⟨program, hGenerated, count, hPos, hStrokes, fun k hLess => ?_⟩
  exact (hClears k hLess).2.mpr (Or.inl (by decide +kernel))

/- The lengths of a dado that is five halves as wide as the cutter. -/
def wide : Lengths where
  plate := 4
  retract := 5
  stock := 10
  cutter := 2
  offset := 20
  length := 60

/-
  In a dado five halves as wide as the cutter, no stroke of
  any pass clears what is halfway between the sides and
  halfway along them.
-/
theorem wide_dado_not_cleared :
    (∀ length ∈ [wide.plate, wide.retract, wide.stock, wide.cutter,
        wide.offset, wide.length], 0 < length) ∧
      wide.cutter ≤ wide.stock / 2 ∧
      ∃ program,
        (generate wide.joint { }).result { } = .ok program ∧
          wide.InBand (55 / 2) 30 ∧
          ∀ tool : Tool, tool.modes = { } →
            ¬ ClearedBy (tool.strokes (Deed.ofProgram program))
              wide.radius (55 / 2) 30 := by
  have hBuilt :
      ((generate wide.joint { }).result { }).toOption.map
        (fun _ => true) = some true := by
    decide +kernel
  rcases Outcome.exists_of_toOption hBuilt with ⟨program, hGenerated, -⟩
  rcases Plan.exists_exact hGenerated with ⟨plan, hPlan, rfl, -⟩
  have hCutter : 0 < wide.cutter := by decide +kernel
  have hMiddle :
      ((wide.exact .near + wide.exact .far) / 2 : ℝ) = 55 / 2 := by
    norm_num [exact, wide]
  have hPass :
      ∀ k, wide.InBand (55 / 2) 30 ∧
        ¬ ClearedBy (wide.passStrokes k) wide.radius (55 / 2) 30 := by
    intro k
    rw [← hMiddle]
    apply middle_not_cleared hCutter
    · decide +kernel
    · norm_num [radius, wide]
    · norm_num [radius, wide]
  refine ⟨by decide +kernel, by decide +kernel, _, hGenerated,
    (hPass 0).1, ?_⟩
  rintro tool hModes ⟨stroke, hMem, hClears⟩
  rw [Plan.deeds_eq hPlan, wide.strokes_deeds] at hMem
  rcases List.mem_flatMap.mp hMem with ⟨k, -, hStroke⟩
  exact (hPass k).2 ⟨stroke, hStroke, hClears⟩

end Lengths

end Joinery
