import Joinery.Dado.Path
import Joinery.Proofs.Dado.Depths

/-
  The geometry of a cut is computed from the parameters in a
  few operations. What it comes to is close to what exact
  numbers would come to.

  Key theorems include:
    * `Geometry.ofJoint_spec`
    * `Joint.converted_spec`
    * `Number.near_close`
    * `Number.far_close`
    * `Number.depth_close`
-/

namespace Joinery

------------------------------------------------------------
-- Operations Of The Geometry
------------------------------------------------------------

/- The numbers that a geometry is computed from, and how. -/
theorem Geometry.ofJoint_spec
    {settings : Settings}
    {joint : Joint}
    {geometry : Geometry}
    (hGeometry : Geometry.ofJoint settings joint = .ok geometry) :
    joint.cutterDiameter.atMostZero = .ok false ∧
      ∃ cutter stock offset travel shifted,
        joint.cutterDiameter.asNumber = .ok cutter ∧
        joint.stockThickness.asNumber = .ok stock ∧
        joint.workOffsetX.asNumber = .ok offset ∧
        cutter.div (.int 2) = .ok geometry.radius ∧
        stock.div (.int 2) = .ok geometry.width ∧
        geometry.width.sub cutter = .ok travel ∧
        offset.sub geometry.radius = .ok shifted ∧
        shifted.add stock = .ok geometry.x1 ∧
        geometry.x1.sub travel = .ok geometry.x2 ∧
        passDepths geometry.radius.toValue geometry.width.toValue
          settings.depthTolerance = .ok geometry.depths := by
  rw [Geometry.ofJoint, Outcome.bind_eq_ok_iff] at hGeometry
  rcases hGeometry with ⟨refused, hPositive, hRest⟩
  cases refused with
  | true => cases hRest
  | false =>
      simp only [Bool.false_eq_true, if_false] at hRest
      rcases Outcome.bind_eq_ok_iff.mp hRest with ⟨cutter, hCutter, hRest⟩
      rcases Outcome.bind_eq_ok_iff.mp hRest with ⟨radius, hRadius, hRest⟩
      rcases Outcome.bind_eq_ok_iff.mp hRest with ⟨stock, hStock, hRest⟩
      rcases Outcome.bind_eq_ok_iff.mp hRest with ⟨width, hWidth, hRest⟩
      rcases Outcome.bind_eq_ok_iff.mp hRest with ⟨travel, hTravel, hRest⟩
      rcases Outcome.bind_eq_ok_iff.mp hRest with ⟨offset, hOffset, hRest⟩
      rcases Outcome.bind_eq_ok_iff.mp hRest with
        ⟨shifted, hShifted, hRest⟩
      rcases Outcome.bind_eq_ok_iff.mp hRest with ⟨x1, hNear, hRest⟩
      rcases Outcome.bind_eq_ok_iff.mp hRest with ⟨x2, hFar, hRest⟩
      rcases Outcome.bind_eq_ok_iff.mp hRest with ⟨depths, hDepths, hEnd⟩
      cases hEnd
      exact ⟨hPositive, cutter, stock, offset, travel, shifted, hCutter,
        hStock, hOffset, hRadius, hWidth, hTravel, hShifted, hNear, hFar,
        hDepths⟩

/- Every parameter is converted on its own. -/
theorem Joint.converted_spec
    {u : LengthUnit}
    {joint plain : Joint}
    (hConverted : joint.converted u = .ok plain) :
    convert u joint.plateThickness none = .ok plain.plateThickness ∧
      convert u joint.retractHeight none = .ok plain.retractHeight ∧
      convert u joint.stockThickness none = .ok plain.stockThickness ∧
      convert u joint.cutterDiameter none = .ok plain.cutterDiameter ∧
      convert u joint.workOffsetX none = .ok plain.workOffsetX ∧
      convert u joint.passLength none = .ok plain.passLength := by
  rcases Outcome.bind_eq_ok_iff.mp hConverted with ⟨plate, hPlate, hRest⟩
  rcases Outcome.bind_eq_ok_iff.mp hRest with ⟨retract, hRetract, hRest⟩
  rcases Outcome.bind_eq_ok_iff.mp hRest with ⟨stock, hStock, hRest⟩
  rcases Outcome.bind_eq_ok_iff.mp hRest with ⟨cutter, hCutter, hRest⟩
  rcases Outcome.bind_eq_ok_iff.mp hRest with ⟨offset, hOffset, hRest⟩
  rcases Outcome.bind_eq_ok_iff.mp hRest with ⟨length, hLength, hEnd⟩
  cases hEnd
  exact ⟨hPlate, hRetract, hStock, hCutter, hOffset, hLength⟩

------------------------------------------------------------
-- Closeness Of The Geometry
------------------------------------------------------------

namespace Number

/- A number close to another one is not much larger. -/
theorem abs_le_of_close
    {x y error : Rat}
    (hClose : |x - y| ≤ error) :
    |x| ≤ |y| + error := by
  have hTriangle := abs_sub_abs_le_abs_sub x y
  linarith

/- The side of a cut that is next to the stock. -/
theorem near_close
    {cutter radius offset shifted stock x1 : Number}
    {r : Rat}
    (hRadius : cutter.div (.int 2) = .ok radius)
    (hShifted : offset.sub radius = .ok shifted)
    (hNear : shifted.add stock = .ok x1)
    (hFinite : x1.place = .finite r) :
    ∃ o c s, offset.place = .finite o ∧ cutter.place = .finite c ∧
      stock.place = .finite s ∧
      |r - (o - c / 2 + s)| ≤ (|o| + |c| + |s| + 1) / 2 ^ 48 := by
  rcases add_close hNear hFinite with ⟨h, s, hPlace, hStock, hSum⟩
  rcases sub_close hShifted hPlace with ⟨o, p, hOffset, hHalf, hLess⟩
  rcases halve_close hRadius hHalf with ⟨c, hCutter, hHalved⟩
  refine ⟨o, c, s, hOffset, hCutter, hStock, ?_⟩
  have hSizeHalf := abs_le_of_close hHalved
  have hSizeLess := abs_le_of_close hLess
  rw [abs_div, abs_two] at hSizeHalf
  have hSizeDifference := abs_sub o p
  have hSplit :
      r - (o - c / 2 + s) =
        r - (h + s) + (h - (o - p)) + -(p - c / 2) := by
    ring
  rw [hSplit]
  refine (abs_add_three _ _ _).trans ?_
  rw [abs_neg]
  linarith [abs_nonneg o, abs_nonneg c, abs_nonneg s]

/- The side of a cut that is away from the stock. -/
theorem far_close
    {cutter radius offset shifted stock width travel x1 x2 : Number}
    {r : Rat}
    (hRadius : cutter.div (.int 2) = .ok radius)
    (hWidth : stock.div (.int 2) = .ok width)
    (hTravel : width.sub cutter = .ok travel)
    (hShifted : offset.sub radius = .ok shifted)
    (hNear : shifted.add stock = .ok x1)
    (hFar : x1.sub travel = .ok x2)
    (hFinite : x2.place = .finite r) :
    ∃ o c s, offset.place = .finite o ∧ cutter.place = .finite c ∧
      stock.place = .finite s ∧
      |r - (o - c / 2 + s - (s / 2 - c))| ≤
        (|o| + |c| + |s| + 1) / 2 ^ 46 := by
  rcases sub_close hFar hFinite with ⟨n, t, hPlace, hMove, hLess⟩
  rcases near_close hRadius hShifted hNear hPlace with
    ⟨o, c, s, hOffset, hCutter, hStock, hClose⟩
  rcases sub_close hTravel hMove with ⟨w, c', hHalf, hSame, hReach⟩
  rw [hCutter] at hSame
  cases hSame
  rcases halve_close hWidth hHalf with ⟨s', hSame, hHalved⟩
  rw [hStock] at hSame
  cases hSame
  refine ⟨o, c, s, hOffset, hCutter, hStock, ?_⟩
  have hSizeNear := abs_le_of_close hClose
  have hSizeHalf := abs_le_of_close hHalved
  have hSizeReach := abs_le_of_close hReach
  rw [abs_div, abs_two] at hSizeHalf
  have hSizeDifference := abs_sub w c
  have hSizeSum := abs_add_three o (-(c / 2)) s
  rw [abs_neg, abs_div, abs_two, ← sub_eq_add_neg] at hSizeSum
  have hSplit :
      r - (o - c / 2 + s - (s / 2 - c)) =
        r - (n - t) + (n - (o - c / 2 + s)) + -(t - (w - c)) +
          -(w - s / 2) := by
    ring
  rw [hSplit]
  refine (abs_add_le _ _).trans ?_
  have hThree :=
    abs_add_three (r - (n - t)) (n - (o - c / 2 + s)) (-(t - (w - c)))
  rw [abs_neg] at hThree ⊢
  linarith [abs_nonneg o, abs_nonneg c, abs_nonneg s]

/- The depth of a pass. -/
theorem depth_close
    {cutter radius depth : Number}
    {r : Rat}
    {passes : Nat}
    (hPos : 1 ≤ passes)
    (hFew : passes ≤ maxPasses)
    (hRadius : cutter.div (.int 2) = .ok radius)
    (hDepth : (Number.int passes).mul radius = .ok depth)
    (hFinite : depth.place = .finite r) :
    ∃ c, cutter.place = .finite c ∧
      |r - passes * (c / 2)| ≤ (passes * |c| + 1) / 2 ^ 40 := by
  have hOne : (1 : Rat) ≤ ((passes : Int) : Rat) := by exact_mod_cast hPos
  have hMost : ((passes : Int) : Rat) ≤ 1000 := by exact_mod_cast hFew
  rcases multiple_close hOne hMost hDepth hFinite with
    ⟨p, hHalf, hClose⟩
  rcases halve_close hRadius hHalf with ⟨c, hCutter, hHalved⟩
  refine ⟨c, hCutter, ?_⟩
  push_cast at hOne hMost hClose
  have hNonneg : (0 : Rat) ≤ passes := by linarith
  have hScaled :
      |passes * (p - c / 2)| ≤ passes * |c| / 2 ^ 50 + 1000 / 2 ^ 50 := by
    rw [abs_mul, abs_of_nonneg hNonneg]
    calc passes * |p - c / 2|
        ≤ passes * ((|c| + 1) / 2 ^ 50) :=
          mul_le_mul_of_nonneg_left hHalved hNonneg
      _ = passes * |c| / 2 ^ 50 + passes / 2 ^ 50 := by ring
      _ ≤ passes * |c| / 2 ^ 50 + 1000 / 2 ^ 50 := by linarith
  have hSize : |passes * p| ≤
      passes * |c| / 2 + (passes * |c| / 2 ^ 50 + 1000 / 2 ^ 50) := by
    have hSplit : passes * p = passes * (c / 2) + passes * (p - c / 2) := by
      ring
    have hHalfSize : |passes * (c / 2)| = passes * |c| / 2 := by
      rw [abs_mul, abs_of_nonneg hNonneg, abs_div, abs_two]
      ring
    rw [hSplit, ← hHalfSize]
    exact (abs_add_le _ _).trans (add_le_add_right hScaled _)
  have hProduct : 0 ≤ passes * |c| := mul_nonneg hNonneg (abs_nonneg c)
  have hSplit :
      r - passes * (c / 2) = r - passes * p + passes * (p - c / 2) := by
    ring
  rw [hSplit]
  refine (abs_add_le _ _).trans ?_
  linarith

end Number

end Joinery
