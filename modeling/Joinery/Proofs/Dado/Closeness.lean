import Joinery.Proofs.Dado.Geometry
import Joinery.Proofs.Dado.Steps

/-
  The lengths of a joint's parameters determine how long each
  dimension of a cut is, whatever unit the plan is made in.
  What a plan shows for a dimension is that length in its
  unit, to the hundredth and but for roundings.

  Key definitions include:
    * `Lengths`
    * `Lengths.exact`
    * `Joint.HasLengths`
    * `IsConverted`
    * `IsShownFor`

  Key theorems include:
    * `IsConverted.bounds`
    * `Plan.half_multiple_close`
    * `Plan.shows_close`
-/

namespace Joinery

open Double

------------------------------------------------------------
-- Exact Dimensions
------------------------------------------------------------

/- The lengths of the parameters of a joint, in millimetres. -/
structure Lengths where
  plate : Rat
  retract : Rat
  stock : Rat
  cutter : Rat
  offset : Rat
  length : Rat

namespace Lengths

/- The length of a dimension of the cut. -/
def exact
    (lengths : Lengths) : Dimension → Rat
  | .zero => 0
  | .plate => lengths.plate
  | .retract => lengths.retract
  | .length => lengths.length
  | .near => lengths.offset - lengths.cutter / 2 + lengths.stock
  | .far =>
      lengths.offset - lengths.cutter / 2 + lengths.stock -
        (lengths.stock / 2 - lengths.cutter)
  | .depth pass => -(((pass + 1 : Nat) : Rat) * (lengths.cutter / 2))

/-
  The size that roundings are measured by, besides the length
  itself: the two sides are differences of larger lengths.
-/
def scale
    (lengths : Lengths) : Dimension → Rat
  | .near => |lengths.offset| + |lengths.cutter| + |lengths.stock| + 1
  | .far => |lengths.offset| + |lengths.cutter| + |lengths.stock| + 1
  | _ => 1

end Lengths

/- The parameters of a joint are quantities of finite lengths. -/
structure Joint.HasLengths
    (joint : Joint)
    (lengths : Lengths) : Prop where
  plate : joint.plateThickness.length? = some lengths.plate
  retract : joint.retractHeight.length? = some lengths.retract
  stock : joint.stockThickness.length? = some lengths.stock
  cutter : joint.cutterDiameter.length? = some lengths.cutter
  offset : joint.workOffsetX.length? = some lengths.offset
  length : joint.passLength.length? = some lengths.length

------------------------------------------------------------
-- Converted Parameters
------------------------------------------------------------

/- A number is a length in a unit, but for the roundings of a conversion. -/
def IsConverted
    (u : LengthUnit)
    (length q : Rat) : Prop :=
  |q - u.inUnit length| ≤ (|u.inUnit length| + 1) / 2 ^ 48

/-
  A number is shown for a length in a unit. It is off by half
  a hundredth at most, but for the roundings of its numbers,
  which are as large as the scale says.
-/
def IsShownFor
    (u : LengthUnit)
    (length scale r : Rat) : Prop :=
  |r - u.inUnit length| ≤
    1 / 200 + (|u.inUnit length| + scale) / 2 ^ 36

/- A converted quantity is close to its length in the unit. -/
theorem convert_close
    {v r : Value}
    {u : LengthUnit}
    {length q : Rat}
    {n : Number}
    (hLength : v.length? = some length)
    (hConvert : convert u v none = .ok r)
    (hNumber : r.number? = some n)
    (hPlace : n.place = .finite q) :
    IsConverted u length q := by
  rcases convert_within hLength hConvert with ⟨m, hSame, hWithin⟩
  rw [hNumber] at hSame
  cases hSame
  have hClose :
      |q - u.inUnit length| ≤
        (32 : Nat) * (|u.inUnit length| / 2 ^ 53 + halfLeast) :=
    hWithin q hPlace
  have hTiny := halfLeast_tiny
  push_cast at hClose
  rw [IsConverted]
  linarith

/- A length is no more of any unit than it is of millimetres. -/
theorem LengthUnit.abs_inUnit_le
    (u : LengthUnit)
    (length : Rat) :
    |u.inUnit length| ≤ |length| := by
  have hLong : 1 ≤ u.millimeters := by
    cases u with
    | millimeter => exact le_refl 1
    | inch => norm_num [LengthUnit.millimeters]
  rw [LengthUnit.inUnit, abs_div,
    abs_of_pos (lt_of_lt_of_le one_pos hLong)]
  exact div_le_self (abs_nonneg length) hLong

/- The number and its error, measured by the length in millimetres. -/
theorem IsConverted.bounds
    {u : LengthUnit}
    {length q : Rat}
    (hConverted : IsConverted u length q) :
    |q - u.inUnit length| ≤ (|length| + 1) / 2 ^ 48 ∧
      |q| ≤ |length| + (|length| + 1) / 2 ^ 48 := by
  have hError : |q - u.inUnit length| ≤ (|u.inUnit length| + 1) / 2 ^ 48 :=
    hConverted
  have hSize := Number.abs_le_of_close hError
  have hUnit := u.abs_inUnit_le length
  constructor <;> linarith

theorem asNumber_number?
    {v : Value}
    {n : Number}
    (hNumber : v.asNumber = .ok n) :
    v.number? = some n := by
  cases hSome : v.number? with
  | some m =>
      rw [Value.asNumber, hSome] at hNumber
      cases hNumber
      rfl
  | none =>
      rw [Value.asNumber, hSome] at hNumber
      cases hNumber

theorem Number.number?_toValue
    (n : Number) :
    n.toValue.number? = some n := by
  cases n <;> rfl

------------------------------------------------------------
-- Dimensions Of A Plan
------------------------------------------------------------

namespace Plan

/- What is shown for a number is as close as the number is. -/
theorem close_of_printed
    {r q v scale : Rat}
    (hPrinted : |r - q| ≤ 1 / 200 + (|q| / 2 ^ 53 + halfLeast))
    (hClose : |q - v| ≤ (|v| + scale) / 2 ^ 37)
    (hScale : 1 ≤ scale) :
    |r - v| ≤ 1 / 200 + (|v| + scale) / 2 ^ 36 := by
  have hSize := Number.abs_le_of_close hClose
  have hTiny := halfLeast_tiny
  have hTriangle := abs_sub_le r q v
  linarith [abs_nonneg v]

/- A number that is close to another one is shown close to it. -/
theorem shows_close_of_number
    {value : Value}
    {n : Number}
    {u : LengthUnit}
    {r v scale : Rat}
    (hNumber : value.number? = some n)
    (hShows : Line.Shows u value r)
    (hScale : 1 ≤ scale)
    (hClose :
      ∀ q, n.place = .finite q → |q - v| ≤ (|v| + scale) / 2 ^ 37) :
    (∃ k : Int, r = k / 100) ∧
      |r - v| ≤ 1 / 200 + (|v| + scale) / 2 ^ 36 := by
  rcases hShows.number hNumber with ⟨q, hPlace, hHundredths, hPrinted⟩
  exact ⟨hHundredths, close_of_printed hPrinted (hClose q hPlace) hScale⟩

/- A parameter is shown close to its length. -/
theorem shows_close_of_parameter
    {measure value : Value}
    {u : LengthUnit}
    {length r : Rat}
    (hLength : measure.length? = some length)
    (hConvert : convert u measure none = .ok value)
    (hShows : Line.Shows u value r) :
    (∃ k : Int, r = k / 100) ∧ IsShownFor u length 1 r := by
  rcases convert_within hLength hConvert with ⟨n, hNumber, -⟩
  refine shows_close_of_number hNumber hShows (le_refl 1) fun q hPlace => ?_
  have hClose : |q - u.inUnit length| ≤ (|u.inUnit length| + 1) / 2 ^ 48 :=
    convert_close hLength hConvert hNumber hPlace
  linarith [abs_nonneg (u.inUnit length)]

section Dimensions

variable {joint : Joint}
variable {lengths : Lengths}
variable {settings : Settings}
variable {u : LengthUnit}
variable {plan : Plan}

/- A plan is made of converted parameters and their geometry. -/
theorem plan_spec
    (hPlan : joint.plan settings u = .ok plan) :
    joint.converted u = .ok plan.joint ∧
      Geometry.ofJoint settings plan.joint = .ok plan.geometry := by
  rcases Outcome.bind_eq_ok_iff.mp hPlan with ⟨plain, hPlain, hRest⟩
  rcases Outcome.bind_eq_ok_iff.mp hRest with
    ⟨geometry, hGeometry, hEnd⟩
  cases hEnd
  exact ⟨hPlain, hGeometry⟩

/-
  A geometry is computed from three numbers, each close to
  the length of its parameter.
-/
theorem geometry_spec
    (hLengths : joint.HasLengths lengths)
    (hPlan : joint.plan settings u = .ok plan) :
    ∃ cutter stock offset travel shifted : Number,
      cutter.div (.int 2) = .ok plan.geometry.radius ∧
      stock.div (.int 2) = .ok plan.geometry.width ∧
      plan.geometry.width.sub cutter = .ok travel ∧
      offset.sub plan.geometry.radius = .ok shifted ∧
      shifted.add stock = .ok plan.geometry.x1 ∧
      plan.geometry.x1.sub travel = .ok plan.geometry.x2 ∧
      passDepths plan.geometry.radius.toValue
        plan.geometry.width.toValue settings.depthTolerance =
          .ok plan.geometry.depths ∧
      (∀ c, cutter.place = .finite c → IsConverted u lengths.cutter c) ∧
      (∀ s, stock.place = .finite s → IsConverted u lengths.stock s) ∧
      (∀ o, offset.place = .finite o →
        IsConverted u lengths.offset o) := by
  rcases plan_spec hPlan with ⟨hPlain, hGeometry⟩
  rcases Joint.converted_spec hPlain with
    ⟨-, -, hStock, hCutter, hOffset, -⟩
  rcases Geometry.ofJoint_spec hGeometry with
    ⟨-, cutter, stock, offset, travel, shifted, hCutterNumber,
      hStockNumber, hOffsetNumber, hRadius, hWidth, hTravel, hShifted,
      hNear, hFar, hDepths⟩
  refine ⟨cutter, stock, offset, travel, shifted, hRadius, hWidth,
    hTravel, hShifted, hNear, hFar, hDepths, fun c hPlace => ?_,
    fun s hPlace => ?_, fun o hPlace => ?_⟩
  · exact convert_close hLengths.cutter hCutter
      (asNumber_number? hCutterNumber) hPlace
  · exact convert_close hLengths.stock hStock
      (asNumber_number? hStockNumber) hPlace
  · exact convert_close hLengths.offset hOffset
      (asNumber_number? hOffsetNumber) hPlace

/- Both sides are close to where they should be. -/
theorem near_dimension
    (hLengths : joint.HasLengths lengths)
    (hPlan : joint.plan settings u = .ok plan)
    {q : Rat}
    (hPlace : plan.geometry.x1.place = .finite q) :
    |q - u.inUnit (lengths.exact .near)| ≤
      lengths.scale .near / 2 ^ 37 := by
  rcases geometry_spec hLengths hPlan with
    ⟨cutter, stock, offset, travel, shifted, hRadius, -, -, hShifted,
      hNear, -, -, hCutter, hStock, hOffset⟩
  rcases Number.near_close hRadius hShifted hNear hPlace with
    ⟨o, c, s, hOffsetPlace, hCutterPlace, hStockPlace, hClose⟩
  rcases (hCutter c hCutterPlace).bounds with ⟨hCutter, hCutterSize⟩
  rcases (hStock s hStockPlace).bounds with ⟨hStock, hStockSize⟩
  rcases (hOffset o hOffsetPlace).bounds with ⟨hOffset, hOffsetSize⟩
  have hExact :
      u.inUnit (lengths.exact .near) =
        u.inUnit lengths.offset - u.inUnit lengths.cutter / 2 +
          u.inUnit lengths.stock := by
    simp only [Lengths.exact, LengthUnit.inUnit]
    ring
  have hSplit :
      q - u.inUnit (lengths.exact .near) =
        q - (o - c / 2 + s) + (o - u.inUnit lengths.offset) +
          (s - u.inUnit lengths.stock) +
            -((c - u.inUnit lengths.cutter) / 2) := by
    rw [hExact]
    ring
  rw [hSplit, Lengths.scale]
  refine (abs_add_le _ _).trans ?_
  have hThree := abs_add_three (q - (o - c / 2 + s))
    (o - u.inUnit lengths.offset) (s - u.inUnit lengths.stock)
  rw [abs_neg, abs_div, abs_two]
  linarith [abs_nonneg lengths.cutter, abs_nonneg lengths.stock,
    abs_nonneg lengths.offset]

theorem far_dimension
    (hLengths : joint.HasLengths lengths)
    (hPlan : joint.plan settings u = .ok plan)
    {q : Rat}
    (hPlace : plan.geometry.x2.place = .finite q) :
    |q - u.inUnit (lengths.exact .far)| ≤
      lengths.scale .far / 2 ^ 37 := by
  rcases geometry_spec hLengths hPlan with
    ⟨cutter, stock, offset, travel, shifted, hRadius, hWidth, hTravel,
      hShifted, hNear, hFar, -, hCutter, hStock, hOffset⟩
  rcases Number.far_close hRadius hWidth hTravel hShifted hNear hFar
      hPlace with
    ⟨o, c, s, hOffsetPlace, hCutterPlace, hStockPlace, hClose⟩
  rcases (hCutter c hCutterPlace).bounds with ⟨hCutter, hCutterSize⟩
  rcases (hStock s hStockPlace).bounds with ⟨hStock, hStockSize⟩
  rcases (hOffset o hOffsetPlace).bounds with ⟨hOffset, hOffsetSize⟩
  have hExact :
      u.inUnit (lengths.exact .far) =
        u.inUnit lengths.offset + u.inUnit lengths.cutter / 2 +
          u.inUnit lengths.stock / 2 := by
    simp only [Lengths.exact, LengthUnit.inUnit]
    ring
  have hSplit :
      q - u.inUnit (lengths.exact .far) =
        q - (o - c / 2 + s - (s / 2 - c)) +
          (o - u.inUnit lengths.offset) +
            (s - u.inUnit lengths.stock) / 2 +
              (c - u.inUnit lengths.cutter) / 2 := by
    rw [hExact]
    ring
  rw [hSplit, Lengths.scale]
  refine (abs_add_le _ _).trans ?_
  have hThree := abs_add_three (q - (o - c / 2 + s - (s / 2 - c)))
    (o - u.inUnit lengths.offset) ((s - u.inUnit lengths.stock) / 2)
  rw [abs_div (s - u.inUnit lengths.stock), abs_two] at hThree
  rw [abs_div (c - u.inUnit lengths.cutter), abs_two]
  linarith [abs_nonneg lengths.cutter, abs_nonneg lengths.stock,
    abs_nonneg lengths.offset]

/-
  A small multiple of half of a converted number is that of
  half of the length, but for roundings.
-/
theorem half_multiple_close
    {u : LengthUnit}
    {length c q count : Rat}
    (hConverted : IsConverted u length c)
    (hNonneg : 0 ≤ count)
    (hFew : count ≤ 1000)
    (hClose : |q - count * (c / 2)| ≤ (count * |c| + 1) / 2 ^ 40) :
    |q - count * (u.inUnit length / 2)| ≤
      (|count * (u.inUnit length / 2)| + 1) / 2 ^ 37 := by
  have hError : |c - u.inUnit length| ≤ (|u.inUnit length| + 1) / 2 ^ 48 :=
    hConverted
  have hSize := Number.abs_le_of_close hError
  generalize u.inUnit length = v at *
  have hProduct : 0 ≤ count * |v| := mul_nonneg hNonneg (abs_nonneg v)
  have hMultiple :
      count * |c| ≤ count * |v| + (count * |v| + 1000) / 2 ^ 48 := by
    calc count * |c|
        ≤ count * (|v| + (|v| + 1) / 2 ^ 48) :=
          mul_le_mul_of_nonneg_left hSize hNonneg
      _ = count * |v| + (count * |v| + count) / 2 ^ 48 := by ring
      _ ≤ count * |v| + (count * |v| + 1000) / 2 ^ 48 := by linarith
  have hScaled :
      |count * ((c - v) / 2)| ≤ (count * |v| + 1000) / 2 ^ 49 := by
    rw [abs_mul, abs_of_nonneg hNonneg, abs_div, abs_two]
    calc count * (|c - v| / 2)
        ≤ count * ((|v| + 1) / 2 ^ 48 / 2) := by gcongr
      _ = (count * |v| + count) / 2 ^ 49 := by ring
      _ ≤ (count * |v| + 1000) / 2 ^ 49 := by linarith
  have hHalf : |count * (v / 2)| = count * |v| / 2 := by
    rw [abs_mul, abs_of_nonneg hNonneg, abs_div, abs_two]
    ring
  have hSplit :
      q - count * (v / 2) =
        q - count * (c / 2) + count * ((c - v) / 2) := by
    ring
  rw [hHalf, hSplit]
  refine (abs_add_le _ _).trans ?_
  linarith

/- The depth of a pass is close to what it should be. -/
theorem depth_dimension
    (hLengths : joint.HasLengths lengths)
    (hPlan : joint.plan settings u = .ok plan)
    {pass : Nat}
    (hPass : pass < plan.geometry.depths.length)
    {q : Rat}
    (hPlace :
      (plan.geometry.depths.getD pass (.int 0)).neg.place = .finite q) :
    |q - u.inUnit (lengths.exact (.depth pass))| ≤
      (|u.inUnit (lengths.exact (.depth pass))| + 1) / 2 ^ 37 := by
  rcases geometry_spec hLengths hPlan with
    ⟨cutter, -, -, -, -, hRadius, -, -, -, -, -, hDepths, hCutter, -, -⟩
  rcases passDepths_spec hDepths with ⟨hCount, r, hNumber, hMultiples⟩
  have hBounds := passCount_bounds hCount
  have hRadiusNumber : r = plan.geometry.radius := by
    have hSome := asNumber_number? hNumber
    rw [Number.number?_toValue] at hSome
    exact (Option.some.inj hSome).symm
  have hDepth := hMultiples pass hPass
  rw [hRadiusNumber] at hDepth
  have hFinite := Number.place_of_neg hPlace
  rw [List.getD_eq_getElem?_getD, List.getElem?_eq_getElem hPass,
    Option.getD_some] at hFinite
  rcases Number.depth_close (Nat.le_add_left 1 pass) (by omega) hRadius
      (by exact_mod_cast hDepth) hFinite with
    ⟨c, hCutterPlace, hClose⟩
  have hExact :
      u.inUnit (lengths.exact (.depth pass)) =
        -(((pass + 1 : Nat) : Rat) * (u.inUnit lengths.cutter / 2)) := by
    simp only [Lengths.exact, LengthUnit.inUnit]
    ring
  have hFew : ((pass + 1 : Nat) : Rat) ≤ 1000 := by
    have hNat : pass + 1 ≤ 1000 := by
      have hMost : maxPasses = 1000 := rfl
      omega
    exact_mod_cast hNat
  have hMultiple :=
    half_multiple_close (hCutter c hCutterPlace) (Nat.cast_nonneg _) hFew
      hClose
  rw [hExact, abs_neg, sub_neg_eq_add, ← abs_neg, neg_add,
    ← sub_eq_add_neg]
  exact hMultiple

/-
  What a plan shows for a dimension is the dimension's length
  in the unit of the plan, to the hundredth.
-/
theorem shows_close
    (hLengths : joint.HasLengths lengths)
    (hPlan : joint.plan settings u = .ok plan)
    {d : Dimension}
    (hPass :
      ∀ pass, d = .depth pass → pass < plan.geometry.depths.length)
    {r : Rat}
    (hShows : Line.Shows u (plan.value d) r) :
    (∃ k : Int, r = k / 100) ∧
      IsShownFor u (lengths.exact d) (lengths.scale d) r := by
  rcases Joint.converted_spec (plan_spec hPlan).1 with
    ⟨hPlate, hRetract, -, -, -, hLength⟩
  have hSides :
      1 ≤ |lengths.offset| + |lengths.cutter| + |lengths.stock| + 1 := by
    linarith [abs_nonneg lengths.offset, abs_nonneg lengths.cutter,
      abs_nonneg lengths.stock]
  cases d with
  | zero =>
      have hNumber : (plan.value .zero).number? = some (.int 0) := rfl
      refine shows_close_of_number hNumber hShows (le_refl 1)
        fun q hPlace => ?_
      cases hPlace
      norm_num [Lengths.exact, Lengths.scale, LengthUnit.inUnit]
  | plate => exact shows_close_of_parameter hLengths.plate hPlate hShows
  | retract =>
      exact shows_close_of_parameter hLengths.retract hRetract hShows
  | length => exact shows_close_of_parameter hLengths.length hLength hShows
  | near =>
      refine shows_close_of_number (Number.number?_toValue _) hShows
        hSides fun q hPlace => ?_
      refine (near_dimension hLengths hPlan hPlace).trans ?_
      exact div_le_div_of_nonneg_right
        (le_add_of_nonneg_left (abs_nonneg _)) (by positivity)
  | far =>
      refine shows_close_of_number (Number.number?_toValue _) hShows
        hSides fun q hPlace => ?_
      refine (far_dimension hLengths hPlan hPlace).trans ?_
      exact div_le_div_of_nonneg_right
        (le_add_of_nonneg_left (abs_nonneg _)) (by positivity)
  | depth pass =>
      exact shows_close_of_number (Number.number?_toValue _) hShows
        (le_refl 1) fun q hPlace =>
          depth_dimension hLengths hPlan (hPass pass rfl) hPlace

end Dimensions

end Plan

end Joinery
