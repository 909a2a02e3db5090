import Joinery.Decimal.Binary
import Joinery.Proofs.Double.Mantissa

/-
  A double is stored as bits. Canonical parts come back from
  the bits as they were, unless the exponent is too large:
  then the double is an infinity.

  Key definitions include:
    * `Double.signed`
    * `Double.valueOf?`

  Key theorems include:
    * `Double.unpack_pack`
    * `Double.unpack_pack_overflow`
    * `Double.exactValue?_eq`
    * `Double.unpack_canonical`
    * `Double.parts_of_exactValue?`
-/

namespace Joinery

namespace Double

open Float.Model Float.Model.UnpackedFloat

------------------------------------------------------------
-- Fields
------------------------------------------------------------

/- The sign comes back from the fields. -/
theorem sign_of_fields
    {format : Format}
    (s : Sign)
    (exponent : BitVec format.exponentBits)
    (mantissa : BitVec format.mantissaBitsWithoutImplicit) :
    Sign.ofBitVec
        (unpackSign (packComponents format s exponent mantissa)) = s := by
  have hBits :
      unpackSign (packComponents format s exponent mantissa) =
        s.toBitVec := by
    unfold unpackSign packComponents
    ext i hIndex
    have hZero : i = 0 := by omega
    subst hZero
    simp [BitVec.getLsbD_append, BitVec.getElem_append]
  rw [hBits]
  cases s with
  | negative => rfl
  | positive => rfl

/- The implicit bit stands before the stored ones. -/
theorem toNat_implicit
    (f : BitVec 52) :
    (1#1 ++ f).toNat = 2 ^ 52 + f.toNat := by
  rw [BitVec.toNat_append, ← Nat.shiftLeft_add_eq_or_of_lt f.isLt]
  simp [Nat.shiftLeft_eq]

/- Finite numbers with the same parts are the same. -/
theorem finite_eq
    {s t : Sign}
    {m n : Nat}
    {e f : Int}
    {hPos : 0 < m}
    (hSign : s = t)
    (hMantissa : m = n)
    (hExponent : e = f) :
    UnpackedFloat.finite s m e hPos =
      .finite t n f (hMantissa ▸ hPos) := by
  subst hSign hMantissa hExponent
  rfl

/- Fields with a middling exponent are a number with all 53 bits. -/
theorem unpack_full_fields
    (s : Sign)
    {m b : Nat}
    (hPos : 0 < m)
    (hFits : m < 2 ^ 53)
    (hFull : 2 ^ 52 ≤ m)
    (hLow : 0 < b)
    (hHigh : b < 2047) :
    UnpackedFloat.unpack Format.binary64
        (packComponents Format.binary64 s (BitVec.ofNat 11 b)
          (BitVec.ofNat 52 m)) =
      .finite s m (b - 1075) hPos := by
  have hExponent : (BitVec.ofNat 11 b).toNat = b := by
    rw [BitVec.toNat_ofNat, Nat.mod_eq_of_lt (by omega)]
  have hMantissa : (1#1 ++ BitVec.ofNat 52 m).toNat = m := by
    rw [toNat_implicit, BitVec.toNat_ofNat]
    omega
  have hNotLast : BitVec.ofNat 11 b ≠ -1#11 := by
    intro hLast
    have hNat := congrArg BitVec.toNat hLast
    rw [hExponent] at hNat
    have hMax : (-1#11).toNat = 2047 := rfl
    omega
  have hNotFirst : BitVec.ofNat 11 b ≠ 0#11 := by
    intro hFirst
    have hNat := congrArg BitVec.toNat hFirst
    rw [hExponent] at hNat
    have hMin : (0#11).toNat = 0 := rfl
    omega
  unfold UnpackedFloat.unpack
  rw [if_neg (by rwa [unpackExponent_packComponents]),
    if_neg (by rwa [unpackExponent_packComponents])]
  refine finite_eq (sign_of_fields s _ _) ?_ ?_
  · rw [unpackMantissa_packComponents]
    exact hMantissa
  · rw [unpackExponent_packComponents, hExponent]
    rfl

/- Fields with the least exponent are a number with fewer bits. -/
theorem unpack_short_fields
    (s : Sign)
    {f : Nat}
    (hPos : 0 < f)
    (hFraction : f < 2 ^ 52) :
    UnpackedFloat.unpack Format.binary64
        (packComponents Format.binary64 s 0#11 (BitVec.ofNat 52 f)) =
      .finite s f (-1074) hPos := by
  have hMantissa : (BitVec.ofNat 52 f).toNat = f := by
    rw [BitVec.toNat_ofNat, Nat.mod_eq_of_lt hFraction]
  have hSome : BitVec.ofNat 52 f ≠ 0#52 := by
    intro hZero
    have hNat := congrArg BitVec.toNat hZero
    rw [hMantissa] at hNat
    have hMin : (0#52).toNat = 0 := rfl
    omega
  have hNotLast : (0#11) ≠ -1#11 := by decide
  unfold UnpackedFloat.unpack
  rw [if_neg (by rwa [unpackExponent_packComponents]),
    if_pos (unpackExponent_packComponents ..),
    dif_neg (by rwa [unpackMantissa_packComponents])]
  refine finite_eq (sign_of_fields s _ _) ?_ ?_
  · rw [unpackMantissa_packComponents]
    exact hMantissa
  · rw [unpackExponent_packComponents]
    rfl

------------------------------------------------------------
-- Canonical Parts
------------------------------------------------------------

/- A zero comes back from its bits. -/
theorem unpack_pack_zero
    (s : Sign) :
    (Float.Model.pack (.zero s)).unpack = .zero s := by
  cases s with
  | negative => rfl
  | positive => rfl

/- An infinity comes back from its bits. -/
theorem unpack_pack_infinity
    (s : Sign) :
    (Float.Model.pack (.infinity s)).unpack = .infinity s := by
  cases s with
  | negative => rfl
  | positive => rfl

/- The fields of a finite number; too large an exponent is an infinity. -/
theorem pack_finite
    (s : Sign)
    {m : Nat}
    (e : Int)
    (hPos : 0 < m) :
    UnpackedFloat.pack Format.binary64 (.finite s m e hPos) =
      let biased :=
        (e + Format.binary64.exponentBias +
          Format.binary64.mantissaBitsWithoutImplicit).toNat
      if 2 ^ Format.binary64.exponentBits ≤ biased + 1 then
        packedInfinity Format.binary64 s
      else if m.log2 + 1 = Format.binary64.mantissaBits then
        packComponents Format.binary64 s (BitVec.ofNat _ biased)
          (BitVec.ofNat _ m)
      else
        packComponents Format.binary64 s 0#_ (BitVec.ofNat _ m) :=
  rfl

/- Canonical parts come back from the bits that store them. -/
theorem unpack_pack
    (s : Sign)
    {m : Nat}
    {e : Int}
    (hCanonical : IsCanonical m e)
    (hRange : e ≤ 971) :
    (Float.Model.pack (ofParts s m e)).unpack = ofParts s m e := by
  have hLeast := hCanonical.least
  rcases Nat.eq_zero_or_pos m with hZero | hPos
  · subst hZero
    exact unpack_pack_zero s
  · have hBias :
        (e + Format.binary64.exponentBias +
          Format.binary64.mantissaBitsWithoutImplicit).toNat =
          (e + 1075).toNat := by
      simp only [Format.exponentBias]
      norm_num
      omega
    have hSmall :
        ¬ 2 ^ Format.binary64.exponentBits ≤ (e + 1075).toNat + 1 := by
      norm_num
      omega
    rw [ofParts_of_pos s hPos]
    change UnpackedFloat.unpack Format.binary64
      (UnpackedFloat.pack Format.binary64 (.finite s m e hPos)) = _
    rw [pack_finite, hBias, if_neg hSmall]
    rcases Nat.lt_or_ge m (2 ^ 52) with hShort | hFull
    · have hLog : ¬ m.log2 + 1 = Format.binary64.mantissaBits := by
        have hLess :=
          (Nat.log2_lt (Nat.pos_iff_ne_zero.mp hPos)).mpr hShort
        have hBits : Format.binary64.mantissaBits = 53 := rfl
        omega
      have hLast : e = -1074 := by
        rcases hCanonical.full with hFull | hLast
        · omega
        · exact hLast
      subst hLast
      rw [if_neg hLog]
      exact unpack_short_fields s hPos hShort
    · have hLog : m.log2 + 1 = Format.binary64.mantissaBits := by
        rw [(Nat.log2_eq_iff (Nat.pos_iff_ne_zero.mp hPos)).mpr
          ⟨hFull, hCanonical.fits⟩]
        rfl
      have hBack : e = ((e + 1075).toNat : Int) - 1075 := by omega
      rw [if_pos hLog]
      have hUnpack :=
        unpack_full_fields s hPos hCanonical.fits hFull
          (b := (e + 1075).toNat) (by omega) (by omega)
      rw [← hBack] at hUnpack
      exact hUnpack

/- Parts with an exponent that is too large become an infinity. -/
theorem unpack_pack_overflow
    (s : Sign)
    {m : Nat}
    {e : Int}
    (hPos : 0 < m)
    (hOver : 971 < e) :
    (Float.Model.pack (ofParts s m e)).unpack = .infinity s := by
  have hLarge :
      2 ^ Format.binary64.exponentBits ≤
        (e + Format.binary64.exponentBias +
          Format.binary64.mantissaBitsWithoutImplicit).toNat + 1 := by
    simp only [Format.exponentBias]
    norm_num
    omega
  have hPack :
      UnpackedFloat.pack Format.binary64 (.finite s m e hPos) =
        UnpackedFloat.pack Format.binary64 (.infinity s) := by
    rw [pack_finite, if_pos hLarge]
    rfl
  rw [ofParts_of_pos s hPos]
  change UnpackedFloat.unpack Format.binary64
    (UnpackedFloat.pack Format.binary64 (.finite s m e hPos)) = _
  rw [hPack]
  exact unpack_pack_infinity s

------------------------------------------------------------
-- Values
------------------------------------------------------------

/- A magnitude with a sign. -/
def signed
    (s : Sign)
    (q : Rat) : Rat :=
  match s with
  | .negative => -q
  | .positive => q

@[simp] theorem abs_signed
    (s : Sign)
    (q : Rat) :
    |signed s q| = |q| := by
  cases s with
  | negative => exact abs_neg q
  | positive => rfl

/- The exact number that a finite double denotes. -/
def valueOf? : UnpackedFloat → Option Rat
  | .finite s m e _ => some (signed s (m * 2 ^ e))
  | .zero _ => some 0
  | .infinity _ => none
  | .notANumber => none

theorem exactValue?_eq
    (x : Float) :
    Decimal.exactValue? x = valueOf? x.toModel.unpack := by
  unfold Decimal.exactValue? Binary.ofFloat
  cases x.toModel.unpack with
  | notANumber => rfl
  | infinity s => cases s <;> rfl
  | zero s =>
      have hZero : ((0 : Nat) : Rat) * 2 ^ (0 : Int) = 0 := by norm_num
      cases s with
      | negative =>
          show some (-(((0 : Nat) : Rat) * 2 ^ (0 : Int))) = some 0
          rw [hZero, neg_zero]
      | positive =>
          show some (((0 : Nat) : Rat) * 2 ^ (0 : Int)) = some 0
          rw [hZero]
  | finite s m e hPos => cases s <;> rfl

theorem valueOf?_ofParts
    (s : Sign)
    (m : Nat)
    (e : Int) :
    valueOf? (ofParts s m e) = some (signed s (m * 2 ^ e)) := by
  by_cases hZero : m = 0
  · subst hZero
    show some 0 = some (signed s (((0 : Nat) : Rat) * 2 ^ e))
    rw [Nat.cast_zero, zero_mul]
    cases s with
    | negative => rw [signed, neg_zero]
    | positive => rfl
  · rw [ofParts_of_pos s (Nat.pos_of_ne_zero hZero) e]
    rfl

/- What comes back from bits is canonical and in range. -/
theorem unpack_canonical
    {b : BitVec Format.binary64.numBits}
    {s : Sign}
    {m : Nat}
    {e : Int}
    {hPos : 0 < m}
    (hUnpack :
      UnpackedFloat.unpack Format.binary64 b = .finite s m e hPos) :
    IsCanonical m e ∧ e ≤ 971 := by
  unfold UnpackedFloat.unpack at hUnpack
  extract_lets mantissa exponent place stored sign at hUnpack
  have hPlace : place = (exponent.toNat : Int) - 1075 := rfl
  have hFraction : mantissa.toNat < 2 ^ 52 := mantissa.isLt
  have hFits : exponent.toNat < 2048 := exponent.isLt
  by_cases hLast : exponent = -1#(Format.binary64.exponentBits)
  · rw [if_pos hLast] at hUnpack
    by_cases hNone :
        mantissa = 0#(Format.binary64.mantissaBitsWithoutImplicit)
    · rw [if_pos hNone] at hUnpack
      cases hUnpack
    · rw [if_neg hNone] at hUnpack
      cases hUnpack
  · rw [if_neg hLast] at hUnpack
    by_cases hFirst : exponent = 0#(Format.binary64.exponentBits)
    · rw [if_pos hFirst] at hUnpack
      by_cases hNone :
          mantissa = 0#(Format.binary64.mantissaBitsWithoutImplicit)
      · rw [dif_pos hNone] at hUnpack
        cases hUnpack
      · rw [dif_neg hNone] at hUnpack
        injection hUnpack with _ hMantissa hExponent
        have hZero : exponent.toNat = 0 := by
          rw [hFirst]
          rfl
        have hSmall : m < 2 ^ 52 := hMantissa ▸ hFraction
        exact ⟨⟨by omega, by omega, Or.inr (by omega)⟩, by omega⟩
    · rw [if_neg hFirst] at hUnpack
      injection hUnpack with _ hMantissa hExponent
      have hFull : m = 2 ^ 52 + mantissa.toNat :=
        hMantissa.symm.trans (toNat_implicit mantissa)
      have hSome : exponent.toNat ≠ 0 := by
        intro hZero
        exact hFirst (BitVec.eq_of_toNat_eq hZero)
      have hMost : exponent.toNat ≠ 2047 := by
        intro hMax
        exact hLast (BitVec.eq_of_toNat_eq hMax)
      exact ⟨⟨by omega, by omega, Or.inl (by omega)⟩, by omega⟩

/- A finite double has a sign and parts that are canonical or zero. -/
theorem parts_of_exactValue?
    {x : Float}
    {q : Rat}
    (hValue : Decimal.exactValue? x = some q) :
    ∃ negative m e, Binary.ofFloat x = .finite negative m e ∧
      q = (if negative then -(m * (2 : Rat) ^ e) else m * 2 ^ e) ∧
      (m = 0 ∨ IsCanonical m e ∧ e ≤ 971) := by
  rw [exactValue?_eq] at hValue
  unfold Binary.ofFloat
  cases hUnpack : x.toModel.unpack with
  | notANumber =>
      rw [hUnpack] at hValue
      cases hValue
  | infinity s =>
      rw [hUnpack] at hValue
      cases hValue
  | zero s =>
      rw [hUnpack] at hValue
      cases hValue
      cases s with
      | negative => exact ⟨true, 0, 0, rfl, by simp, Or.inl rfl⟩
      | positive => exact ⟨false, 0, 0, rfl, by simp, Or.inl rfl⟩
  | finite s m e hPos =>
      rw [hUnpack] at hValue
      cases hValue
      have hCanonical := unpack_canonical hUnpack
      cases s with
      | negative => exact ⟨true, m, e, rfl, rfl, Or.inr hCanonical⟩
      | positive => exact ⟨false, m, e, rfl, rfl, Or.inr hCanonical⟩

end Double

end Joinery
