import Joinery.Proofs.Double.Arithmetic

/-
  A double is known by what its bits store: its sign and its
  parts, or that it is an infinity or no number.

  Key definitions include:
    * `Double.ofSigned`
    * `Double.ofBinary`

  Key theorems include:
    * `Double.pack_unpack`
    * `Double.ofBinary_ofFloat`
    * `Double.ofFloat_ofSigned`
    * `Double.neg_ofSigned`
-/

namespace Joinery

namespace Double

open Float.Model Float.Model.UnpackedFloat

------------------------------------------------------------
-- Fields
------------------------------------------------------------

/- Bits fall into a sign, eleven bits of exponent, and the mantissa. -/
theorem bits_of_fields
    (b : BitVec 64) :
    b.extractLsb 63 63 ++ b.extractLsb 62 52 ++ b.extractLsb 51 0 = b := by
  apply BitVec.eq_of_getLsbD_eq
  intro i hIndex
  rw [BitVec.getLsbD_append, BitVec.getLsbD_append]
  simp only [BitVec.getLsbD_extractLsb]
  split
  · rename_i hMantissa
    simp [hMantissa]
  · split
    · rename_i hMantissa hExponent
      rw [show 52 + (i - (51 - 0 + 1)) = i by omega]
      simp
      omega
    · rename_i hMantissa hExponent
      rw [show 63 + (i - (51 - 0 + 1) - (62 - 52 + 1)) = i by omega]
      simp
      omega

/- Bits are put together from their fields. -/
theorem components_of_bits
    {b : BitVec Format.binary64.numBits}
    {exponent : BitVec Format.binary64.exponentBits}
    {mantissa : BitVec Format.binary64.mantissaBitsWithoutImplicit}
    (hExponent : unpackExponent b = exponent)
    (hMantissa : unpackMantissa b = mantissa) :
    packComponents Format.binary64 (Sign.ofBitVec (unpackSign b))
      exponent mantissa = b := by
  have hSign : ∀ v : BitVec 1, (Sign.ofBitVec v).toBitVec = v := by decide
  rw [packComponents, hSign, ← hExponent, ← hMantissa]
  exact bits_of_fields b

/- Bits of the least exponent come back without the implicit bit. -/
theorem pack_of_least
    {b : BitVec Format.binary64.numBits}
    (hFirst : unpackExponent b = 0#(Format.binary64.exponentBits))
    {e : Int}
    (hPlace : e = -1074)
    (hPos : 0 < (unpackMantissa b).toNat) :
    UnpackedFloat.pack Format.binary64
      (.finite (Sign.ofBitVec (unpackSign b)) (unpackMantissa b).toNat e
        hPos) = b := by
  have hBiased :
      (e + Format.binary64.exponentBias +
        Format.binary64.mantissaBitsWithoutImplicit).toNat = 1 := by
    rw [hPlace]
    rfl
  have hLog :
      ¬ (unpackMantissa b).toNat.log2 + 1 =
        Format.binary64.mantissaBits := by
    have hFraction : (unpackMantissa b).toNat < 2 ^ 52 :=
      (unpackMantissa b).isLt
    have hLess := (Nat.log2_lt hPos.ne').mpr hFraction
    have hBits : Format.binary64.mantissaBits = 53 := rfl
    omega
  rw [pack_finite]
  simp only [hBiased]
  rw [if_neg (by decide), if_neg hLog, BitVec.ofNat_toNat,
    BitVec.setWidth_eq]
  exact components_of_bits hFirst rfl

/- Bits of any other exponent but the last come back with it. -/
theorem pack_of_normal
    {b : BitVec Format.binary64.numBits}
    (hLast : unpackExponent b ≠ -1#(Format.binary64.exponentBits))
    {e : Int}
    (hPlace : e = ((unpackExponent b).toNat : Int) - 1075)
    (hPos : 0 < (1#1 ++ unpackMantissa b).toNat) :
    UnpackedFloat.pack Format.binary64
      (.finite (Sign.ofBitVec (unpackSign b))
        (1#1 ++ unpackMantissa b).toNat e hPos) = b := by
  have hFraction : (unpackMantissa b).toNat < 2 ^ 52 :=
    (unpackMantissa b).isLt
  have hFits : (unpackExponent b).toNat < 2048 := (unpackExponent b).isLt
  have hMost : (unpackExponent b).toNat ≠ 2047 := fun hMax =>
    hLast (BitVec.eq_of_toNat_eq hMax)
  have hBiased :
      (e + Format.binary64.exponentBias +
        Format.binary64.mantissaBitsWithoutImplicit).toNat =
        (unpackExponent b).toNat := by
    rw [hPlace]
    simp only [Format.exponentBias]
    norm_num
    omega
  have hFull :
      (1#1 ++ unpackMantissa b).toNat =
        2 ^ 52 + (unpackMantissa b).toNat :=
    toNat_implicit (unpackMantissa b)
  have hLog :
      (1#1 ++ unpackMantissa b).toNat.log2 + 1 =
        Format.binary64.mantissaBits := by
    have hWhole : 2 ^ 52 ≤ (1#1 ++ unpackMantissa b).toNat := by omega
    have hShort : (1#1 ++ unpackMantissa b).toNat < 2 ^ 53 := by omega
    rw [(Nat.log2_eq_iff (by omega)).mpr ⟨hWhole, hShort⟩]
    rfl
  have hStored :
      BitVec.ofNat Format.binary64.mantissaBitsWithoutImplicit
        (1#1 ++ unpackMantissa b).toNat = unpackMantissa b := by
    apply BitVec.eq_of_toNat_eq
    rw [hFull, BitVec.toNat_ofNat]
    change (2 ^ 52 + (unpackMantissa b).toNat) % 2 ^ 52 =
      (unpackMantissa b).toNat
    omega
  rw [pack_finite]
  simp only [hBiased]
  rw [if_neg (by norm_num; omega), if_pos hLog, hStored,
    BitVec.ofNat_toNat, BitVec.setWidth_eq]
  exact components_of_bits rfl rfl

/- Bits come back from what they store. -/
theorem pack_unpack_bits
    {b : BitVec Format.binary64.numBits}
    (hValid : Format.binary64.Valid b) :
    UnpackedFloat.pack Format.binary64
      (UnpackedFloat.unpack Format.binary64 b) = b := by
  unfold UnpackedFloat.unpack
  extract_lets mantissa exponent place stored sign
  have hPlace : place = (exponent.toNat : Int) - 1075 := rfl
  by_cases hLast : exponent = -1#(Format.binary64.exponentBits)
  · rw [if_pos hLast]
    by_cases hNone :
        mantissa = 0#(Format.binary64.mantissaBitsWithoutImplicit)
    · rw [if_pos hNone]
      exact components_of_bits hLast hNone
    · rw [if_neg hNone]
      exact (hValid.eq_packedNaN hLast hNone).symm
  · rw [if_neg hLast]
    by_cases hFirst : exponent = 0#(Format.binary64.exponentBits)
    · rw [if_pos hFirst]
      by_cases hNone :
          mantissa = 0#(Format.binary64.mantissaBitsWithoutImplicit)
      · rw [dif_pos hNone]
        exact components_of_bits hFirst hNone
      · have hLeast : place + 1 = -1074 := by
          rw [hPlace, hFirst]
          rfl
        rw [dif_neg hNone]
        exact pack_of_least hFirst hLeast _
    · rw [if_neg hFirst]
      exact pack_of_normal hLast hPlace _

/- A double is known by what its bits store. -/
theorem pack_unpack
    (x : Float) :
    Float.ofModel (Float.Model.pack x.toModel.unpack) = x := by
  rcases x with ⟨⟨⟨bits⟩, hValid⟩⟩
  change Float.ofModel
    (Float.Model.pack (UnpackedFloat.unpack Format.binary64 bits)) = _
  congr 1
  unfold Float.Model.pack
  congr 1
  exact congrArg UInt64.ofBitVec (pack_unpack_bits hValid)

------------------------------------------------------------
-- Doubles From Parts
------------------------------------------------------------

/- The sign that bits store. -/
def signOf
    (negative : Bool) : Sign :=
  if negative then .negative else .positive

/- The double with a sign and parts. -/
def ofSigned
    (negative : Bool)
    (m : Nat)
    (e : Int) : Float :=
  .ofModel (Float.Model.pack (ofParts (signOf negative) m e))

/- Put a double together from what it is taken apart into. -/
def ofBinary : Binary → Float
  | .nan => .ofModel (Float.Model.pack .notANumber)
  | .infinite negative =>
      .ofModel (Float.Model.pack (.infinity (signOf negative)))
  | .finite negative m e => ofSigned negative m e

/- Nothing is lost when a double is taken apart. -/
theorem ofBinary_ofFloat
    (x : Float) :
    ofBinary (Binary.ofFloat x) = x := by
  have hSame := pack_unpack x
  unfold Binary.ofFloat
  cases hUnpack : x.toModel.unpack with
  | notANumber =>
      rw [hUnpack] at hSame
      exact hSame
  | infinity s =>
      rw [hUnpack] at hSame
      cases s <;> exact hSame
  | zero s =>
      rw [hUnpack] at hSame
      cases s <;> exact hSame
  | finite s m e hPos =>
      rw [hUnpack, ← ofParts_of_pos s hPos e] at hSame
      cases s <;> exact hSame

/- Parts that bits can store are unpacked as they were packed. -/
theorem unpack_ofSigned
    (s : Sign)
    {m : Nat}
    {e : Int}
    (hParts : m = 0 ∨ IsCanonical m e ∧ e ≤ 971) :
    (Float.Model.pack (ofParts s m e)).unpack = ofParts s m e := by
  rcases hParts with rfl | ⟨hCanonical, hRange⟩
  · exact unpack_pack_zero s
  · exact unpack_pack s hCanonical hRange

/- So they come back when the double is taken apart. -/
theorem ofFloat_ofSigned
    (negative : Bool)
    {m : Nat}
    {e : Int}
    (hPos : 0 < m)
    (hCanonical : IsCanonical m e)
    (hRange : e ≤ 971) :
    Binary.ofFloat (ofSigned negative m e) = .finite negative m e := by
  have hBack :=
    unpack_ofSigned (signOf negative) (Or.inr ⟨hCanonical, hRange⟩)
  rw [Binary.ofFloat, ofSigned, hBack, ofParts_of_pos _ hPos]
  cases negative <;> rfl

/- The opposite double has the opposite sign. -/
theorem neg_ofSigned
    (negative : Bool)
    {m : Nat}
    {e : Int}
    (hParts : m = 0 ∨ IsCanonical m e ∧ e ≤ 971) :
    -ofSigned negative m e = ofSigned (!negative) m e := by
  have hNeg :
      ∀ s, (ofParts s m e).neg = ofParts (-s) m e := by
    intro s
    rcases Nat.eq_zero_or_pos m with rfl | hSome
    · rfl
    · rw [ofParts_of_pos s hSome, ofParts_of_pos (-s) hSome]
      rfl
  change Float.ofModel (Float.Model.pack
    (Float.Model.pack (ofParts _ m e)).unpack.neg) = _
  rw [unpack_ofSigned _ hParts, hNeg]
  cases negative <;> rfl

end Double

end Joinery
