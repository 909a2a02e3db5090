import Mathlib.Algebra.Order.Field.Rat
import Mathlib.Data.List.TakeWhile
import Mathlib.Data.Rat.Floor
import Mathlib.Tactic.Linarith
import Mathlib.Tactic.NormNum
import Mathlib.Tactic.Push
import Mathlib.Tactic.Ring
import Joinery.Decimal.Reading
import Joinery.Decimal.Rounded
import Joinery.Proofs.Text.Alphabet

/-
  What is written as a numeral reads back as the number that
  was written: integers exactly, and numbers with a fixed
  count of places as the nearest number with that many.

  Key definitions include:
    * `Decimal.Denotes`

  Key theorems include:
    * `Decimal.naturalOf_digits`
    * `Decimal.integerText_denotes`
    * `Decimal.roundMagnitude_close`
    * `Decimal.fixedText_denotes`
-/

namespace Joinery

namespace Decimal

------------------------------------------------------------
-- Magnitudes
------------------------------------------------------------

theorem magnitude_nonneg
    (d : Decimal) :
    0 ≤ d.magnitude :=
  mul_nonneg (Nat.cast_nonneg _) (zpow_pos (by norm_num) _).le

/- The sign of a decimal is all that its magnitude leaves out. -/
theorem abs_toRat
    (d : Decimal) :
    |d.toRat| = d.magnitude := by
  rw [toRat]
  split
  · rw [abs_neg, abs_of_nonneg d.magnitude_nonneg]
  · exact abs_of_nonneg d.magnitude_nonneg

------------------------------------------------------------
-- Digits
------------------------------------------------------------

/- Characters that are digits, one and all. -/
def AreDigits
    (cs : List Char) : Prop :=
  ∀ c ∈ cs, isAsciiDigit c = true

theorem isAsciiDigit_iff
    (c : Char) :
    isAsciiDigit c = true ↔ c.isDigit = true := by
  unfold isAsciiDigit Char.isDigit
  simp only [Bool.and_eq_true, decide_eq_true_eq]
  rfl

theorem digits_eq
    (n : Nat) :
    digits n = Nat.toDigits 10 n :=
  Nat.toList_repr

theorem digits_areDigits
    (n : Nat) :
    AreDigits (digits n) := by
  intro c hMem
  rw [digits_eq] at hMem
  exact (isAsciiDigit_iff c).mpr
    (Nat.isDigit_of_mem_toDigits (by decide) (by decide) hMem)

theorem zeros_areDigits
    (n : Nat) :
    AreDigits (zeros n) := by
  intro c hMem
  rw [List.eq_of_mem_replicate hMem]
  rfl

theorem AreDigits.append
    {front rest : List Char}
    (hFront : AreDigits front)
    (hRest : AreDigits rest) :
    AreDigits (front ++ rest) := by
  intro c hMem
  rcases List.mem_append.mp hMem with hEarly | hLate
  · exact hFront c hEarly
  · exact hRest c hLate

theorem digits_ne_nil
    (n : Nat) :
    digits n ≠ [] := by
  rw [digits_eq]
  exact Nat.toDigits_ne_nil

/- A number has as many digits as powers of ten that it reaches. -/
theorem digitCount_le_iff
    {n count : Nat}
    (hSome : 0 < count) :
    digitCount n ≤ count ↔ n < 10 ^ count := by
  rw [digitCount, digits_eq]
  exact Nat.length_toDigits_le_iff (by decide) hSome

/- A limit of digits is a limit of size. -/
theorem exceedsLimit_eq_false_iff
    (n : Int) :
    exceedsLimit n = false ↔ digitCount n.natAbs ≤ digitLimit := by
  rw [digitCount_le_iff (by decide), exceedsLimit, Nat.pow_eq,
    decide_eq_false_iff_not, not_le]

theorem digitValue?_of_isAsciiDigit
    {c : Char}
    (hDigit : isAsciiDigit c = true) :
    (Text.digitValue? c).getD 0 = c.toNat - '0'.toNat := by
  have hBounds : '0' ≤ c ∧ c ≤ '9' := by
    simpa only [isAsciiDigit, Bool.and_eq_true, decide_eq_true_eq]
      using hDigit
  have hNine : c.toNat ≤ 57 := hBounds.2
  rw [Text.digitValue?, if_pos (by omega), if_pos hBounds]
  rfl

/- Digits are read as the standard library reads them. -/
theorem naturalOf_eq
    {ds : List Char}
    (hDigits : AreDigits ds) :
    naturalOf ds = Nat.ofDigitChars 10 ds 0 := by
  have hFold :
      ∀ start,
        ds.foldl (fun n c => 10 * n + (Text.digitValue? c).getD 0)
            start =
          Nat.ofDigitChars 10 ds start := by
    induction ds with
    | nil => intro start; rfl
    | cons c rest ih =>
        intro start
        have hDigit := hDigits c (List.mem_cons_self ..)
        have hRest : AreDigits rest := fun other hMem =>
          hDigits other (List.mem_cons_of_mem _ hMem)
        rw [List.foldl_cons, digitValue?_of_isAsciiDigit hDigit,
          ih hRest, Nat.ofDigitChars_cons]
  exact hFold 0

/- The digits of a number read back as the number. -/
theorem naturalOf_digits
    (n : Nat) :
    naturalOf (digits n) = n := by
  rw [naturalOf_eq (digits_areDigits n), digits_eq]
  exact Nat.ofDigitChars_ten_toDigits

/- Zeros on the left change no number. -/
theorem naturalOf_padLeft
    (width n : Nat) :
    naturalOf (padLeft width (digits n)) = n := by
  have hDigits : AreDigits (padLeft width (digits n)) :=
    (zeros_areDigits _).append (digits_areDigits n)
  rw [naturalOf_eq hDigits, padLeft, zeros, Nat.ofDigitChars_append,
    Nat.ofDigitChars_replicate_zero, mul_zero, digits_eq]
  exact Nat.ofDigitChars_ten_toDigits

------------------------------------------------------------
-- Numerals
------------------------------------------------------------

/- Characters are a numeral for a number, and hold no blank. -/
def Denotes
    (cs : List Char)
    (r : Rat) : Prop :=
  (∃ d, ofNumeral? cs = some d ∧ d.toRat = r) ∧ ' ' ∉ cs

/- A numeral denotes one number. -/
theorem Denotes.unique
    {cs : List Char}
    {q r : Rat}
    (hFirst : Denotes cs q)
    (hSecond : Denotes cs r) :
    q = r := by
  rcases hFirst with ⟨⟨d, hNumeral, rfl⟩, -⟩
  rcases hSecond with ⟨⟨e, hSame, rfl⟩, -⟩
  rw [hNumeral] at hSame
  cases hSame
  rfl

theorem takeWhile_digits
    {ds : List Char}
    (hDigits : AreDigits ds) :
    ds.takeWhile isAsciiDigit = ds ∧ ds.dropWhile isAsciiDigit = [] :=
  ⟨List.takeWhile_eq_self_iff.mpr hDigits,
    List.dropWhile_eq_nil_iff.mpr hDigits⟩

/- Digits without a point are a whole number. -/
theorem unsigned?_digits
    {ds : List Char}
    (hDigits : AreDigits ds)
    (hSome : ds ≠ []) :
    unsigned? ds = some (naturalOf ds, 0) := by
  rcases takeWhile_digits hDigits with ⟨hTake, hDrop⟩
  simp [unsigned?, hTake, hDrop, hSome, exponentOf?]

/- Digits around a point are a number with as many places as follow. -/
theorem unsigned?_pointed
    {whole fraction : List Char}
    (hWhole : AreDigits whole)
    (hFraction : AreDigits fraction)
    (hSome : whole ≠ []) :
    unsigned? (whole ++ '.' :: fraction) =
      some (naturalOf (whole ++ fraction), -(fraction.length : Int)) := by
  have hPoint :
      ∀ c others, '.' :: fraction = c :: others →
        isAsciiDigit c = false := by
    intro c others hFirst
    cases hFirst
    rfl
  rcases Text.span_of_stops hWhole hPoint with ⟨hTake, hDrop⟩
  rcases takeWhile_digits hFraction with ⟨hTakeRest, hDropRest⟩
  simp [unsigned?, hTake, hDrop, hTakeRest, hDropRest, hSome,
    exponentOf?]

------------------------------------------------------------
-- Signs
------------------------------------------------------------

/- A digit is no sign, no point and no blank. -/
theorem ne_of_isAsciiDigit
    {c d : Char}
    (hDigit : isAsciiDigit c = true)
    (hOther : isAsciiDigit d = false) :
    c ≠ d := by
  intro hSame
  rw [hSame, hOther] at hDigit
  cases hDigit

/- What starts with a digit has no sign before it. -/
theorem splitSign_of_digit
    {c : Char}
    (hDigit : isAsciiDigit c = true)
    (rest : List Char) :
    splitSign (c :: rest) = (false, c :: rest) := by
  have hMinus := ne_of_isAsciiDigit hDigit (d := '-') rfl
  have hPlus := ne_of_isAsciiDigit hDigit (d := '+') rfl
  unfold splitSign
  split
  · rename_i hSame
    exact absurd (List.cons.inj hSame).1 hMinus
  · rename_i hSame
    exact absurd (List.cons.inj hSame).1 hPlus
  · rfl

/- A numeral that starts with a digit, with or without a minus sign. -/
theorem ofNumeral?_signed
    (negative : Bool)
    {cs : List Char}
    {n : Nat}
    {e : Int}
    (hFirst : ∃ c rest, cs = c :: rest ∧ isAsciiDigit c = true)
    (hUnsigned : unsigned? cs = some (n, e)) :
    ofNumeral? (if negative then '-' :: cs else cs) =
      some ⟨negative, n, e⟩ := by
  cases negative with
  | true => simp [ofNumeral?, splitSign, hUnsigned]
  | false =>
      rcases hFirst with ⟨c, rest, rfl, hDigit⟩
      simp [ofNumeral?, splitSign_of_digit hDigit, hUnsigned]

theorem exists_first_digit
    {ds : List Char}
    (hDigits : AreDigits ds)
    (hSome : ds ≠ [])
    (rest : List Char) :
    ∃ c others, ds ++ rest = c :: others ∧ isAsciiDigit c = true := by
  cases ds with
  | nil => exact absurd rfl hSome
  | cons c others =>
      exact ⟨c, others ++ rest, rfl, hDigits c (List.mem_cons_self ..)⟩

theorem blank_not_mem_digits
    {ds : List Char}
    (hDigits : AreDigits ds) :
    ' ' ∉ ds := by
  intro hMem
  have hBlank := hDigits ' ' hMem
  cases hBlank

theorem blank_not_mem_signed
    (negative : Bool)
    {cs : List Char}
    (hBlank : ' ' ∉ cs) :
    ' ' ∉ (if negative then '-' :: cs else cs) := by
  cases negative with
  | true =>
      simp only [if_true, List.mem_cons, not_or]
      exact ⟨by decide, hBlank⟩
  | false => exact hBlank

------------------------------------------------------------
-- Integers
------------------------------------------------------------

theorem integerText_toList
    (n : Int) :
    (integerText n).toList =
      if n < 0 then '-' :: digits n.natAbs else digits n.natAbs := by
  cases n with
  | ofNat k => rfl
  | negSucc k =>
      have hNeg : Int.negSucc k < 0 := Int.negSucc_lt_zero k
      rw [if_pos hNeg]
      change ("-" ++ Nat.repr (k + 1)).toList = _
      rw [String.toList_append]
      rfl

/- The text of an integer is a numeral for it. -/
theorem integerText_denotes
    (n : Int) :
    Denotes (integerText n).toList n := by
  have hDigits := digits_areDigits n.natAbs
  have hFirst := exists_first_digit hDigits (digits_ne_nil _) []
  rw [List.append_nil] at hFirst
  have hUnsigned := unsigned?_digits hDigits (digits_ne_nil _)
  rw [naturalOf_digits] at hUnsigned
  have hSigned :=
    ofNumeral?_signed (decide (n < 0)) hFirst hUnsigned
  have hBlank :=
    blank_not_mem_signed (decide (n < 0)) (blank_not_mem_digits hDigits)
  simp only [decide_eq_true_eq, ← integerText_toList] at hSigned hBlank
  refine ⟨⟨_, hSigned, ?_⟩, hBlank⟩
  simp only [toRat, magnitude, zpow_zero, mul_one, decide_eq_true_eq]
  split
  · rename_i hNeg
    rw [Nat.cast_natAbs, abs_of_neg hNeg]
    push_cast
    ring
  · rename_i hNonneg
    rw [Nat.cast_natAbs, abs_of_nonneg (not_lt.mp hNonneg)]

------------------------------------------------------------
-- Fixed Places
------------------------------------------------------------

/- The whole number below a magnitude is less than a unit away. -/
theorem toNat_floor_bounds
    {q : Rat}
    (hNonneg : 0 ≤ q) :
    (q.floor.toNat : Rat) ≤ q ∧ q < q.floor.toNat + 1 := by
  have hFloor : ((q.floor.toNat : Nat) : Rat) = q.floor := by
    exact_mod_cast Int.toNat_of_nonneg (Rat.le_floor_iff.mpr hNonneg)
  rw [hFloor]
  exact ⟨Rat.floor_le q, by exact_mod_cast Rat.lt_floor_add_one q⟩

/- Rounding goes to a whole number half a unit away at most. -/
theorem roundMagnitude_close
    (tie : Tie)
    {q : Rat}
    (hNonneg : 0 ≤ q) :
    |(roundMagnitude tie q : Rat) - q| ≤ 1 / 2 := by
  rcases toNat_floor_bounds hNonneg with ⟨hUnder, hOver⟩
  unfold roundMagnitude
  generalize q.floor.toNat = below at *
  simp only
  rw [abs_le]
  split
  · constructor <;> linarith
  · split
    · push_cast
      constructor <;> linarith
    · have hHalf : q - below = 1 / 2 := by linarith
      cases tie with
      | awayFromZero =>
          push_cast
          constructor <;> linarith
      | toEven =>
          rcases Nat.mod_two_eq_zero_or_one below with hMod | hMod
          · simp only [hMod]
            push_cast
            constructor <;> linarith
          · simp only [hMod]
            push_cast
            constructor <;> linarith

theorem length_padLeft
    (width : Nat)
    (cs : List Char) :
    (padLeft width cs).length = max width cs.length := by
  rw [padLeft, zeros, List.length_append, List.length_replicate]
  omega

/- A count of small units is a numeral with a point. -/
theorem unsigned?_pointed_units
    {places : Nat}
    (hPlaces : places ≠ 0)
    (units : Nat) :
    unsigned? (pointed places units) =
        some (units, -(places : Int)) ∧
      (∃ c rest, pointed places units = c :: rest ∧
        isAsciiDigit c = true) ∧
      ' ' ∉ pointed places units := by
  have hPadded :
      AreDigits (padLeft (places + 1) (digits units)) :=
    (zeros_areDigits _).append (digits_areDigits units)
  have hValue := naturalOf_padLeft (places + 1) units
  have hLength := length_padLeft (places + 1) (digits units)
  simp only [pointed, hPlaces, if_false]
  generalize padLeft (places + 1) (digits units) = ds at *
  have hWhole : AreDigits (ds.take (ds.length - places)) :=
    fun c hMem => hPadded c (List.mem_of_mem_take hMem)
  have hFraction : AreDigits (ds.drop (ds.length - places)) :=
    fun c hMem => hPadded c (List.mem_of_mem_drop hMem)
  have hSome : ds.take (ds.length - places) ≠ [] := by
    intro hNone
    have hShort := congrArg List.length hNone
    rw [List.length_take, List.length_nil] at hShort
    omega
  have hCount : (ds.drop (ds.length - places)).length = places := by
    rw [List.length_drop]
    omega
  refine ⟨?_, exists_first_digit hWhole hSome _, ?_⟩
  · rw [unsigned?_pointed hWhole hFraction hSome, hCount,
      List.take_append_drop, hValue]
  · rw [List.mem_append, List.mem_cons, not_or, not_or]
    exact
      ⟨blank_not_mem_digits hWhole, by decide,
        blank_not_mem_digits hFraction⟩

/- A number with fixed places is a numeral for a count of small units. -/
theorem fixedText_denotes
    (tie : Tie)
    {places : Nat}
    (hPlaces : places ≠ 0)
    (negative : Bool)
    (magnitude : Rat) :
    Denotes (fixedText tie places negative magnitude)
      (Decimal.toRat
        ⟨negative, roundMagnitude tie (magnitude * (10 : Rat) ^ places),
          -(places : Int)⟩) := by
  rcases unsigned?_pointed_units hPlaces
      (roundMagnitude tie (magnitude * (10 : Rat) ^ places)) with
    ⟨hUnsigned, hFirst, hBlank⟩
  exact
    ⟨⟨_, ofNumeral?_signed negative hFirst hUnsigned, rfl⟩,
      blank_not_mem_signed negative hBlank⟩

end Decimal

end Joinery
