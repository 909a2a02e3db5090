import Joinery.Proofs.Decimal.RoundTrip

/-
  The text of a double is a numeral: digits without
  superfluous zeros, and behind them a fraction or an
  exponent. It denotes the shortest decimal of the double,
  and so it reads back as the double.

  Key definitions include:
    * `Decimal.IsPlain`
    * `Decimal.Spelling`
    * `Decimal.SpellsPositional`

  Key theorems include:
    * `Decimal.digits_plain`
    * `Decimal.Spelling.ofNumeral?_text`
    * `Decimal.written_spelled`
    * `Decimal.doubleText_reads`
-/

namespace Joinery

namespace Decimal

------------------------------------------------------------
-- Plain Digits
------------------------------------------------------------

/- Digits that do not start with a zero, except for the zero itself. -/
structure IsPlain
    (cs : List Char) : Prop where
  digits : AreDigits cs
  present : cs ≠ []
  lean : cs.head? = some '0' → cs = ['0']

/- A digit of its own is plain. -/
theorem isPlain_singleton
    {c : Char}
    (hDigit : isAsciiDigit c = true) :
    IsPlain [c] where
  digits other hMem := by
    rw [List.mem_singleton.mp hMem]
    exact hDigit
  present := List.cons_ne_nil _ _
  lean hZero := by
    rw [Option.some.inj hZero]

/- The digits of a number are plain; the first one is not zero. -/
theorem digits_head
    {n : Nat}
    (hPos : 0 < n) :
    (digits n).head? ≠ some '0' := by
  rw [digits_eq]
  induction n using Nat.base_induction 10 (by decide) with
  | single m hm =>
      have hEach : ∀ k < 10, 0 < k → [Nat.digitChar k].head? ≠ some '0' := by
        decide
      rw [Nat.toDigits_of_lt_base hm]
      exact hEach m hm hPos
  | digit m k hk hm ih =>
      rw [← Nat.toDigits_append_toDigits (by decide) hm hk,
        List.head?_append_of_ne_nil _ Nat.toDigits_ne_nil]
      exact ih hm

theorem digits_plain
    (n : Nat) :
    IsPlain (digits n) where
  digits := digits_areDigits n
  present := digits_ne_nil n
  lean hZero := by
    rcases Nat.eq_zero_or_pos n with rfl | hPos
    · rfl
    · exact absurd hZero (digits_head hPos)

/- Plain digits stay plain when more digits follow, unless they are zero. -/
theorem IsPlain.append
    {cs more : List Char}
    (hPlain : IsPlain cs)
    (hSome : cs ≠ ['0'])
    (hMore : AreDigits more) :
    IsPlain (cs ++ more) where
  digits := hPlain.digits.append hMore
  present := List.append_ne_nil_of_left_ne_nil hPlain.present _
  lean hZero := by
    rw [List.head?_append_of_ne_nil _ hPlain.present] at hZero
    exact absurd (hPlain.lean hZero) hSome

/- The first few of plain digits are plain. -/
theorem IsPlain.take
    {cs : List Char}
    (hPlain : IsPlain cs)
    {n : Nat}
    (hSome : 0 < n)
    (hLess : n < cs.length) :
    IsPlain (cs.take n) where
  digits c hMem := hPlain.digits c (List.mem_of_mem_take hMem)
  present := by
    rw [Ne, List.take_eq_nil_iff]
    exact not_or.mpr ⟨hSome.ne', hPlain.present⟩
  lean hFirst := by
    rw [List.head?_take, if_neg hSome.ne'] at hFirst
    rw [hPlain.lean hFirst, List.length_singleton] at hLess
    omega

/- Zeros behind digits are powers of ten. -/
theorem naturalOf_append_zeros
    {ds : List Char}
    (hDigits : AreDigits ds)
    (n : Nat) :
    naturalOf (ds ++ zeros n) = naturalOf ds * 10 ^ n := by
  rw [naturalOf_eq (hDigits.append (zeros_areDigits n)),
    naturalOf_eq hDigits, zeros, Nat.ofDigitChars_append,
    Nat.ofDigitChars_replicate_zero, mul_comm]

/- Zeros before digits are nothing. -/
theorem naturalOf_zeros_append
    {ds : List Char}
    (hDigits : AreDigits ds)
    (n : Nat) :
    naturalOf (zeros n ++ ds) = naturalOf ds := by
  rw [naturalOf_eq ((zeros_areDigits n).append hDigits),
    naturalOf_eq hDigits, zeros, Nat.ofDigitChars_append,
    Nat.ofDigitChars_replicate_zero, mul_zero]

------------------------------------------------------------
-- Spellings
------------------------------------------------------------

/- Characters with a minus sign before them, if it is asked for. -/
def withSign
    (negative : Bool)
    (cs : List Char) : List Char :=
  if negative then '-' :: cs else cs

/- What follows the digits: nothing, or an exponent with its sign. -/
inductive IsTail : List Char → Int → Prop where
  | none :
      IsTail [] 0
  | power
      {ds : List Char}
      (negative : Bool)
      (hDigits : AreDigits ds)
      (hSome : ds ≠ []) :
      IsTail
        ('e' :: (if negative then '-' else '+') :: ds)
        (if negative then -naturalOf ds else naturalOf ds)

/- The parts of a numeral, without a sign. -/
structure Spelling where
  whole : List Char
  fraction : List Char
  tail : List Char
  power : Int
  plain : IsPlain whole
  digits : AreDigits fraction
  tailed : IsTail tail power

namespace Spelling

/- The numeral; a fraction without digits has no point. -/
def text
    (s : Spelling) : List Char :=
  s.whole ++
    ((if s.fraction = [] then [] else '.' :: s.fraction) ++ s.tail)

/- The decimal that the numeral denotes, with a sign. -/
def decimal
    (s : Spelling)
    (negative : Bool) : Decimal :=
  { negative := negative
    coefficient := naturalOf (s.whole ++ s.fraction)
    exponent := s.power - s.fraction.length }

/- Something follows the whole part, so this is no integer. -/
def IsPointed
    (s : Spelling) : Prop :=
  s.fraction ≠ [] ∨ s.tail ≠ []

end Spelling

/- An exponent is read. -/
theorem IsTail.read
    {tail : List Char}
    {power : Int}
    (hTail : IsTail tail power) :
    exponentOf? tail = some power := by
  cases hTail with
  | none => rfl
  | power negative hDigits hSome =>
      have hAll := List.all_eq_true.mpr hDigits
      cases negative <;>
        simp [exponentOf?, splitSign, hSome, hAll]

/- An exponent starts with no digit, and with no point. -/
theorem IsTail.stops
    {tail : List Char}
    {power : Int}
    (hTail : IsTail tail power)
    {c : Char}
    {rest : List Char}
    (hFirst : tail = c :: rest) :
    isAsciiDigit c = false ∧ c ≠ '.' := by
  cases hTail with
  | none => cases hFirst
  | power negative hDigits hSome =>
      cases hFirst
      exact ⟨rfl, by decide⟩

/- Digits with an exponent are read. -/
theorem unsigned?_tail
    {ds tail : List Char}
    {power : Int}
    (hDigits : AreDigits ds)
    (hSome : ds ≠ [])
    (hTail : IsTail tail power) :
    unsigned? (ds ++ tail) = some (naturalOf ds, power) := by
  have hRead := hTail.read
  rcases Text.span_of_stops hDigits (fun c others hFirst =>
      (hTail.stops hFirst).1) with ⟨hTake, hDrop⟩
  cases hTail with
  | none =>
      rw [List.append_nil]
      exact unsigned?_digits hDigits hSome
  | power negative hPower hPresent =>
      rw [unsigned?]
      simp only [hTake, hDrop]
      simp [hSome]
      exact hRead

/- So are digits around a point with an exponent. -/
theorem unsigned?_pointed_tail
    {whole fraction tail : List Char}
    {power : Int}
    (hWhole : AreDigits whole)
    (hSome : whole ≠ [])
    (hFraction : AreDigits fraction)
    (hTail : IsTail tail power) :
    unsigned? (whole ++ '.' :: (fraction ++ tail)) =
      some (naturalOf (whole ++ fraction), power - fraction.length) := by
  have hPoint :
      ∀ c others, '.' :: (fraction ++ tail) = c :: others →
        isAsciiDigit c = false := by
    intro c others hFirst
    cases hFirst
    rfl
  rcases Text.span_of_stops hWhole hPoint with ⟨hTake, hDrop⟩
  rcases Text.span_of_stops hFraction (fun c others hFirst =>
      (hTail.stops hFirst).1) with ⟨hTakeRest, hDropRest⟩
  rw [unsigned?]
  simp only [hTake, hDrop, hTakeRest, hDropRest, hTail.read]
  rw [if_neg (List.append_ne_nil_of_left_ne_nil hSome _)]
  rfl

namespace Spelling

/- A spelled numeral is read as what it denotes. -/
theorem ofNumeral?_text
    (s : Spelling)
    (negative : Bool) :
    ofNumeral? (withSign negative s.text) =
      some (s.decimal negative) := by
  have hSome := s.plain.present
  have hUnsigned :
      unsigned? s.text =
        some ((s.decimal negative).coefficient,
          (s.decimal negative).exponent) := by
    rw [text]
    by_cases hWhole : s.fraction = []
    · rw [if_pos hWhole, List.nil_append,
        unsigned?_tail s.plain.digits hSome s.tailed]
      simp [decimal, hWhole]
    · rw [if_neg hWhole, List.cons_append,
        unsigned?_pointed_tail s.plain.digits hSome s.digits s.tailed]
      rfl
  exact ofNumeral?_signed negative
    (exists_first_digit s.plain.digits hSome _) hUnsigned

end Spelling

------------------------------------------------------------
-- Text Of Decimals
------------------------------------------------------------

/-
  A text spells digits with a point behind some of them, and
  shows the point.
-/
def SpellsPositional
    (cs ds : List Char)
    (point : Int) : Prop :=
  ∃ s : Spelling, cs = s.text ∧ s.IsPointed ∧
    ∀ negative, (s.decimal negative).magnitude =
      naturalOf ds * (10 : Rat) ^ (point - ds.length)

section Positional

variable {ds : List Char}
variable {point : Int}

/- Digits behind the point follow a zero, and zeros behind the point. -/
theorem positional_behind
    (hPlain : IsPlain ds)
    (hSmall : point ≤ 0) :
    SpellsPositional (positional ds point) ds point := by
  have hFraction := (zeros_areDigits (-point).toNat).append hPlain.digits
  have hSome : zeros (-point).toNat ++ ds ≠ [] :=
    List.append_ne_nil_of_right_ne_nil _ hPlain.present
  refine ⟨⟨['0'], _, [], 0, isPlain_singleton rfl, hFraction, .none⟩,
    ?_, Or.inl hSome, fun negative => ?_⟩
  · rw [positional, if_pos hSmall, Spelling.text, if_neg hSome]
    simp
  · have hLength :
        (0 : Int) - (zeros (-point).toNat ++ ds).length =
          point - ds.length := by
      rw [zeros, List.length_append, List.length_replicate]
      omega
    have hValue :
        naturalOf (['0'] ++ (zeros (-point).toNat ++ ds)) =
          naturalOf ds := by
      rw [← naturalOf_zeros_append hPlain.digits (1 + (-point).toNat)]
      congr 1
      simp [zeros, List.replicate_add]
    rw [magnitude, Spelling.decimal, hValue, hLength]

/- Digits before the point are filled up with zeros. -/
theorem positional_before
    (hPlain : IsPlain ds)
    (hZero : ds = ['0'] → point = 1)
    (hLarge : ¬ point ≤ 0)
    (hLong : ds.length ≤ point.toNat) :
    SpellsPositional (positional ds point) ds point := by
  have hWhole : IsPlain (ds ++ zeros (point.toNat - ds.length)) := by
    by_cases hNone : ds = ['0']
    · have hOne := hZero hNone
      subst hNone hOne
      exact hPlain
    · exact hPlain.append hNone (zeros_areDigits _)
  refine ⟨⟨_, ['0'], [], 0, hWhole, zeros_areDigits 1, .none⟩, ?_,
    Or.inl (List.cons_ne_nil _ _), fun negative => ?_⟩
  · rw [positional, if_neg hLarge, if_pos hLong, Spelling.text]
    simp
  · have hValue :
        naturalOf (ds ++ zeros (point.toNat - ds.length) ++ ['0']) =
          naturalOf ds * 10 ^ (point.toNat - ds.length + 1) := by
      rw [← naturalOf_append_zeros hPlain.digits]
      congr 1
      simp [zeros, List.replicate_add]
    have hPower :
        point - ds.length =
          ((point.toNat - ds.length + 1 : Nat) : Int) - 1 := by
      omega
    have hOne : (0 : Int) - ['0'].length = -1 := rfl
    rw [magnitude, Spelling.decimal, hValue, hPower, hOne,
      sub_eq_add_neg, zpow_add₀ (by norm_num), zpow_natCast]
    push_cast
    ring

/- Digits on both sides of the point stay as they are. -/
theorem positional_around
    (hPlain : IsPlain ds)
    (hLarge : ¬ point ≤ 0)
    (hShort : ¬ ds.length ≤ point.toNat) :
    SpellsPositional (positional ds point) ds point := by
  have hWhole : IsPlain (ds.take point.toNat) :=
    hPlain.take (by omega) (not_le.mp hShort)
  have hFraction : AreDigits (ds.drop point.toNat) :=
    fun c hMem => hPlain.digits c (List.mem_of_mem_drop hMem)
  have hSome : ds.drop point.toNat ≠ [] := by
    rw [Ne, List.drop_eq_nil_iff]
    exact hShort
  refine ⟨⟨_, _, [], 0, hWhole, hFraction, .none⟩, ?_, Or.inl hSome,
    fun negative => ?_⟩
  · rw [positional, if_neg hLarge, if_neg hShort, Spelling.text,
      if_neg hSome]
    simp
  · have hPower :
        (0 : Int) - (ds.drop point.toNat).length = point - ds.length := by
      rw [List.length_drop]
      omega
    rw [magnitude, Spelling.decimal, List.take_append_drop, hPower]

/- Wherever the point is, it is spelled so, with the value of the digits. -/
theorem positional_spelled
    (hPlain : IsPlain ds)
    (hZero : ds = ['0'] → point = 1) :
    SpellsPositional (positional ds point) ds point := by
  by_cases hSmall : point ≤ 0
  · exact positional_behind hPlain hSmall
  · by_cases hLong : ds.length ≤ point.toNat
    · exact positional_before hPlain hZero hSmall hLong
    · exact positional_around hPlain hSmall hLong

end Positional

/- The text of an exponent is the tail of a numeral. -/
theorem exponentText_isTail
    (style : Style)
    (e : Int) :
    IsTail ('e' :: exponentText style e) e := by
  have hDigits : AreDigits (padLeft style.exponentWidth (digits e.natAbs)) :=
    (zeros_areDigits _).append (digits_areDigits _)
  have hSome : padLeft style.exponentWidth (digits e.natAbs) ≠ [] :=
    List.append_ne_nil_of_right_ne_nil _ (digits_ne_nil _)
  have hTail := IsTail.power (decide (e < 0)) hDigits hSome
  rw [naturalOf_padLeft] at hTail
  have hValue :
      (if decide (e < 0) = true then -(e.natAbs : Int) else e.natAbs) =
        e := by
    split
    · rename_i hNeg
      have := of_decide_eq_true hNeg
      omega
    · rename_i hNonneg
      have := of_decide_eq_false (Bool.eq_false_iff.mpr hNonneg)
      omega
  rw [hValue] at hTail
  simpa only [exponentText, decide_eq_true_eq] using hTail

/- A number with an exponent is spelled so, with the value of its digits. -/
theorem scientific_spelled
    (style : Style)
    {ds : List Char}
    (hDigits : AreDigits ds)
    (hSome : ds ≠ [])
    (e : Int) :
    ∃ s : Spelling, scientific style ds e = s.text ∧ s.IsPointed ∧
      ∀ negative, (s.decimal negative).magnitude =
        naturalOf ds * (10 : Rat) ^ (e + 1 - ds.length) := by
  rcases ds with _ | ⟨d, rest⟩
  · exact absurd rfl hSome
  · have hFirst := isPlain_singleton (hDigits d (List.mem_cons_self ..))
    have hRest : AreDigits rest := fun c hMem =>
      hDigits c (List.mem_cons_of_mem _ hMem)
    refine ⟨⟨[d], rest, _, e, hFirst, hRest, exponentText_isTail style e⟩,
      ?_, Or.inr (List.cons_ne_nil _ _), fun negative => ?_⟩
    · rcases rest with _ | ⟨c, others⟩
      · rfl
      · rfl
    · have hPower :
          e - rest.length = e + 1 - (d :: rest).length := by
        rw [List.length_cons]
        omega
      rw [magnitude, Spelling.decimal, hPower]
      rfl

/- The text of a decimal is a numeral for it. -/
theorem written_spelled
    (style : Style)
    (d : Decimal) :
    ∃ s : Spelling,
      written style d =
          withSign d.negative s.text ∧
        s.IsPointed ∧
        (s.decimal d.negative).magnitude = d.magnitude := by
  have hPlain := digits_plain d.coefficient
  unfold written
  extract_lets ds leading body
  have hValue :
      (naturalOf ds : Rat) * 10 ^ (leading + 1 - ds.length) =
        d.magnitude := by
    rw [naturalOf_digits, magnitude]
    by_cases hZero : d.coefficient = 0
    · rw [hZero, Nat.cast_zero, zero_mul, zero_mul]
    · have hLeading : leading = d.exponent + ds.length - 1 := if_neg hZero
      congr 2
      omega
  have hBody :
      ∃ s : Spelling, body = s.text ∧ s.IsPointed ∧
        ∀ negative, (s.decimal negative).magnitude =
          naturalOf ds * (10 : Rat) ^ (leading + 1 - ds.length) := by
    by_cases hPositional :
        style.leastPositional ≤ leading ∧ leading ≤ style.mostPositional
    · have hOne : ds = ['0'] → leading + 1 = 1 := by
        intro hDigits
        have hZero : d.coefficient = 0 := by
          rw [← naturalOf_digits d.coefficient]
          change naturalOf ds = 0
          rw [hDigits]
          rfl
        have hLeading : leading = 0 := if_pos hZero
        omega
      rw [show body = positional ds (leading + 1) from if_pos hPositional]
      exact positional_spelled hPlain hOne
    · rw [show body = scientific style ds leading from if_neg hPositional]
      exact scientific_spelled style hPlain.digits hPlain.present leading
  rcases hBody with ⟨s, hText, hPointed, hSize⟩
  rw [hText]
  exact ⟨s, rfl, hPointed, (hSize d.negative).trans hValue⟩

------------------------------------------------------------
-- Text Of Doubles
------------------------------------------------------------

/- The text of a finite double is that of its shortest decimal. -/
theorem doubleText_spelled
    {x : Float}
    {d : Decimal}
    (hShortest : shortest? x = some d) :
    ∃ s : Spelling,
      (doubleText x).toList =
          withSign d.negative s.text ∧
        s.IsPointed ∧
        (s.decimal d.negative).magnitude = d.magnitude := by
  rcases exists_of_shortest? hShortest with ⟨negative, m, e, hFloat, rfl⟩
  unfold doubleText
  rw [hFloat]
  simp only [String.toList_ofList]
  exact written_spelled _ _

/- The text of a finite double reads back as the double. -/
theorem doubleText_reads
    {x : Float}
    {d : Decimal}
    (hShortest : shortest? x = some d) :
    ∃ e, ofNumeral? (doubleText x).toList = some e ∧
      e.negative = d.negative ∧
      e.magnitude = d.magnitude ∧
      toDouble e = x := by
  rcases doubleText_spelled hShortest with ⟨s, hText, -, hSize⟩
  refine ⟨s.decimal d.negative, ?_, rfl, hSize,
    toDouble_shortest hShortest rfl hSize⟩
  rw [hText]
  exact s.ofNumeral?_text d.negative

end Decimal

end Joinery
