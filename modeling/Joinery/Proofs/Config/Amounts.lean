import Joinery.Proofs.Config.Spelling
import Joinery.Proofs.Decimal.Range

/-
  What an amount in text denotes. Where only a sign and
  digits are written, it is the integer that they denote, and
  otherwise the double that the decimal rounds to. Digits
  count by their value, whatever script they belong to.

  An integer is read only if it has not too many digits. If
  it has, zeros in front included, it is not read at all.

  Key definitions include:
    * `AmountSpelling.IsWhole`
    * `AmountSpelling.decimal`
    * `AmountSpelling.integer`
    * `AmountSpelling.IsInRange`
    * `AmountSpelling.IsOverlong`
    * `AmountSpelling.Denotes`

  Key theorems include:
    * `AmountSpelling.ofNumeral?_chars`
    * `AmountSpelling.readDouble?_chars`
    * `AmountSpelling.value_of_double`
    * `AmountSpelling.value_of_integer`
    * `AmountSpelling.denotes_value`
-/

namespace Joinery

open Decimal

------------------------------------------------------------
-- What Is Denoted
------------------------------------------------------------

/- The power of ten that an exponent stands for. -/
def ExponentSpelling.power
    (e : ExponentSpelling) : Int :=
  if e.mark = .minus then -(naturalOf e.ds : Int) else naturalOf e.ds

namespace AmountSpelling

/- The digits behind the point. -/
def places
    (a : AmountSpelling) : List Char :=
  a.fraction.getD []

/- The decimal that an amount denotes. -/
def decimal
    (a : AmountSpelling) : Decimal :=
  { negative := decide (a.mark = .minus)
    coefficient := naturalOf (a.whole ++ a.places)
    exponent :=
      (a.exponent.map ExponentSpelling.power).getD 0 - a.places.length }

/- Only a sign and digits are written. -/
def IsWhole
    (a : AmountSpelling) : Prop :=
  a.fraction = none ∧ a.exponent = none

/- The integer that a sign and digits denote. -/
def integer
    (a : AmountSpelling) : Int :=
  if a.mark = .minus then -(naturalOf a.whole : Int)
  else naturalOf a.whole

/- The value lies in the range of doubles. -/
def IsInRange
    (a : AmountSpelling) : Prop :=
  a.decimal.magnitude < Double.rangeEnd

/- How many digits an amount has, those of the exponent included. -/
def digitCount
    (a : AmountSpelling) : Nat :=
  a.whole.length + a.places.length +
    (a.exponent.map fun e => e.ds.length).getD 0

/- An integer in the range of doubles with more digits than are read. -/
structure IsOverlong
    (a : AmountSpelling) : Prop where
  whole : a.IsWhole
  range : a.IsInRange
  long : digitLimit < a.whole.length

/-
  The value that an amount denotes: the integer, or the
  double that its characters are read as, which is the one
  that the decimal rounds to.
-/
inductive Denotes
    (a : AmountSpelling) : Value → Prop where
  | integer
      (hWhole : a.IsWhole) :
      a.Denotes (.int a.integer)
  | double
      {x : Float}
      {m : Nat}
      {e : Int}
      (hPart : ¬ a.IsWhole)
      (hRead : readDouble? a.chars = some x)
      (hRounds : Double.RoundsTo a.decimal.magnitude m e)
      (hParts : x = Double.ofSigned a.decimal.negative m e) :
      a.Denotes (.float x)

------------------------------------------------------------
-- Digits Of The Alphabet
------------------------------------------------------------

/- An amount with the digits of the alphabet only. -/
structure IsAscii
    (a : AmountSpelling) : Prop where
  whole : AreDigits a.whole
  places : AreDigits a.places
  power : ∀ e, a.exponent = some e → AreDigits e.ds

end AmountSpelling

/- The same exponent with the digits of the alphabet. -/
def ExponentSpelling.ascii
    (e : ExponentSpelling) : ExponentSpelling where
  capital := e.capital
  mark := e.mark
  ds := e.ds.map asciiForm
  figures := e.figures.ascii.areFigures
  present := mt List.map_eq_nil_iff.mp e.present

namespace AmountSpelling

theorem places_ascii
    (fraction : Option (List Char)) :
    (fraction.map (List.map asciiForm)).getD [] =
      (fraction.getD []).map asciiForm := by
  cases fraction <;> rfl

/- The same amount with the digits of the alphabet. -/
def ascii
    (a : AmountSpelling) : AmountSpelling where
  mark := a.mark
  whole := a.whole.map asciiForm
  fraction := a.fraction.map (List.map asciiForm)
  exponent := a.exponent.map ExponentSpelling.ascii
  wholeFigures := a.wholeFigures.ascii.areFigures
  fractionFigures := by
    rw [places_ascii]
    exact a.fractionFigures.ascii.areFigures
  present := by
    rw [places_ascii, ← List.map_append]
    exact mt List.map_eq_nil_iff.mp a.present

variable (a : AmountSpelling)

theorem isAscii_ascii :
    a.ascii.IsAscii where
  whole := a.wholeFigures.ascii
  places := by
    change AreDigits ((a.fraction.map (List.map asciiForm)).getD [])
    rw [places_ascii]
    exact a.fractionFigures.ascii
  power e hExponent := by
    rcases Option.map_eq_some_iff.mp hExponent with ⟨f, -, rfl⟩
    exact f.figures.ascii

/- Its characters are the forms of the characters in the alphabet. -/
theorem chars_ascii :
    a.ascii.chars = a.chars.map asciiForm := by
  have hMark :
      ∀ mark : Mark, mark.chars.map asciiForm = mark.chars := by
    intro mark
    cases mark <;> rfl
  have hFraction :
      fractionChars a.ascii.fraction =
        (fractionChars a.fraction).map asciiForm := by
    change fractionChars (a.fraction.map (List.map asciiForm)) = _
    cases a.fraction with
    | none => rfl
    | some ds => rfl
  have hExponent :
      exponentChars a.ascii.exponent =
        (exponentChars a.exponent).map asciiForm := by
    change exponentChars (a.exponent.map ExponentSpelling.ascii) = _
    cases a.exponent with
    | none => rfl
    | some e =>
        have hLetter : asciiForm e.letter = e.letter := by
          rw [ExponentSpelling.letter]
          cases e.capital <;> rfl
        simp only [Option.map_some, exponentChars, List.map_cons,
          List.map_append, hMark, hLetter]
        rfl
  rw [chars, chars, hFraction, hExponent, List.map_append, List.map_append,
    List.map_append, hMark]
  rfl

/- It denotes the same decimal. -/
theorem decimal_ascii :
    a.ascii.decimal = a.decimal := by
  have hPlaces : a.ascii.places = a.places.map asciiForm :=
    places_ascii a.fraction
  have hWhole : a.ascii.whole = a.whole.map asciiForm := rfl
  have hPower :
      (a.ascii.exponent.map ExponentSpelling.power).getD 0 =
        (a.exponent.map ExponentSpelling.power).getD 0 := by
    change
      ((a.exponent.map ExponentSpelling.ascii).map
        ExponentSpelling.power).getD 0 = _
    cases a.exponent with
    | none => rfl
    | some e =>
        simp only [Option.map_some, Option.getD_some,
          ExponentSpelling.power, ExponentSpelling.ascii,
          naturalOf_asciiForm e.figures]
  have hFigures : AreFigures (a.whole ++ a.places) :=
    a.wholeFigures.append a.fractionFigures
  rw [decimal, decimal, hPlaces, hWhole, hPower, ← List.map_append,
    naturalOf_asciiForm hFigures, List.length_map]
  rfl

------------------------------------------------------------
-- Reading Numerals
------------------------------------------------------------

/- A sign is split off where no other sign follows it. -/
theorem splitSign_chars
    (mark : Mark)
    {rest : List Char}
    (hStops : ∀ c others, rest = c :: others → c ≠ '-' ∧ c ≠ '+') :
    splitSign (mark.chars ++ rest) = (decide (mark = .minus), rest) := by
  cases mark with
  | plus => rfl
  | minus => rfl
  | none =>
      rw [Mark.chars, List.nil_append]
      unfold splitSign
      split
      · exact absurd rfl (hStops _ _ rfl).1
      · exact absurd rfl (hStops _ _ rfl).2
      · rfl

/- Digits of a script are not taken for a sign. -/
theorem figures_stop
    {ds : List Char}
    (hFigures : AreFigures ds)
    (c : Char)
    (others : List Char)
    (hFirst : ds = c :: others) :
    c ≠ '-' ∧ c ≠ '+' :=
  QuantityText.not_mark_of_starts
    (Or.inl (hFigures c (hFirst ▸ List.mem_cons_self ..)))

/- What follows the sign of an amount is no sign. -/
theorem unsigned_stops
    (c : Char)
    (others : List Char)
    (hFirst :
      a.whole ++ (fractionChars a.fraction ++ exponentChars a.exponent) =
        c :: others) :
    c ≠ '-' ∧ c ≠ '+' := by
  rcases a.starts (exponentChars a.exponent) with
    ⟨d, rest, hStart, hClass⟩
  rw [hStart] at hFirst
  cases hFirst
  exact QuantityText.not_mark_of_starts hClass

variable {a}

/- An exponent is read as its power of ten. -/
theorem exponentOf?_chars
    (hAscii : a.IsAscii) :
    exponentOf? (exponentChars a.exponent) =
      some ((a.exponent.map ExponentSpelling.power).getD 0) := by
  cases hExponent : a.exponent with
  | none => rfl
  | some e =>
      have hDigits := List.all_eq_true.mpr (hAscii.power e hExponent)
      have hSign := splitSign_chars e.mark (figures_stop e.figures)
      have hLetter : e.letter = 'e' ∨ e.letter = 'E' := by
        rw [ExponentSpelling.letter]
        cases e.capital
        · exact Or.inl rfl
        · exact Or.inr rfl
      simp only [exponentChars, exponentOf?, hSign, hLetter, hDigits,
        e.present, ne_eq, not_false_eq_true, and_self, if_true,
        decide_eq_true_eq, Option.map_some, Option.getD_some,
        ExponentSpelling.power]

/- An exponent begins with no digit. -/
theorem exponentChars_stops
    (exponent : Option ExponentSpelling)
    (c : Char)
    (others : List Char)
    (hFirst : exponentChars exponent = c :: others) :
    isAsciiDigit c = false ∧ c ≠ '.' := by
  cases exponent with
  | none => cases hFirst
  | some e =>
      cases hFirst
      rw [ExponentSpelling.letter]
      cases e.capital
      · exact ⟨by decide, by decide⟩
      · exact ⟨by decide, by decide⟩

/- Without its sign, an amount is read as its digits and its exponent. -/
theorem unsigned?_chars
    (hAscii : a.IsAscii) :
    unsigned?
        (a.whole ++
          (fractionChars a.fraction ++ exponentChars a.exponent)) =
      some (a.decimal.coefficient, a.decimal.exponent) := by
  have hPlaces := hAscii.places
  have hPresent := a.present
  have hPower := exponentOf?_chars hAscii
  have hStops :=
    fun c others hFirst =>
      (exponentChars_stops a.exponent c others hFirst).1
  unfold unsigned? decimal
  rw [places] at hPlaces ⊢
  cases hPoint : a.fraction with
  | none =>
      rcases Text.span_of_stops hAscii.whole hStops with ⟨hTake, hDrop⟩
      rw [hPoint] at hPresent
      simp only [Option.getD_none, List.append_nil] at hPresent
      simp only [fractionChars, List.nil_append, hTake, hDrop]
      cases hChars : exponentChars a.exponent with
      | nil =>
          rw [hChars] at hPower
          simp [hPresent, hPower]
      | cons c others =>
          have hOther := (exponentChars_stops a.exponent c others hChars).2
          rw [hChars] at hPower
          split
          · rename_i hPointed
            exact absurd (List.cons.inj hPointed).1 hOther
          · simp [hPresent, hPower]
  | some ds =>
      rw [hPoint] at hPlaces hPresent
      simp only [Option.getD_some] at hPlaces hPresent
      have hBreak :
          ∀ c others, '.' :: (ds ++ exponentChars a.exponent) = c :: others →
            isAsciiDigit c = false := by
        intro c others hFirst
        cases hFirst
        rfl
      rcases Text.span_of_stops hAscii.whole hBreak with ⟨hTake, hDrop⟩
      rcases Text.span_of_stops hPlaces hStops with ⟨hTakeRest, hDropRest⟩
      simp only [fractionChars, List.cons_append, hTake, hDrop, hTakeRest,
        hDropRest, hPower, if_neg hPresent, Option.map_some,
        Option.getD_some]

/- An amount is a numeral for the decimal that it denotes. -/
theorem ofNumeral?_chars
    (hAscii : a.IsAscii) :
    ofNumeral? a.chars = some a.decimal := by
  have hSign := splitSign_chars a.mark (a.unsigned_stops)
  rw [ofNumeral?, chars, hSign]
  dsimp only
  rw [unsigned?_chars hAscii]
  rfl

end AmountSpelling

------------------------------------------------------------
-- Reading Doubles
------------------------------------------------------------

/- Where nothing is to be dropped, nothing is stripped. -/
theorem Text.strip_of_none
    {drop : Char → Bool}
    {cs : List Char}
    (hNone : ∀ c ∈ cs, drop c = false) :
    strip drop cs = cs := by
  have hKept :
      ∀ ds : List Char, (∀ c ∈ ds, drop c = false) →
        ds.dropWhile drop = ds := by
    intro ds hOther
    have hStops :
        ∀ c others, ds = c :: others → drop c = false := by
      rintro c others rfl
      exact hOther c (List.mem_cons_self ..)
    exact (Text.span_of_stops (List.forall_mem_nil _) hStops).2
  have hReverse : ∀ c ∈ cs.reverse, drop c = false :=
    fun c hMem => hNone c (List.mem_reverse.mp hMem)
  rw [strip, hKept cs hNone, hKept cs.reverse hReverse,
    List.reverse_reverse]

/- Where no underscore is, none is dropped. -/
theorem Decimal.dropUnderscores?_of_none
    {cs : List Char}
    (hNone : '_' ∉ cs) :
    dropUnderscores? cs = some cs := by
  fun_induction dropUnderscores? cs with
  | case1 => rfl
  | case2 c d rest hDigits ih => simp at hNone
  | case3 c d rest hDigits => simp at hNone
  | case4 rest hOther => simp at hNone
  | case5 c rest hOther hPlain ih =>
      rw [ih fun hMem => hNone (List.mem_cons_of_mem _ hMem)]
      rfl

namespace AmountSpelling

variable (a : AmountSpelling)

/- An amount is read as the double for the decimal that it denotes. -/
theorem readDouble?_chars :
    readDouble? a.chars = some (toDouble a.decimal) := by
  have hBlank :
      ∀ c ∈ a.ascii.chars, Text.isNumeralBlank c = false := by
    intro c hMem
    rw [Text.isNumeralBlank, a.ascii.not_blank hMem, Bool.false_and]
  have hPlain : '_' ∉ a.ascii.chars := by
    intro hMem
    exact absurd (a.ascii.mem_cases hMem) (by decide)
  have hNumeral := ofNumeral?_chars a.isAscii_ascii
  rw [readDouble?, ← a.chars_ascii, Text.strip_of_none hBlank,
    dropUnderscores?_of_none hPlain]
  dsimp only [Option.bind_eq_bind, Option.bind_some]
  rw [hNumeral, a.decimal_ascii]

/- It is read as a finite one exactly if it is in range. -/
theorem isFinite_iff :
    isFinite (toDouble a.decimal) = true ↔ a.IsInRange :=
  isFinite_toDouble_iff a.decimal

------------------------------------------------------------
-- Reading Integers
------------------------------------------------------------

/- Behind its sign, an amount has its digits and its exponent. -/
theorem takeSign_chars :
    QuantityText.takeSign a.chars =
      (a.mark.chars,
        a.whole ++
          (fractionChars a.fraction ++ exponentChars a.exponent)) :=
  QuantityText.takeSign_chars a.mark a.unsigned_stops

/- It is read as an integer exactly if only a sign and digits are written. -/
theorem isInteger_iff
    (letters : List Char) :
    QuantityText.isInteger ⟨a.chars, letters⟩ = true ↔ a.IsWhole := by
  rw [QuantityText.isInteger, a.takeSign_chars]
  dsimp only
  rw [List.all_append, List.all_append,
    List.all_eq_true.mpr a.wholeFigures, Bool.true_and,
    Bool.and_eq_true, IsWhole]
  refine and_congr ?_ ?_
  · cases a.fraction with
    | none => exact iff_of_true rfl rfl
    | some ds => exact iff_of_false Bool.false_ne_true nofun
  · cases a.exponent with
    | none => exact iff_of_true rfl rfl
    | some e =>
        refine iff_of_false (fun hAll => ?_) nofun
        have hLetter := (Bool.and_eq_true_iff.mp hAll).1
        rw [ExponentSpelling.letter] at hLetter
        cases hCapital : e.capital <;> rw [hCapital] at hLetter <;>
          exact absurd hLetter (by decide)

variable {a}

/- Then it is read as the integer that it denotes, if it is not too long. -/
theorem readInteger_chars
    (hWhole : a.IsWhole) :
    Number.readInteger a.chars =
      if digitLimit < a.whole.length then
        .error (.numeralTooLong a.whole.length)
      else .ok a.integer := by
  have hSign := splitSign_chars a.mark (figures_stop a.wholeFigures)
  rw [Number.readInteger, chars, hWhole.1, hWhole.2]
  simp only [fractionChars, exponentChars, List.append_nil, hSign,
    decide_eq_true_eq]
  rfl

------------------------------------------------------------
-- The Value
------------------------------------------------------------

/- What is not an integer in range has a double as its value. -/
theorem value_of_double
    (hOther : ¬ (a.IsWhole ∧ a.IsInRange))
    (letters : List Char) :
    QuantityText.value ⟨a.chars, letters⟩ =
      .ok (.float (toDouble a.decimal)) := by
  have hInteger :
      ¬ (QuantityText.isInteger ⟨a.chars, letters⟩ &&
          isFinite (toDouble a.decimal)) = true := by
    rw [Bool.and_eq_true, a.isInteger_iff, a.isFinite_iff]
    exact hOther
  rw [QuantityText.value, a.readDouble?_chars]
  dsimp only
  rw [if_neg hInteger]

/- An integer in range is read as one. -/
theorem value_of_integer
    (hWhole : a.IsWhole)
    (hRange : a.IsInRange)
    (letters : List Char) :
    QuantityText.value ⟨a.chars, letters⟩ =
      if digitLimit < a.whole.length then
        .error (.numeralTooLong a.whole.length)
      else .ok (.int a.integer) := by
  have hInteger :
      (QuantityText.isInteger ⟨a.chars, letters⟩ &&
          isFinite (toDouble a.decimal)) = true := by
    rw [Bool.and_eq_true, a.isInteger_iff, a.isFinite_iff]
    exact ⟨hWhole, hRange⟩
  rw [QuantityText.value, a.readDouble?_chars]
  dsimp only
  rw [if_pos hInteger, readInteger_chars hWhole]
  split <;> rfl

/- If it is too long, it is not read at all. -/
theorem value_of_overlong
    (hLong : a.IsOverlong)
    (letters : List Char) :
    QuantityText.value ⟨a.chars, letters⟩ =
      .error (.numeralTooLong a.whole.length) := by
  rw [value_of_integer hLong.whole hLong.range, if_pos hLong.long]

/- Any other amount has a value. -/
theorem exists_value
    (hShort : ¬ a.IsOverlong)
    (letters : List Char) :
    ∃ v, QuantityText.value ⟨a.chars, letters⟩ = .ok v := by
  by_cases hInteger : a.IsWhole ∧ a.IsInRange
  · have hFits : ¬ digitLimit < a.whole.length :=
      fun hLong => hShort ⟨hInteger.1, hInteger.2, hLong⟩
    rw [value_of_integer hInteger.1 hInteger.2, if_neg hFits]
    exact ⟨_, rfl⟩
  · rw [value_of_double hInteger]
    exact ⟨_, rfl⟩

/- A short amount in range has the value that it denotes. -/
theorem denotes_value
    (hShort : a.whole.length ≤ digitLimit)
    (hRange : a.IsInRange)
    (letters : List Char) :
    ∃ v, QuantityText.value ⟨a.chars, letters⟩ = .ok v ∧ a.Denotes v := by
  by_cases hWhole : a.IsWhole
  · rw [value_of_integer hWhole hRange, if_neg (not_lt.mpr hShort)]
    exact ⟨_, rfl, .integer hWhole⟩
  · rcases toDouble_rounds hRange with ⟨m, e, hRounds, -, hParts⟩
    rw [value_of_double fun hOther => hWhole hOther.1]
    exact ⟨_, rfl, .double hWhole a.readDouble?_chars hRounds hParts⟩

end AmountSpelling

end Joinery
