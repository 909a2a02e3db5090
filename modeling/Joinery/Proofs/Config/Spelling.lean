import Joinery.Config.Quantity
import Joinery.Proofs.Decimal.Scripts

/-
  The grammar of a quantity in text: blanks, an amount,
  blanks, letters, and blanks. An amount is digits around a
  point that may be missing, with a sign before them or not,
  and an exponent behind them or not.

  A text is split exactly if it is spelled so, and it is
  spelled so in one way only. The letter of an exponent could
  begin the unit as well, but digits follow it.

  Key definitions include:
    * `Mark`
    * `ExponentSpelling`
    * `AmountSpelling`
    * `QuantitySpelling`

  Key theorems include:
    * `QuantityText.split?_chars`
    * `QuantityText.exists_of_split?`
    * `QuantitySpelling.chars_injective`
-/

namespace Joinery

open Decimal (AreFigures)

------------------------------------------------------------
-- The Grammar
------------------------------------------------------------

/- A sign before digits, or none. -/
inductive Mark where
  | none
  | plus
  | minus
  deriving DecidableEq

/- The characters of a sign. -/
def Mark.chars : Mark → List Char
  | none => []
  | plus => ['+']
  | minus => ['-']

/- An exponent: a letter, a sign, and digits. -/
@[ext]
structure ExponentSpelling where
  capital : Bool
  mark : Mark
  ds : List Char
  figures : AreFigures ds
  present : ds ≠ []

/- The letter that an exponent begins with. -/
def ExponentSpelling.letter
    (e : ExponentSpelling) : Char :=
  if e.capital then 'E' else 'e'

/- The characters of an exponent, if there is one. -/
def exponentChars : Option ExponentSpelling → List Char
  | none => []
  | some e => e.letter :: (e.mark.chars ++ e.ds)

/- The characters of a fraction, if there is a point. -/
def fractionChars : Option (List Char) → List Char
  | none => []
  | some ds => '.' :: ds

/-
  The parts of an amount in text. There are digits before the
  point or behind it.
-/
@[ext]
structure AmountSpelling where
  mark : Mark
  whole : List Char
  fraction : Option (List Char)
  exponent : Option ExponentSpelling
  wholeFigures : AreFigures whole
  fractionFigures : AreFigures (fraction.getD [])
  present : whole ++ fraction.getD [] ≠ []

/- The characters of an amount. -/
def AmountSpelling.chars
    (a : AmountSpelling) : List Char :=
  a.mark.chars ++
    (a.whole ++ (fractionChars a.fraction ++ exponentChars a.exponent))

/- The parts of a quantity in text. The letters need not name a unit. -/
@[ext]
structure QuantitySpelling where
  before : List Char
  amount : AmountSpelling
  between : List Char
  letters : List Char
  after : List Char
  beforeBlank : ∀ c ∈ before, Text.isBlank c = true
  betweenBlank : ∀ c ∈ between, Text.isBlank c = true
  alphabetic : ∀ c ∈ letters, c.isAlpha = true
  present : letters ≠ []
  afterBlank : ∀ c ∈ after, Text.isBlank c = true

namespace QuantitySpelling

/- What follows the amount. -/
def tail
    (q : QuantitySpelling) : List Char :=
  q.between ++ (q.letters ++ q.after)

/- The characters of a quantity. -/
def chars
    (q : QuantitySpelling) : List Char :=
  q.before ++ (q.amount.chars ++ q.tail)

/- The text of a quantity. -/
def text
    (q : QuantitySpelling) : Text :=
  .ofList q.chars

end QuantitySpelling

------------------------------------------------------------
-- Characters Of The Parts
------------------------------------------------------------

theorem Mark.chars_injective :
    Function.Injective Mark.chars := by
  intro m n hSame
  cases m <;> cases n <;> first | rfl | cases hSame

/- An amount has digits, and a few other characters. -/
theorem AmountSpelling.mem_cases
    (a : AmountSpelling)
    {c : Char}
    (hMem : c ∈ a.chars) :
    Text.isDigit c = true ∨ c ∈ ['+', '-', '.', 'e', 'E'] := by
  have hMark : ∀ mark : Mark, c ∈ mark.chars → c ∈ ['+', '-'] := by
    intro mark hSign
    cases mark <;> simp_all [Mark.chars]
  rw [chars, List.mem_append, List.mem_append, List.mem_append] at hMem
  rcases hMem with hSign | hWhole | hFraction | hExponent
  · exact Or.inr (List.mem_append_left ['.', 'e', 'E'] (hMark _ hSign))
  · exact Or.inl (a.wholeFigures c hWhole)
  · cases hPoint : a.fraction with
    | none =>
        rw [hPoint] at hFraction
        cases hFraction
    | some ds =>
        have hFigures := a.fractionFigures
        rw [hPoint] at hFraction hFigures
        rcases List.mem_cons.mp hFraction with rfl | hDigit
        · exact Or.inr (by decide)
        · exact Or.inl (hFigures c hDigit)
  · cases hPower : a.exponent with
    | none =>
        rw [hPower] at hExponent
        cases hExponent
    | some e =>
        rw [hPower] at hExponent
        rcases List.mem_cons.mp hExponent with rfl | hRest
        · right
          rw [ExponentSpelling.letter]
          cases e.capital <;> decide
        · rcases List.mem_append.mp hRest with hSign | hDigit
          · exact Or.inr
              (List.mem_append_left ['.', 'e', 'E'] (hMark _ hSign))
          · exact Or.inl (e.figures c hDigit)

/- None of them is a blank. -/
theorem AmountSpelling.not_blank
    (a : AmountSpelling)
    {c : Char}
    (hMem : c ∈ a.chars) :
    Text.isBlank c = false := by
  have hNone : ['+', '-', '.', 'e', 'E'].any Text.isBlank = false := by
    decide
  rcases a.mem_cases hMem with hFigure | hOther
  · exact Text.blank_of_figure hFigure
  · exact Bool.eq_false_iff.mpr (List.any_eq_false.mp hNone c hOther)

/- Behind its sign, an amount starts with a digit or with a point. -/
theorem AmountSpelling.starts
    (a : AmountSpelling)
    (more : List Char) :
    ∃ c rest, a.whole ++ (fractionChars a.fraction ++ more) = c :: rest ∧
      (Text.isDigit c = true ∨ c = '.') := by
  have hPresent := a.present
  cases hWhole : a.whole with
  | cons c rest =>
      have hFigure := a.wholeFigures c (by simp [hWhole])
      exact ⟨c, _, rfl, Or.inl hFigure⟩
  | nil =>
      cases hPoint : a.fraction with
      | none =>
          rw [hWhole, hPoint] at hPresent
          exact absurd rfl hPresent
      | some ds => exact ⟨'.', ds ++ more, rfl, Or.inr rfl⟩

/- So an amount is where the blanks before it end. -/
theorem AmountSpelling.stops
    (a : AmountSpelling)
    (more : List Char)
    (c : Char)
    (others : List Char)
    (hFirst : a.chars ++ more = c :: others) :
    Text.isBlank c = false := by
  rcases a.starts (exponentChars a.exponent) with ⟨d, rest, hStart, -⟩
  cases hChars : a.chars with
  | nil =>
      rw [chars, hStart, List.append_eq_nil_iff] at hChars
      cases hChars.2
  | cons e ds =>
      have hMem : e ∈ a.chars := by simp [hChars]
      rw [hChars] at hFirst
      cases hFirst
      exact a.not_blank hMem

theorem Text.blank_of_nil :
    ∀ c ∈ ([] : List Char), isBlank c = true :=
  List.forall_mem_nil _

/- A blank is no letter. -/
theorem Text.letter_of_blank
    {c : Char}
    (hBlank : Text.isBlank c = true) :
    c.isAlpha = false := by
  have hAscii :
      ∀ n < 0x80, Text.isBlank (Char.ofNat n) = true →
        (Char.ofNat n).isAlpha = false := by
    decide +kernel
  rw [Bool.eq_false_iff]
  intro hLetter
  have hRange := Text.letter_bounds hLetter
  rw [← Char.ofNat_toNat c] at hBlank hLetter
  rw [hAscii c.toNat (by omega) hBlank] at hLetter
  cases hLetter

/- Neither a blank nor a letter is a digit, a sign, or a point. -/
theorem Text.other_of_blank_or_letter
    {c : Char}
    (hClass : Text.isBlank c = true ∨ c.isAlpha = true) :
    Text.isDigit c = false ∧ c ≠ '.' ∧ c ≠ '-' ∧ c ≠ '+' := by
  refine ⟨?_, ?_, ?_, ?_⟩
  · rw [Bool.eq_false_iff]
    intro hFigure
    rw [Text.blank_of_figure hFigure, Text.letter_of_figure hFigure]
      at hClass
    exact absurd hClass (by decide)
  all_goals
    rintro rfl
    exact absurd hClass (by decide)

namespace QuantitySpelling

variable (q : QuantitySpelling)

/- The letters and what is behind them are letters and blanks. -/
theorem mem_letters_cases
    {c : Char}
    (hMem : c ∈ q.letters ++ q.after) :
    Text.isBlank c = true ∨ c.isAlpha = true := by
  rcases List.mem_append.mp hMem with hLetter | hBlank
  · exact Or.inr (q.alphabetic c hLetter)
  · exact Or.inl (q.afterBlank c hBlank)

/- So is all that follows the amount. -/
theorem mem_tail_cases
    {c : Char}
    (hMem : c ∈ q.tail) :
    Text.isBlank c = true ∨ c.isAlpha = true := by
  rcases List.mem_append.mp hMem with hBlank | hRest
  · exact Or.inl (q.betweenBlank c hBlank)
  · exact q.mem_letters_cases hRest

/- The letters are where the blanks before them end. -/
theorem letters_stop
    (c : Char)
    (others : List Char)
    (hFirst : q.letters ++ q.after = c :: others) :
    Text.isBlank c = false := by
  cases hLetters : q.letters with
  | nil => exact absurd hLetters q.present
  | cons d ds =>
      have hLetter := q.alphabetic d (by simp [hLetters])
      rw [hLetters] at hFirst
      cases hFirst
      rw [Bool.eq_false_iff]
      intro hBlank
      rw [Text.letter_of_blank hBlank] at hLetter
      cases hLetter

/- They end where blanks follow. -/
theorem after_stops
    (c : Char)
    (others : List Char)
    (hFirst : q.after = c :: others) :
    c.isAlpha = false :=
  Text.letter_of_blank (q.afterBlank c (hFirst ▸ List.mem_cons_self ..))

/- So an amount ends where it is followed by the rest. -/
theorem tail_stops
    (c : Char)
    (others : List Char)
    (hFirst : q.tail = c :: others) :
    Text.isDigit c = false ∧ c ≠ '.' ∧ c ≠ '-' ∧ c ≠ '+' :=
  Text.other_of_blank_or_letter
    (q.mem_tail_cases (hFirst ▸ List.mem_cons_self ..))

end QuantitySpelling

------------------------------------------------------------
-- Taking The Parts
------------------------------------------------------------

namespace QuantityText

/- The letters of a unit are those of the alphabet. -/
theorem isLetter_eq :
    isLetter = Char.isAlpha := by
  funext c
  have hUpper : c.isUpper = ('A' ≤ c && c ≤ 'Z') := Bool.decide_and ..
  have hLower : c.isLower = ('a' ≤ c && c ≤ 'z') := rfl
  change isLetter c = (c.isUpper || c.isLower)
  rw [hUpper, hLower, Bool.or_comm]
  rfl

/- A sign is taken, if what follows it is no sign. -/
theorem takeSign_chars
    (mark : Mark)
    {rest : List Char}
    (hStops : ∀ c others, rest = c :: others → c ≠ '-' ∧ c ≠ '+') :
    takeSign (mark.chars ++ rest) = (mark.chars, rest) := by
  cases mark with
  | plus => rfl
  | minus => rfl
  | none =>
      rw [Mark.chars, List.nil_append]
      unfold takeSign
      split
      · exact absurd rfl (hStops _ _ rfl).1
      · exact absurd rfl (hStops _ _ rfl).2
      · rfl

/- Whatever is taken as a sign is one. -/
theorem exists_mark
    (cs : List Char) :
    ∃ (mark : Mark) (rest : List Char),
      takeSign cs = (mark.chars, rest) ∧ cs = mark.chars ++ rest := by
  unfold takeSign
  split
  · exact ⟨.minus, _, rfl, rfl⟩
  · exact ⟨.plus, _, rfl, rfl⟩
  · exact ⟨.none, _, rfl, rfl⟩

/- No digit is a sign, and neither is a point. -/
theorem not_mark_of_starts
    {c : Char}
    (hStart : Text.isDigit c = true ∨ c = '.') :
    c ≠ '-' ∧ c ≠ '+' := by
  constructor
  · rintro rfl
    exact absurd hStart (by decide)
  · rintro rfl
    exact absurd hStart (by decide)

/- Digits around a point are taken up to where they end. -/
theorem takeMantissa?_chars
    (a : AmountSpelling)
    {rest : List Char}
    (hStops :
      ∀ c others, rest = c :: others →
        Text.isDigit c = false ∧ c ≠ '.') :
    takeMantissa? (a.whole ++ (fractionChars a.fraction ++ rest)) =
      some (a.whole ++ fractionChars a.fraction, rest) := by
  have hEnd := fun c others hFirst => (hStops c others hFirst).1
  have hFigures := a.fractionFigures
  have hPresent := a.present
  unfold takeMantissa?
  cases hPoint : a.fraction with
  | none =>
      rw [hPoint] at hPresent
      rcases Text.span_of_stops a.wholeFigures hEnd with ⟨hTake, hDrop⟩
      have hSome : a.whole ≠ [] := by
        simpa using hPresent
      simp only [fractionChars, List.nil_append, List.append_nil, hTake,
        hDrop]
      split
      · exact absurd rfl (hStops _ _ rfl).2
      · rw [if_neg hSome]
  | some ds =>
      rw [hPoint] at hFigures hPresent
      have hBreak :
          ∀ c others, '.' :: (ds ++ rest) = c :: others →
            Text.isDigit c = false := by
        intro c others hFirst
        cases hFirst
        rfl
      rcases Text.span_of_stops a.wholeFigures hBreak with ⟨hTake, hDrop⟩
      rcases Text.span_of_stops hFigures hEnd with ⟨hTakeRest, hDropRest⟩
      simp only [Option.getD_some] at hTakeRest hDropRest hPresent
      simp only [fractionChars, List.cons_append, hTake, hDrop, hTakeRest,
        hDropRest, if_neg hPresent]

/- Whatever is taken as digits around a point is such. -/
theorem exists_mantissa
    {cs mantissa rest : List Char}
    (hTaken : takeMantissa? cs = some (mantissa, rest)) :
    ∃ (whole : List Char) (fraction : Option (List Char)),
      AreFigures whole ∧ AreFigures (fraction.getD []) ∧
        whole ++ fraction.getD [] ≠ [] ∧
        mantissa = whole ++ fractionChars fraction ∧
        cs = mantissa ++ rest := by
  have hWhole : AreFigures (cs.takeWhile Text.isDigit) :=
    fun c hMem => List.mem_takeWhile_imp hMem
  have hSplit :=
    (List.takeWhile_append_dropWhile (p := Text.isDigit) (l := cs)).symm
  unfold takeMantissa? at hTaken
  dsimp only at hTaken
  split at hTaken
  · rename_i after hAfter
    split at hTaken
    · cases hTaken
    · rename_i hPresent
      cases hTaken
      refine ⟨_, some (after.takeWhile Text.isDigit), hWhole,
        fun c hMem => List.mem_takeWhile_imp hMem, hPresent, rfl, ?_⟩
      rw [List.append_assoc, List.cons_append,
        List.takeWhile_append_dropWhile, ← hAfter]
      exact hSplit
  · split at hTaken
    · cases hTaken
    · rename_i hPresent
      cases hTaken
      refine ⟨_, none, hWhole, List.forall_mem_nil _, ?_, ?_, hSplit⟩
      · simpa using hPresent
      · simp [fractionChars]

/- An exponent is taken up to where its digits end. -/
theorem takeExponent_chars
    (e : ExponentSpelling)
    {rest : List Char}
    (hStops : ∀ c others, rest = c :: others → Text.isDigit c = false) :
    takeExponent (exponentChars (some e) ++ rest) =
      (exponentChars (some e), rest) := by
  have hLetter : e.letter = 'e' ∨ e.letter = 'E' := by
    rw [ExponentSpelling.letter]
    cases e.capital
    · exact Or.inl rfl
    · exact Or.inr rfl
  have hSign :
      takeSign (e.mark.chars ++ (e.ds ++ rest)) =
        (e.mark.chars, e.ds ++ rest) := by
    apply takeSign_chars
    intro c others hFirst
    cases hDigits : e.ds with
    | nil => exact absurd hDigits e.present
    | cons d more =>
        rw [hDigits] at hFirst
        cases hFirst
        exact not_mark_of_starts
          (Or.inl (e.figures c (by simp [hDigits])))
  rcases Text.span_of_stops e.figures hStops with ⟨hTake, hDrop⟩
  simp only [exponentChars, List.cons_append, List.append_assoc,
    takeExponent, hSign, hTake, hDrop, hLetter, e.present, ne_eq,
    not_false_eq_true, and_self, if_true]

/- No exponent is taken of a unit, even if it starts with the letter. -/
theorem takeExponent_tail
    (q : QuantitySpelling) :
    takeExponent q.tail = ([], q.tail) := by
  cases hTail : q.tail with
  | nil => rfl
  | cons c rest =>
      have hStops :
          ∀ d others, rest = d :: others →
            Text.isDigit d = false ∧ d ≠ '.' ∧ d ≠ '-' ∧ d ≠ '+' := by
        rintro d others rfl
        apply Text.other_of_blank_or_letter
        apply q.mem_tail_cases
        rw [hTail]
        exact List.mem_cons_of_mem _ (List.mem_cons_self ..)
      have hSign : takeSign rest = ([], rest) :=
        takeSign_chars .none fun d others hFirst =>
          (hStops d others hFirst).2.2
      have hNone : rest.takeWhile Text.isDigit = [] :=
        (Text.span_of_stops (List.forall_mem_nil _) fun d others hFirst =>
          (hStops d others hFirst).1).1
      simp only [takeExponent, hSign, hNone, ne_eq, not_true_eq_false,
        and_false, if_false]

/- Whatever is taken as an exponent is one, or nothing. -/
theorem exists_exponent
    (cs : List Char) :
    ∃ (exponent : Option ExponentSpelling) (rest : List Char),
      takeExponent cs = (exponentChars exponent, rest) ∧
        cs = exponentChars exponent ++ rest := by
  cases cs with
  | nil => exact ⟨none, [], rfl, rfl⟩
  | cons c rest =>
      rcases exists_mark rest with ⟨mark, after, hSign, hRest⟩
      rw [takeExponent, hSign]
      dsimp only
      split
      · rename_i hTaken
        rcases hTaken with ⟨hLetter, hPresent⟩
        have hCapital :
            (if decide (c = 'E') = true then 'E' else 'e') = c := by
          rcases hLetter with rfl | rfl <;> rfl
        refine
          ⟨some
            { capital := decide (c = 'E')
              mark := mark
              ds := after.takeWhile Text.isDigit
              figures := fun d hMem => List.mem_takeWhile_imp hMem
              present := hPresent }, after.dropWhile Text.isDigit, ?_, ?_⟩
        · rw [exponentChars, ExponentSpelling.letter, hCapital]
        · rw [exponentChars, ExponentSpelling.letter, hCapital,
            List.cons_append, List.append_assoc,
            List.takeWhile_append_dropWhile, ← hRest]
      · exact ⟨none, _, rfl, rfl⟩

/- What follows the digits of an amount is no digit, and no point. -/
theorem exponent_stops
    (exponent : Option ExponentSpelling)
    (q : QuantitySpelling)
    (c : Char)
    (others : List Char)
    (hFirst : exponentChars exponent ++ q.tail = c :: others) :
    Text.isDigit c = false ∧ c ≠ '.' := by
  cases exponent with
  | none =>
      rcases q.tail_stops c others hFirst with ⟨hFigure, hPoint, -⟩
      exact ⟨hFigure, hPoint⟩
  | some e =>
      cases hFirst
      rw [ExponentSpelling.letter]
      cases e.capital
      · exact ⟨by decide, by decide⟩
      · exact ⟨by decide, by decide⟩

/- The sign of an amount is taken, if it has one. -/
theorem takeSign_amount
    (q : QuantitySpelling) :
    takeSign (q.amount.chars ++ q.tail) =
      (q.amount.mark.chars,
        q.amount.whole ++ (fractionChars q.amount.fraction ++
          (exponentChars q.amount.exponent ++ q.tail))) := by
  rw [AmountSpelling.chars, List.append_assoc, List.append_assoc,
    List.append_assoc]
  apply takeSign_chars
  intro c others hFirst
  rcases q.amount.starts (exponentChars q.amount.exponent ++ q.tail) with
    ⟨d, rest, hStart, hClass⟩
  rw [hStart] at hFirst
  cases hFirst
  exact not_mark_of_starts hClass

/- The exponent of an amount is taken, if it has one. -/
theorem takeExponent_amount
    (q : QuantitySpelling) :
    takeExponent (exponentChars q.amount.exponent ++ q.tail) =
      (exponentChars q.amount.exponent, q.tail) := by
  cases q.amount.exponent with
  | none => exact takeExponent_tail q
  | some e =>
      exact takeExponent_chars e fun c others hFirst =>
        (q.tail_stops c others hFirst).1

------------------------------------------------------------
-- Splitting
------------------------------------------------------------

/- A text that is spelled by the grammar is split into its parts. -/
theorem split?_chars
    (q : QuantitySpelling) :
    split? q.chars = some ⟨q.amount.chars, q.letters⟩ := by
  have hBefore := (Text.span_of_stops q.beforeBlank (q.amount.stops q.tail)).2
  have hMantissa :=
    takeMantissa?_chars q.amount (exponent_stops q.amount.exponent q)
  have hBetween := (Text.span_of_stops q.betweenBlank q.letters_stop).2
  rcases Text.span_of_stops q.alphabetic q.after_stops with
    ⟨hLetters, hAfter⟩
  have hBlank : q.after.all Text.isBlank = true :=
    List.all_eq_true.mpr q.afterBlank
  rw [split?, QuantitySpelling.chars, hBefore, takeSign_amount]
  dsimp only
  rw [hMantissa]
  dsimp only [Option.bind_eq_bind, Option.bind_some]
  rw [takeExponent_amount]
  dsimp only
  rw [QuantitySpelling.tail, hBetween, isLetter_eq, hLetters, hAfter,
    if_pos ⟨q.present, hBlank⟩, List.append_assoc, List.append_assoc]
  rfl

/- A text that is split is spelled by the grammar. -/
theorem exists_of_split?
    {cs : List Char}
    {parts : QuantityText}
    (hSplit : split? cs = some parts) :
    ∃ q : QuantitySpelling,
      q.chars = cs ∧ parts = ⟨q.amount.chars, q.letters⟩ := by
  rw [split?, isLetter_eq] at hSplit
  rcases exists_mark (cs.dropWhile Text.isBlank) with
    ⟨mark, afterSign, hSign, hStart⟩
  rw [hSign] at hSplit
  dsimp only at hSplit
  rw [Option.bind_eq_bind, Option.bind_eq_some_iff] at hSplit
  rcases hSplit with ⟨⟨mantissa, afterMantissa⟩, hTaken, hSplit⟩
  rcases exists_mantissa hTaken with
    ⟨whole, fraction, hWhole, hFraction, hPresent, hMantissa, hDigits⟩
  rcases exists_exponent afterMantissa with
    ⟨exponent, rest, hExponent, hPower⟩
  rw [hExponent] at hSplit
  dsimp only at hSplit
  split at hSplit
  · rename_i hRest
    cases hSplit
    let q : QuantitySpelling :=
      { before := cs.takeWhile Text.isBlank
        amount :=
          { mark := mark
            whole := whole
            fraction := fraction
            exponent := exponent
            wholeFigures := hWhole
            fractionFigures := hFraction
            present := hPresent }
        between := rest.takeWhile Text.isBlank
        letters := (rest.dropWhile Text.isBlank).takeWhile Char.isAlpha
        after := (rest.dropWhile Text.isBlank).dropWhile Char.isAlpha
        beforeBlank := fun c hMem => List.mem_takeWhile_imp hMem
        betweenBlank := fun c hMem => List.mem_takeWhile_imp hMem
        alphabetic := fun c hMem => List.mem_takeWhile_imp hMem
        present := hRest.1
        afterBlank := List.all_eq_true.mp hRest.2 }
    have hAmount :
        q.amount.chars = mark.chars ++ mantissa ++ exponentChars exponent := by
      rw [hMantissa, List.append_assoc, List.append_assoc]
      rfl
    have hTail : q.tail = rest := by
      change _ ++ (_ ++ _) = rest
      rw [List.takeWhile_append_dropWhile, List.takeWhile_append_dropWhile]
    refine ⟨q, ?_, by rw [hAmount]⟩
    rw [QuantitySpelling.chars, hAmount, hTail, List.append_assoc,
      List.append_assoc, ← hPower, ← hDigits, ← hStart]
    exact List.takeWhile_append_dropWhile
  · cases hSplit

end QuantityText

------------------------------------------------------------
-- One Spelling Only
------------------------------------------------------------

theorem fractionChars_injective :
    Function.Injective fractionChars := by
  intro f g hSame
  cases f <;> cases g <;> simp_all [fractionChars]

/- The letter, the sign, and the digits of an exponent can be told apart. -/
theorem exponentChars_injective :
    Function.Injective exponentChars := by
  have hSign :
      ∀ e : ExponentSpelling,
        QuantityText.takeSign (e.mark.chars ++ e.ds) =
          (e.mark.chars, e.ds) := by
    intro e
    apply QuantityText.takeSign_chars
    intro c others hFirst
    exact QuantityText.not_mark_of_starts
      (Or.inl (e.figures c (hFirst ▸ List.mem_cons_self ..)))
  intro e f hSame
  cases e with
  | none =>
      cases f with
      | none => rfl
      | some f => cases hSame
  | some e =>
      cases f with
      | none => cases hSame
      | some f =>
          rcases List.cons.inj hSame with ⟨hLetter, hRest⟩
          have hParts := congrArg QuantityText.takeSign hRest
          rw [hSign, hSign] at hParts
          rcases Prod.mk.inj hParts with ⟨hMark, hDigits⟩
          have hCapital : e.capital = f.capital := by
            rw [ExponentSpelling.letter, ExponentSpelling.letter] at hLetter
            cases hFirst : e.capital <;> cases hSecond : f.capital <;>
              simp_all
          rw [ExponentSpelling.ext hCapital (Mark.chars_injective hMark)
            hDigits]

/- So can the digits before a point and those behind it. -/
theorem AmountSpelling.mantissa_unique
    {a b : AmountSpelling}
    (hSame :
      a.whole ++ fractionChars a.fraction =
        b.whole ++ fractionChars b.fraction) :
    a.whole = b.whole ∧ a.fraction = b.fraction := by
  have hStops :
      ∀ (fraction : Option (List Char)) (c : Char) (others : List Char),
        fractionChars fraction = c :: others →
          Text.isDigit c = false := by
    intro fraction c others hFirst
    cases fraction with
    | none => cases hFirst
    | some ds =>
        cases hFirst
        rfl
  rcases Text.span_unique a.wholeFigures (hStops _) b.wholeFigures (hStops _)
      hSame with ⟨hWhole, hFraction⟩
  exact ⟨hWhole, fractionChars_injective hFraction⟩

/- A text is spelled in one way only. -/
theorem QuantitySpelling.chars_injective :
    Function.Injective QuantitySpelling.chars := by
  intro q r hSame
  rcases Text.span_unique q.beforeBlank (q.amount.stops q.tail) r.beforeBlank
      (r.amount.stops r.tail) hSame with ⟨hBefore, hRest⟩
  have hSign := congrArg QuantityText.takeSign hRest
  rw [QuantityText.takeSign_amount, QuantityText.takeSign_amount] at hSign
  rcases Prod.mk.inj hSign with ⟨hMark, hDigits⟩
  have hTaken := congrArg QuantityText.takeMantissa? hDigits
  rw [QuantityText.takeMantissa?_chars q.amount
      (QuantityText.exponent_stops q.amount.exponent q),
    QuantityText.takeMantissa?_chars r.amount
      (QuantityText.exponent_stops r.amount.exponent r)] at hTaken
  rcases Prod.mk.inj (Option.some.inj hTaken) with ⟨hMantissa, hPower⟩
  have hExponent := congrArg QuantityText.takeExponent hPower
  rw [QuantityText.takeExponent_amount, QuantityText.takeExponent_amount]
    at hExponent
  rcases Prod.mk.inj hExponent with ⟨hExponent, hTail⟩
  rcases AmountSpelling.mantissa_unique hMantissa with ⟨hWhole, hFraction⟩
  rcases Text.span_unique q.betweenBlank q.letters_stop r.betweenBlank
      r.letters_stop hTail with ⟨hBetween, hUnit⟩
  rcases Text.span_unique q.alphabetic q.after_stops r.alphabetic r.after_stops
      hUnit with ⟨hLetters, hAfter⟩
  have hAmount : q.amount = r.amount :=
    AmountSpelling.ext (Mark.chars_injective hMark) hWhole hFraction
      (exponentChars_injective hExponent)
  exact QuantitySpelling.ext hBefore hAmount hBetween hLetters hAfter

end Joinery
