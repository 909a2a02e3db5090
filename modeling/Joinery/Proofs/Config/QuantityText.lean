import Joinery.Proofs.Config.Amounts
import Joinery.Proofs.Decimal.Spelling
import Joinery.Proofs.Value.Parts

/-
  A text is read as a measure exactly if it is spelled by the
  grammar of quantities and its letters name a unit. Any other
  text is a fault of the job file, save one kind: digits that
  are too many for an integer are read before the letters are
  looked at, and fail as a numeral does.

  Key definitions include:
    * `QuantitySpelling.Names`

  Key theorems include:
    * `QuantityText.split?_eq_some_iff`
    * `readUnit_letters`
    * `readQuantityText_text`
    * `readMeasure_text_iff`
-/

namespace Joinery

------------------------------------------------------------
-- Texts That Are Spelled
------------------------------------------------------------

namespace QuantitySpelling

variable (q : QuantitySpelling)

/- A quantity has blanks, letters, digits, signs, and points. -/
theorem mem_cases
    {c : Char}
    (hMem : c ∈ q.chars) :
    Text.isBlank c = true ∨ c.isAlpha = true ∨ Text.isDigit c = true ∨
      c ∈ ['+', '-', '.', 'e', 'E'] := by
  rcases List.mem_append.mp hMem with hBlank | hRest
  · exact Or.inl (q.beforeBlank c hBlank)
  · rcases List.mem_append.mp hRest with hAmount | hTail
    · exact Or.inr (Or.inr (q.amount.mem_cases hAmount))
    · rcases q.mem_tail_cases hTail with hBlank | hLetter
      · exact Or.inl hBlank
      · exact Or.inr (Or.inl hLetter)

/- So a reserved code point, which is read as no such one, is not in it. -/
theorem replacement_not_mem :
    Letter.replacement ∉ q.chars :=
  fun hMem => absurd (q.mem_cases hMem) (by decide +kernel)

theorem chars_text :
    q.text.chars = q.chars :=
  String.toList_ofList

/- A text is that of a spelling if it is read as its characters. -/
theorem text_eq_iff
    {t : Text} :
    q.text = t ↔ q.chars = t.chars := by
  refine ⟨fun hText => ?_, fun hChars => ?_⟩
  · rw [← hText, q.chars_text]
  · rcases t with ⟨start, rest⟩
    cases rest with
    | nil =>
        rw [text, hChars]
        exact congrArg Text.ofString String.ofList_toList
    | cons e others =>
        refine absurd ?_ q.replacement_not_mem
        rw [hChars]
        refine List.mem_map.mpr ⟨.surrogate e.1, ?_, rfl⟩
        exact List.mem_append_right _ (List.mem_cons_self ..)

/- A text is spelled in one way only. -/
theorem text_injective :
    Function.Injective text := by
  intro q r hSame
  rw [text_eq_iff, chars_text] at hSame
  exact chars_injective hSame

/- The letters are the symbol of a unit, in capitals or not. -/
def Names
    (u : LengthUnit) : Prop :=
  q.letters.map Char.toLower = u.symbol.toList

end QuantitySpelling

/- A text is split exactly if it is spelled by the grammar. -/
theorem QuantityText.split?_eq_some_iff
    {t : Text}
    {parts : QuantityText} :
    split? t.chars = some parts ↔
      ∃ q : QuantitySpelling,
        q.text = t ∧ parts = ⟨q.amount.chars, q.letters⟩ := by
  constructor
  · intro hSplit
    rcases exists_of_split? hSplit with ⟨q, hChars, hParts⟩
    exact ⟨q, q.text_eq_iff.mpr hChars, hParts⟩
  · rintro ⟨q, hText, rfl⟩
    rw [← q.text_eq_iff.mp hText]
    exact split?_chars q

------------------------------------------------------------
-- Units
------------------------------------------------------------

theorem LengthUnit.ofSymbol?_eq_some_iff
    {s : String}
    {u : LengthUnit} :
    ofSymbol? s = some u ↔ u.symbol = s := by
  constructor
  · intro hFound
    exact eq_of_beq
      (List.find?_some (p := fun w : LengthUnit => w.symbol == s) hFound)
  · rintro rfl
    cases u <;> decide

section

variable {q : QuantitySpelling}

/- Letters name a unit exactly if they are its symbol. -/
theorem unitNamed?_letters
    {u : LengthUnit} :
    unitNamed? (.ofList q.letters) = some u ↔ q.Names u := by
  have hChars : (Text.ofList q.letters).chars = q.letters :=
    String.toList_ofList
  have hKept : Text.strip Text.isBlank q.letters = q.letters := by
    refine Text.strip_of_none fun c hMem => ?_
    rw [Bool.eq_false_iff]
    intro hBlank
    have hLetter := q.alphabetic c hMem
    rw [Text.letter_of_blank hBlank] at hLetter
    cases hLetter
  rw [unitNamed?, hChars, hKept, LengthUnit.ofSymbol?_eq_some_iff,
    QuantitySpelling.Names, ← String.toList_inj, String.toList_ofList]
  exact eq_comm

/- Then the unit is read. -/
theorem readUnit_letters
    {u : LengthUnit}
    (name : Text)
    (hNames : q.Names u) :
    readUnit name (.text (.ofList q.letters)) = .ok u := by
  rw [readUnit, Value.plain, unitNamed?_letters.mpr hNames]

/- A fault that shows texts only is reported as it is. -/
theorem fail_of_text
    {α : Type}
    {problem : ConfigFault}
    {raw : Value}
    {t : Text}
    (hText : raw.text? = some t)
    (hShown : problem.values = [raw]) :
    (fail (.config problem) : Outcome α) = .error (.config problem) := by
  refine fail_of_writable fun v hMem => ?_
  have hSame : v = raw := List.mem_singleton.mp (hShown ▸ hMem)
  rw [hSame, ← Value.unwritable_eq_false_iff]
  cases raw <;> cases hText <;> rfl

/- If they name none, that is a fault of the job file. -/
theorem readUnit_of_unnamed
    (name : Text)
    (hOther : ∀ u, ¬ q.Names u) :
    readUnit name (.text (.ofList q.letters)) =
      .error
        (.config (.unknownUnit name (.text (.ofList q.letters)))) := by
  have hNone : unitNamed? (.ofList q.letters) = none :=
    Option.eq_none_iff_forall_ne_some.mpr fun u hNamed =>
      hOther u (unitNamed?_letters.mp hNamed)
  rw [readUnit, Value.plain, hNone]
  exact fail_of_text rfl rfl

end

------------------------------------------------------------
-- Reading
------------------------------------------------------------

/- A value that is a text is read as that text. -/
theorem readMeasure_of_text
    {raw : Value}
    {t : Text}
    (name : Text)
    (hText : raw.text? = some t) :
    readMeasure name raw = readQuantityText name raw t := by
  cases raw <;> cases hText <;> rfl

section

variable {name : Text} {raw : Value} {t : Text}

/- Of a spelled text the amount is read, and then the unit. -/
theorem readQuantityText_text
    {q : QuantitySpelling}
    (hSpelled : q.text = t) :
    readQuantityText name raw t = (do
      let amount ← QuantityText.value ⟨q.amount.chars, q.letters⟩
      let u ← readUnit name (.text (.ofList q.letters))
      return .quantity (.unit u) amount) := by
  rw [readQuantityText,
    QuantityText.split?_eq_some_iff.mpr ⟨q, hSpelled, rfl⟩]

/- A text that is not spelled by the grammar is malformed. -/
theorem readMeasure_of_malformed
    (hText : raw.text? = some t)
    (hNone : ∀ q : QuantitySpelling, q.text ≠ t) :
    readMeasure name raw =
      .error (.config (.malformedQuantity name raw)) := by
  have hSplit : QuantityText.split? t.chars = none := by
    refine Option.eq_none_iff_forall_ne_some.mpr fun parts hSome => ?_
    rcases QuantityText.split?_eq_some_iff.mp hSome with ⟨q, hSpelled, -⟩
    exact hNone q hSpelled
  rw [readMeasure_of_text name hText, readQuantityText, hSplit]
  exact fail_of_text hText rfl

variable {q : QuantitySpelling}

/- An amount is read with the unit that the letters name. -/
theorem readMeasure_of_named
    {u : LengthUnit}
    {amount : Value}
    (hText : raw.text? = some t)
    (hSpelled : q.text = t)
    (hNames : q.Names u)
    (hAmount :
      QuantityText.value ⟨q.amount.chars, q.letters⟩ = .ok amount) :
    readMeasure name raw = .ok (.quantity (.unit u) amount) := by
  rw [readMeasure_of_text name hText, readQuantityText_text hSpelled,
    hAmount, readUnit_letters name hNames]
  rfl

/- If they name none, the unit is what is refused. -/
theorem readMeasure_of_unnamed
    (hText : raw.text? = some t)
    (hSpelled : q.text = t)
    (hOther : ∀ u, ¬ q.Names u)
    (hShort : ¬ q.amount.IsOverlong) :
    readMeasure name raw =
      .error
        (.config (.unknownUnit name (.text (.ofList q.letters)))) := by
  rcases q.amount.exists_value hShort q.letters with ⟨amount, hAmount⟩
  rw [readMeasure_of_text name hText, readQuantityText_text hSpelled,
    hAmount, readUnit_of_unnamed name hOther]
  rfl

/- But digits that are too many are refused before the letters are read. -/
theorem readMeasure_of_overlong
    (hText : raw.text? = some t)
    (hSpelled : q.text = t)
    (hLong : q.amount.IsOverlong) :
    readMeasure name raw =
      .error (.numeralTooLong q.amount.whole.length) := by
  rw [readMeasure_of_text name hText, readQuantityText_text hSpelled,
    AmountSpelling.value_of_overlong hLong]
  rfl

end

/- At most three hundred digits are not too many. -/
theorem AmountSpelling.whole_length_le
    {a : AmountSpelling}
    (hShort : a.digitCount ≤ 300) :
    a.whole.length ≤ Decimal.digitLimit := by
  have hLimit : Decimal.digitLimit = 4300 := rfl
  rw [digitCount] at hShort
  omega

section

variable {raw : Value} {t : Text}

/- A short amount in range is read as what it denotes. -/
theorem exists_readMeasure
    {q : QuantitySpelling}
    {u : LengthUnit}
    (name : Text)
    (hText : raw.text? = some t)
    (hSpelled : q.text = t)
    (hNames : q.Names u)
    (hShort : q.amount.digitCount ≤ 300)
    (hRange : q.amount.IsInRange) :
    ∃ amount,
      readMeasure name raw = .ok (.quantity (.unit u) amount) ∧
        q.amount.Denotes amount := by
  have hDigits := AmountSpelling.whole_length_le hShort
  rcases AmountSpelling.denotes_value hDigits hRange q.letters with
    ⟨amount, hAmount, hDenotes⟩
  exact ⟨amount, readMeasure_of_named hText hSpelled hNames hAmount,
    hDenotes⟩

/- Any other text is refused, for one of two causes. -/
theorem readMeasure_refused
    (name : Text)
    (hText : raw.text? = some t)
    (hOther :
      ¬ ∃ (q : QuantitySpelling) (u : LengthUnit),
        q.text = t ∧ q.Names u) :
    (∃ q : QuantitySpelling,
        q.text = t ∧ q.amount.IsOverlong ∧
          readMeasure name raw =
            .error (.numeralTooLong q.amount.whole.length)) ∨
      (¬ ∃ q : QuantitySpelling, q.text = t ∧ q.amount.IsOverlong) ∧
        ∃ problem, readMeasure name raw = .error (.config problem) := by
  by_cases hLong : ∃ q : QuantitySpelling, q.text = t ∧ q.amount.IsOverlong
  · rcases hLong with ⟨q, hSpelled, hLong⟩
    exact Or.inl
      ⟨q, hSpelled, hLong, readMeasure_of_overlong hText hSpelled hLong⟩
  · refine Or.inr ⟨hLong, ?_⟩
    by_cases hSome : ∃ q : QuantitySpelling, q.text = t
    · rcases hSome with ⟨q, hSpelled⟩
      exact ⟨_, readMeasure_of_unnamed hText hSpelled
        (fun u hNames => hOther ⟨q, u, hSpelled, hNames⟩)
        (fun hOver => hLong ⟨q, hSpelled, hOver⟩)⟩
    · exact ⟨_, readMeasure_of_malformed hText
        fun q hSpelled => hSome ⟨q, hSpelled⟩⟩

end

/-
  Which texts are read as a measure, and as which one. Where
  a text is that of a quantity, its amount is taken to have
  at most three hundred digits and to be in the range of
  doubles. Any other text is a fault of the job file, exactly
  if it is not spelled with more digits than are read.
-/
theorem readMeasure_text_iff
    {raw : Value}
    {t : Text}
    (name : Text)
    (hText : raw.text? = some t)
    (hShort :
      ∀ (q : QuantitySpelling) (u : LengthUnit), q.text = t → q.Names u →
        q.amount.digitCount ≤ 300 ∧ q.amount.IsInRange) :
    ((∃ v, readMeasure name raw = .ok v) ↔
        ∃ (q : QuantitySpelling) (u : LengthUnit),
          q.text = t ∧ q.Names u) ∧
      (∀ q r : QuantitySpelling, q.text = t → r.text = t → q = r) ∧
      (∀ (q : QuantitySpelling) (u : LengthUnit),
        q.text = t → q.Names u →
          ∃ amount,
            readMeasure name raw = .ok (.quantity (.unit u) amount) ∧
              q.amount.Denotes amount) ∧
      ((¬ ∃ (q : QuantitySpelling) (u : LengthUnit),
          q.text = t ∧ q.Names u) →
        ((∃ problem, readMeasure name raw = .error (.config problem)) ↔
          ¬ ∃ q : QuantitySpelling,
            q.text = t ∧ q.amount.IsOverlong)) := by
  have hRead :
      ∀ (q : QuantitySpelling) (u : LengthUnit),
        q.text = t → q.Names u →
          ∃ amount,
            readMeasure name raw = .ok (.quantity (.unit u) amount) ∧
              q.amount.Denotes amount := by
    intro q u hSpelled hNames
    rcases hShort q u hSpelled hNames with ⟨hDigits, hRange⟩
    exact exists_readMeasure name hText hSpelled hNames hDigits hRange
  have hSpelledOnce :
      ∀ q r : QuantitySpelling, q.text = t → r.text = t → q = r :=
    fun q r hFirst hSecond =>
      QuantitySpelling.text_injective (hFirst.trans hSecond.symm)
  refine ⟨⟨fun ⟨v, hOk⟩ => ?_, fun ⟨q, u, hSpelled, hNames⟩ => ?_⟩,
    hSpelledOnce, hRead, fun hOther => ?_⟩
  · by_contra hOther
    rcases readMeasure_refused name hText hOther with
      ⟨q, -, -, hFault⟩ | ⟨-, problem, hFault⟩
    · cases hOk.symm.trans hFault
    · cases hOk.symm.trans hFault
  · rcases hRead q u hSpelled hNames with ⟨amount, hOk, -⟩
    exact ⟨_, hOk⟩
  · rcases readMeasure_refused name hText hOther with
      ⟨q, hSpelled, hLong, hFault⟩ | ⟨hNone, hProblem⟩
    · refine iff_of_false ?_ (not_not_intro ⟨q, hSpelled, hLong⟩)
      rintro ⟨problem, hProblem⟩
      cases hProblem.symm.trans hFault
    · exact iff_of_true hProblem hNone

/- A digit of another script, an exponent, and a unit in capitals. -/
def mixedSpelling : QuantitySpelling where
  before := ['\t']
  amount :=
    { mark := .plus
      whole := ['\u0661']
      fraction := none
      exponent := some
        { capital := false
          mark := .none
          ds := ['3']
          figures := List.forall_mem_singleton.mpr (by decide)
          present := by decide }
      wholeFigures := List.forall_mem_singleton.mpr (by decide +kernel)
      fractionFigures := .nil
      present := by decide }
  between := []
  letters := ['i', 'N']
  after := ['\u3000', '\n']
  beforeBlank := List.all_eq_true.mp (by decide)
  betweenBlank := Text.blank_of_nil
  alphabetic := List.all_eq_true.mp (by decide)
  present := by decide
  afterBlank := List.all_eq_true.mp (by decide)

theorem mixedSpelling_read :
    ∃ amount,
      readMeasure "stock_thickness" (.text mixedSpelling.text) =
          .ok (.quantity (.unit .inch) amount) ∧
        mixedSpelling.amount.Denotes amount := by
  have hRange : mixedSpelling.amount.IsInRange := by
    unfold AmountSpelling.IsInRange
    decide +kernel
  have hShort :
      ∀ (q : QuantitySpelling) (u : LengthUnit),
        q.text = mixedSpelling.text → q.Names u →
          q.amount.digitCount ≤ 300 ∧ q.amount.IsInRange := by
    intro q u hSame hNames
    rw [QuantitySpelling.text_injective hSame]
    exact ⟨by decide, hRange⟩
  have hText :
      (Value.text mixedSpelling.text).text? = some mixedSpelling.text :=
    rfl
  rcases readMeasure_text_iff "stock_thickness" hText hShort with
    ⟨-, -, hRead, -⟩
  exact hRead mixedSpelling .inch rfl rfl

/- More zeros than the digits that are read, and letters that are no unit. -/
def zerosSpelling : QuantitySpelling where
  before := []
  amount :=
    { mark := .none
      whole := Decimal.zeros 4301
      fraction := none
      exponent := none
      wholeFigures := (Decimal.zeros_areDigits 4301).areFigures
      fractionFigures := .nil
      present := by
        rw [Decimal.zeros]
        exact List.append_ne_nil_of_left_ne_nil
          (List.cons_ne_nil _ (List.replicate 4300 '0')) _ }
  between := []
  letters := ['x', 'x']
  after := []
  beforeBlank := Text.blank_of_nil
  betweenBlank := Text.blank_of_nil
  alphabetic := List.all_eq_true.mp (by decide)
  present := by decide
  afterBlank := Text.blank_of_nil

/- Zeros are zero, however many they are. -/
theorem AmountSpelling.isInRange_of_zeros
    {a : AmountSpelling}
    {n : Nat}
    (hWhole : a.whole = Decimal.zeros n)
    (hInteger : a.IsWhole) :
    a.IsInRange := by
  have hZeros : a.decimal.coefficient = 0 := by
    rw [decimal, places, hWhole, hInteger.1]
    exact Decimal.naturalOf_zeros_append (List.forall_mem_nil _) n
  rw [IsInRange, Decimal.magnitude, hZeros, Nat.cast_zero, zero_mul]
  exact zero_lt_one.trans Double.rangeEnd_bounds.1

theorem zerosSpelling_isOverlong :
    zerosSpelling.amount.IsOverlong where
  whole := ⟨rfl, rfl⟩
  range := AmountSpelling.isInRange_of_zeros rfl ⟨rfl, rfl⟩
  long := by
    have hLength : zerosSpelling.amount.whole.length = 4301 :=
      List.length_replicate
    rw [hLength]
    decide

theorem zerosSpelling_fault :
    (¬ ∃ (q : QuantitySpelling) (u : LengthUnit),
        q.text = zerosSpelling.text ∧ q.Names u) ∧
      readMeasure "stock_thickness" (.text zerosSpelling.text) =
        .error (.numeralTooLong 4301) ∧
      (Fault.numeralTooLong 4301).family ≠ .config := by
  have hLength : zerosSpelling.amount.whole.length = 4301 :=
    List.length_replicate
  have hText :
      (Value.text zerosSpelling.text).text? = some zerosSpelling.text :=
    rfl
  refine ⟨?_, ?_, by decide⟩
  · rintro ⟨q, u, hSame, hNames⟩
    rw [QuantitySpelling.text_injective hSame] at hNames
    have hNone : ∀ w : LengthUnit, ['x', 'x'] ≠ w.symbol.toList := by
      intro w
      cases w <;> decide
    exact hNone u hNames
  · rw [readMeasure_of_overlong hText rfl zerosSpelling_isOverlong,
      hLength]

end Joinery
