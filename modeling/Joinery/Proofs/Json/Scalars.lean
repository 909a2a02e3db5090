import Joinery.Proofs.Decimal.Spelling
import Joinery.Proofs.Json.Strings
import Joinery.Proofs.Text.Alphabet
import Joinery.Value.Json

/-
  A null, a truth value, a number or a text that is written as
  JSON is read back: numbers exactly, also the infinities and
  the one that is no number, and texts with pairs joined.

  Key definitions include:
    * `Value.IsScalar`
    * `Value.asRead`
    * `Json.Reads`

  Key theorems include:
    * `Json.number?_integer`
    * `Json.number?_pointed`
    * `Json.exists_json`
-/

namespace Joinery

/-
  A value that fits into one word or string: an integer must
  not be too long. Units are written as their symbols.
-/
def Value.IsScalar : Value → Prop
  | .null => True
  | .bool _ => True
  | .int n => Decimal.digitCount n.natAbs ≤ Decimal.digitLimit
  | .float _ => True
  | .text _ => True
  | .unit _ => True
  | _ => False

/- Such a value as it is read. -/
def Value.asRead : Value → Value
  | .text t => .text t.asRead
  | .unit u => .text u.symbol
  | v => v

namespace Json

open Decimal (IsPlain AreDigits Spelling withSign naturalOf toDouble)

------------------------------------------------------------
-- Numbers
------------------------------------------------------------

/- A sign is told from the first digit. -/
theorem withSign_parts
    (negative : Bool)
    {cs : List Char}
    (hFirst : ∃ c rest, cs = c :: rest ∧ Decimal.isAsciiDigit c = true) :
    ((withSign negative cs).head? == some '-') = negative ∧
      (if negative then (withSign negative cs).tail
        else withSign negative cs) = cs := by
  cases negative with
  | true => exact ⟨rfl, rfl⟩
  | false =>
      rcases hFirst with ⟨c, rest, rfl, hDigit⟩
      have hMinus := Decimal.ne_of_isAsciiDigit hDigit (d := '-') rfl
      refine ⟨?_, rfl⟩
      rw [withSign, if_neg Bool.false_ne_true, List.head?_cons,
        beq_eq_false_iff_ne]
      exact fun hSame => hMinus (Option.some.inj hSame)

/- Plain digits are no superfluous zero. -/
theorem plain_check
    {ds : List Char}
    (hPlain : IsPlain ds) :
    ¬ (ds = [] ∨ (ds.head? = some '0' ∧ ds ≠ ['0'])) := by
  rintro (hNone | ⟨hZero, hMore⟩)
  · exact hPlain.present hNone
  · exact hMore (hPlain.lean hZero)

/- Plain digits are read as an integer, if they are not too many. -/
theorem number?_integer
    (negative : Bool)
    {ds : List Char}
    (hPlain : IsPlain ds)
    (hShort : ds.length ≤ Decimal.digitLimit) :
    number? (withSign negative ds) =
      some (.int (if negative then -naturalOf ds else naturalOf ds)) := by
  have hFirst :=
    Decimal.exists_first_digit hPlain.digits hPlain.present []
  rw [List.append_nil] at hFirst
  rcases withSign_parts negative hFirst with ⟨hSign, hRest⟩
  rcases Decimal.takeWhile_digits hPlain.digits with ⟨hTake, hDrop⟩
  rw [number?]
  simp only [hSign, hRest, hTake, hDrop]
  rw [if_neg (plain_check hPlain), if_neg (not_lt.mpr hShort)]

/- Digits with a fraction or an exponent are read as a double. -/
theorem number?_pointed
    (s : Spelling)
    (negative : Bool)
    (hPointed : s.IsPointed) :
    number? (withSign negative s.text) =
      some (.float (toDouble (s.decimal negative))) := by
  have hFirst :
      ∃ c rest, s.text = c :: rest ∧ Decimal.isAsciiDigit c = true :=
    Decimal.exists_first_digit s.plain.digits s.plain.present _
  rcases withSign_parts negative hFirst with ⟨hSign, hRest⟩
  have hStops :
      ∀ c others,
        (if s.fraction = [] then [] else '.' :: s.fraction) ++ s.tail =
            c :: others →
          Decimal.isAsciiDigit c = false := by
    intro c others hNext
    by_cases hWhole : s.fraction = []
    · rw [if_pos hWhole, List.nil_append] at hNext
      exact (s.tailed.stops hNext).1
    · rw [if_neg hWhole] at hNext
      cases hNext
      rfl
  rcases Text.span_of_stops s.plain.digits hStops with ⟨hTake, hDrop⟩
  have hDouble :
      (Decimal.ofNumeral? (withSign negative s.text)).map
          (fun d => Value.float (toDouble d)) =
        some (.float (toDouble (s.decimal negative))) := by
    rw [s.ofNumeral?_text negative]
    rfl
  rw [number?]
  simp only [hSign, hRest, hDouble]
  rw [Spelling.text, hTake, hDrop, if_neg (plain_check s.plain)]
  by_cases hWhole : s.fraction = []
  · rcases List.exists_cons_of_ne_nil (hPointed.resolve_left fun hSome =>
        hSome hWhole) with ⟨c, others, hTail⟩
    have hPoint : c ≠ '.' := (s.tailed.stops hTail).2
    rw [if_pos hWhole, List.nil_append, hTail]
    split
    · rename_i hNone
      cases hNone
    · rename_i hDot
      exact absurd (List.cons.inj hDot).1 hPoint
    · rfl
  · rcases List.exists_cons_of_ne_nil hWhole with ⟨d, ds, hFraction⟩
    have hDigit : Decimal.isAsciiDigit d = true :=
      s.digits d (by rw [hFraction]; exact List.mem_cons_self ..)
    rw [if_neg hWhole, hFraction]
    change (if Option.any Decimal.isAsciiDigit (some d) = true then _
      else _) = _
    rw [Option.any_some, if_pos hDigit]

------------------------------------------------------------
-- Words
------------------------------------------------------------

/-
  How the text of a value is read: it is printable, starts
  with no blank, and is taken up to the comma or the brace
  that follows.
-/
structure Reads
    (s : String)
    (v : Value) : Prop where
  printable : IsPrintable s.toList
  start : ∀ rest, skip (s.toList ++ rest) = s.toList ++ rest
  scalar :
    ∀ c rest, c = ',' ∨ c = '\x7d' →
      scalar? (s.toList ++ c :: rest) = some (v, c :: rest)

/- The characters of words are printable, and neither blank nor quote. -/
theorem wordChar_bounds
    {c : Char}
    (hWord : isWordChar c = true) :
    0x20 < c.toNat ∧ c.toNat < 0x7f ∧ c ≠ '\x22' := by
  have hBounds : 0x20 < c.toNat ∧ c.toNat < 0x7f := by
    simp only [isWordChar, Bool.or_eq_true, decide_eq_true_eq] at hWord
    rcases hWord with ((hCase | rfl) | rfl) | rfl
    · have hRange := Text.word_bounds hCase
      omega
    · decide
    · decide
    · decide
  refine ⟨hBounds.1, hBounds.2, ?_⟩
  rintro rfl
  cases hWord

/- A blank is no larger than the space. -/
theorem isBlank_eq_false
    {c : Char}
    (hLarge : 0x20 < c.toNat) :
    isBlank c = false := by
  rw [← Bool.not_eq_true]
  intro hBlank
  simp only [isBlank, Bool.or_eq_true, decide_eq_true_eq] at hBlank
  rcases hBlank with ((rfl | rfl) | rfl) | rfl <;>
    exact absurd hLarge (by decide)

/- Characters of words. -/
def AreWordChars
    (cs : List Char) : Prop :=
  ∀ c ∈ cs, isWordChar c = true

instance
    (cs : List Char) :
    Decidable (AreWordChars cs) :=
  List.decidableBAll _ cs

/- A word is read as its value. -/
theorem Reads.ofWord
    {s : String}
    {v : Value}
    (hSome : s.toList ≠ [])
    (hWord : AreWordChars s.toList)
    (hRead : word? s.toList = some v) :
    Reads s v where
  printable c hMem := by
    have hBounds := wordChar_bounds (hWord c hMem)
    exact ⟨hBounds.1.le, hBounds.2.1⟩
  start rest := by
    rcases List.exists_cons_of_ne_nil hSome with ⟨c, others, hFirst⟩
    have hMem : c ∈ s.toList := by
      rw [hFirst]
      exact List.mem_cons_self ..
    have hBlank := isBlank_eq_false (wordChar_bounds (hWord c hMem)).1
    rw [hFirst, skip, List.cons_append,
      List.dropWhile_cons_of_neg (by simp [hBlank])]
  scalar c rest hStop := by
    have hEnd :
        ∀ d others, c :: rest = d :: others → isWordChar d = false := by
      intro d others hFirst
      cases hFirst
      rcases hStop with rfl | rfl <;> rfl
    rcases Text.span_of_stops hWord hEnd with ⟨hTake, hDrop⟩
    have hQuote :
        ∀ others, s.toList ++ c :: rest = '\x22' :: others → False := by
      intro others hFirst
      rcases List.exists_cons_of_ne_nil hSome with ⟨d, more, hWhole⟩
      have hMem : d ∈ s.toList := by
        rw [hWhole]
        exact List.mem_cons_self ..
      rw [hWhole] at hFirst
      exact (wordChar_bounds (hWord d hMem)).2.2 (List.cons.inj hFirst).1
    rw [scalar?.eq_2 _ hQuote, hTake, hDrop, hRead]
    rfl

/- A string is read as its text. -/
theorem Reads.ofText
    (t : Text) :
    Reads (Text.jsonString t) (.text t.asRead) where
  printable := jsonString_printable t
  start rest := by
    rw [Text.jsonString, String.toList_ofList]
    rfl
  scalar c rest hStop := by
    have hQuoted :
        (Text.jsonString t).toList ++ c :: rest =
          '\x22' ::
            (t.letters.flatMap Text.jsonLetter ++ '\x22' :: c :: rest) := by
      rw [Text.jsonString, String.toList_ofList, List.cons_append,
        List.append_assoc]
      rfl
    rw [hQuoted, scalar?, string?_jsonString]
    rfl

------------------------------------------------------------
-- Values
------------------------------------------------------------

theorem isWordChar_of_digit
    {c : Char}
    (hDigit : Decimal.isAsciiDigit c = true) :
    isWordChar c = true := by
  rw [isWordChar, Char.isAlphanum, (Decimal.isAsciiDigit_iff c).mp hDigit]
  simp

theorem tail_wordChars
    {tail : List Char}
    {power : Int}
    (hTail : Decimal.IsTail tail power) :
    AreWordChars tail := by
  cases hTail with
  | none => exact List.forall_mem_nil _
  | power negative hDigits hSome =>
      refine List.forall_mem_cons.mpr ⟨rfl, List.forall_mem_cons.mpr
        ⟨?_, fun c hMem => isWordChar_of_digit (hDigits c hMem)⟩⟩
      cases negative <;> rfl

/- The characters of a spelled numeral are those of words. -/
theorem spelling_wordChars
    (s : Spelling) :
    AreWordChars s.text := by
  have hWhole : AreWordChars s.whole := fun c hMem =>
    isWordChar_of_digit (s.plain.digits c hMem)
  have hFraction :
      ∀ c ∈ (if s.fraction = [] then [] else '.' :: s.fraction),
        isWordChar c = true := by
    split
    · exact List.forall_mem_nil _
    · exact List.forall_mem_cons.mpr ⟨rfl, fun c hMem =>
        isWordChar_of_digit (s.digits c hMem)⟩
  exact List.forall_mem_append.mpr ⟨hWhole,
    List.forall_mem_append.mpr ⟨hFraction, tail_wordChars s.tailed⟩⟩

/- So are they with a sign. -/
theorem withSign_wordChars
    (negative : Bool)
    {cs : List Char}
    (hWord : AreWordChars cs) :
    AreWordChars (withSign negative cs) := by
  cases negative with
  | true => exact List.forall_mem_cons.mpr ⟨rfl, hWord⟩
  | false => exact hWord

theorem withSign_ne_nil
    (negative : Bool)
    {cs : List Char}
    (hSome : cs ≠ []) :
    withSign negative cs ≠ [] := by
  cases negative with
  | true => exact List.cons_ne_nil _ _
  | false => exact hSome

/- A finite double is read as it is. -/
theorem Reads.ofFinite
    {x : Float}
    {d : Decimal}
    (hShortest : Decimal.shortest? x = some d) :
    Reads (Decimal.doubleText x) (.float x) := by
  rcases Decimal.doubleText_spelled hShortest with
    ⟨s, hText, hPointed, hSize⟩
  have hSome : s.text ≠ [] :=
    List.append_ne_nil_of_left_ne_nil s.plain.present _
  have hSame : toDouble (s.decimal d.negative) = x :=
    Decimal.toDouble_shortest hShortest rfl hSize
  apply Reads.ofWord
  · rw [hText]
    exact withSign_ne_nil _ hSome
  · rw [hText]
    exact withSign_wordChars _ (spelling_wordChars s)
  · rw [hText, word?, number?_pointed s d.negative hPointed, hSame]
    rfl

/- Any double is read as it is; there is one that is no number. -/
theorem Reads.ofDouble
    (x : Float) :
    Reads (Value.jsonDouble x) (.float x) := by
  have hWhole := Double.ofBinary_ofFloat x
  rw [Value.jsonDouble]
  cases hFloat : Binary.ofFloat x with
  | nan =>
      rw [hFloat] at hWhole
      have hSame : (0.0 / 0.0 : Float) = x := by
        rw [← hWhole]
        decide +kernel
      change Reads "NaN" (.float x)
      rw [← hSame]
      exact .ofWord (by decide) (by decide) rfl
  | infinite negative =>
      rw [hFloat] at hWhole
      cases negative with
      | true =>
          have hSame : (-(1.0 / 0.0) : Float) = x := by
            rw [← hWhole]
            decide +kernel
          change Reads "-Infinity" (.float x)
          rw [← hSame]
          exact .ofWord (by decide) (by decide) rfl
      | false =>
          have hSame : (1.0 / 0.0 : Float) = x := by
            rw [← hWhole]
            decide +kernel
          change Reads "Infinity" (.float x)
          rw [← hSame]
          exact .ofWord (by decide) (by decide) rfl
  | finite negative m e =>
      have hShortest :
          Decimal.shortest? x = some (Decimal.shortest negative m e) := by
        rw [Decimal.shortest?, hFloat]
      exact .ofFinite hShortest

/- So is an integer, if it is not too long. -/
theorem Reads.ofInteger
    {n : Int}
    (hShort : Decimal.digitCount n.natAbs ≤ Decimal.digitLimit) :
    Reads (Decimal.integerText n) (.int n) := by
  have hText :
      (Decimal.integerText n).toList =
        withSign (decide (n < 0)) (Decimal.digits n.natAbs) := by
    rw [Decimal.integerText_toList, withSign]
    simp only [decide_eq_true_eq]
  have hValue :
      (if decide (n < 0) = true then -(n.natAbs : Int) else n.natAbs) =
        n := by
    simp only [decide_eq_true_eq]
    omega
  have hPlain := Decimal.digits_plain n.natAbs
  apply Reads.ofWord
  · rw [hText]
    exact withSign_ne_nil _ hPlain.present
  · rw [hText]
    exact withSign_wordChars _ fun c hMem =>
      isWordChar_of_digit (hPlain.digits c hMem)
  · rw [hText, word?, number?_integer _ hPlain hShort,
      Decimal.naturalOf_digits, hValue]
    rfl

/- Every scalar is written as a text that is read as it. -/
theorem exists_json
    {v : Value}
    (hScalar : v.IsScalar) :
    ∃ s, v.json = .ok s ∧ Reads s v.asRead := by
  cases v with
  | null =>
      exact ⟨"null", rfl, .ofWord (by decide) (by decide) rfl⟩
  | bool b =>
      refine ⟨Value.jsonBool b, rfl, ?_⟩
      cases b with
      | true => exact .ofWord (by decide) (by decide) rfl
      | false => exact .ofWord (by decide) (by decide) rfl
  | int n =>
      refine ⟨Decimal.integerText n, ?_, .ofInteger hScalar⟩
      have hShort := (Decimal.exceedsLimit_eq_false_iff n).mpr hScalar
      rw [Value.json, Value.jsonInteger, hShort]
      rfl
  | float x => exact ⟨_, rfl, .ofDouble x⟩
  | text t => exact ⟨_, rfl, .ofText t⟩
  | unit u =>
      have hSymbol := Reads.ofText (Text.ofString u.symbol)
      rw [Text.asRead_ofString] at hSymbol
      exact ⟨_, rfl, hSymbol⟩
  | _ => exact hScalar.elim

end Json

end Joinery
