import Mathlib.Data.List.Basic
import Mathlib.Tactic.Linarith
import Joinery.Proofs.Json.Reader
import Joinery.Proofs.Text.Letters
import Joinery.Text.Json

/-
  A text that is written as a JSON string is read back, save
  that the halves of a pair are joined where they stand next
  to each other. The string holds printable characters of
  ASCII only.

  Key definitions include:
    * `Text.asRead`
    * `Json.halves`
    * `Json.IsPrintable`

  Key theorems include:
    * `Json.paired_halves`
    * `Json.string?_jsonString`
    * `Text.eq_of_asRead`
-/

namespace Joinery

------------------------------------------------------------
-- Halves Of Pairs
------------------------------------------------------------

/- A text as it is read: with the halves of pairs joined. -/
def Text.asRead
    (t : Text) : Text :=
  ofLetters (Json.paired t.letters)

namespace Json

/- The half of a pair with an offset. -/
def half
    (n : Nat) : Surrogate :=
  ⟨⟨n % 0x800, Nat.mod_lt n (by decide)⟩⟩

/- A code point in units of sixteen bits. -/
def halves : Letter → List Letter
  | .char c =>
      if c.toNat < 0x10000 then [.char c]
      else
        [ .surrogate (half ((c.toNat - 0x10000) / 0x400)),
          .surrogate (half (0x400 + (c.toNat - 0x10000) % 0x400)) ]
  | .surrogate s => [.surrogate s]

theorem toNat_lt
    (c : Char) :
    c.toNat < 0x110000 ∧ ¬ (0xd800 ≤ c.toNat ∧ c.toNat < 0xe000) := by
  have hValid := c.valid
  simp only [UInt32.isValidChar, Nat.isValidChar] at hValid
  change c.val.toNat < _ ∧ ¬ (_ ≤ c.val.toNat ∧ c.val.toNat < _)
  omega

theorem offset_half
    {n : Nat}
    (hLess : n < 0x800) :
    (half n).offset.val = n :=
  Nat.mod_eq_of_lt hLess

/- The halves of a character are a pair that stands for it. -/
theorem pairOf?_halves
    {c : Char}
    (hLarge : 0x10000 ≤ c.toNat) :
    pairOf? (half ((c.toNat - 0x10000) / 0x400))
        (half (0x400 + (c.toNat - 0x10000) % 0x400)) =
      some c := by
  have hRange := (toNat_lt c).1
  have hBack :
      0x10000 + (c.toNat - 0x10000) / 0x400 * 0x400 +
          (0x400 + (c.toNat - 0x10000) % 0x400 - 0x400) =
        c.toNat := by
    omega
  rw [pairOf?, offset_half (by omega), offset_half (by omega),
    if_pos (by omega), hBack, Char.ofNat_toNat]

/- The first half of a character is no second half of a pair. -/
theorem pairOf?_high
    (s : Surrogate)
    {n : Nat}
    (hHigh : n < 0x400) :
    pairOf? s (half n) = none := by
  rw [pairOf?, offset_half (by omega), if_neg (by omega)]

/- Where no pair begins, a code point stands by itself. -/
theorem paired_cons_surrogate
    (s : Surrogate)
    {rest : List Letter}
    (hNone : ∀ low others, rest = .surrogate low :: others →
      pairOf? s low = none) :
    paired (.surrogate s :: rest) = .surrogate s :: paired rest := by
  cases rest with
  | nil => rfl
  | cons l others =>
      cases l with
      | char c => rfl
      | surrogate low => rw [paired, hNone low others rfl]

theorem paired_cons_char
    (c : Char)
    (rest : List Letter) :
    paired (.char c :: rest) = .char c :: paired rest :=
  rfl

/- The halves that a character is written in are joined again. -/
theorem paired_halves_char
    (c : Char)
    (rest : List Letter) :
    paired (halves (.char c) ++ rest) = .char c :: paired rest := by
  rw [halves]
  by_cases hSmall : c.toNat < 0x10000
  · rw [if_pos hSmall, List.singleton_append, paired_cons_char]
  · rw [if_neg hSmall, List.cons_append, List.singleton_append, paired,
      pairOf?_halves (not_lt.mp hSmall)]

/- What a character is written in does not end a pair. -/
theorem pairOf?_first
    {s low : Surrogate}
    {c : Char}
    {rest others : List Letter}
    (hFirst : halves (.char c) ++ rest = .surrogate low :: others) :
    pairOf? s low = none := by
  rw [halves] at hFirst
  by_cases hSmall : c.toNat < 0x10000
  · rw [if_pos hSmall] at hFirst
    cases hFirst
  · have hRange := (toNat_lt c).1
    rw [if_neg hSmall] at hFirst
    cases hFirst
    exact pairOf?_high s (by omega)

/-
  What is written in halves is read as the code points are,
  as no half of a character pairs with what stands before it.
-/
theorem paired_halves
    (ls : List Letter) :
    paired (ls.flatMap halves) = paired ls := by
  induction ls using paired.induct with
  | case1 high low rest c hPair ih =>
      have hSplit :
          (Letter.surrogate high :: .surrogate low :: rest).flatMap halves =
            .surrogate high :: .surrogate low :: rest.flatMap halves := rfl
      rw [hSplit, paired, paired, hPair]
      simp only [ih]
  | case2 high low rest hNone ih =>
      have hSplit :
          (Letter.surrogate high :: .surrogate low :: rest).flatMap halves =
            .surrogate high :: (.surrogate low :: rest).flatMap halves := rfl
      rw [hSplit, paired_cons_surrogate, ih, paired, hNone]
      intro other others hFirst
      cases hFirst
      exact hNone
  | case3 l rest hAlone ih =>
      rw [List.flatMap_cons]
      cases l with
      | char c => rw [paired_halves_char, ih, paired_cons_char]
      | surrogate s =>
          have hSplit :
              halves (.surrogate s) ++ rest.flatMap halves =
                .surrogate s :: rest.flatMap halves := rfl
          rw [hSplit, paired_cons_surrogate, ih, paired_cons_surrogate]
          · intro low others hFirst
            exact absurd hFirst (hAlone s low others rfl)
          · intro low others hFirst
            rcases rest with _ | ⟨next, more⟩
            · cases hFirst
            · cases next with
              | char c => exact pairOf?_first hFirst
              | surrogate other => exact absurd rfl (hAlone s other more rfl)
  | case4 => rfl

------------------------------------------------------------
-- Escapes
------------------------------------------------------------

theorem hexValue?_hexDigit :
    ∀ n < 16, Text.hexValue? (Text.hexDigit n) = some n := by
  decide

/- Four digits are read as the unit that they are written for. -/
theorem unit?_hex
    {n : Nat}
    (hFits : n < 0x10000)
    (rest : List Char) :
    unit? (Text.hex 4 n ++ rest) = some (n, rest) := by
  have hDigits :
      Text.hex 4 n ++ rest =
        Text.hexDigit (n / 16 / 16 / 16 % 16) ::
          Text.hexDigit (n / 16 / 16 % 16) ::
          Text.hexDigit (n / 16 % 16) ::
          Text.hexDigit (n % 16) :: rest := rfl
  have hEach := fun k => hexValue?_hexDigit (k % 16) (Nat.mod_lt k (by decide))
  have hBack :
      16 * (16 * (16 * (n / 16 / 16 / 16 % 16) + n / 16 / 16 % 16) +
          n / 16 % 16) + n % 16 = n := by
    omega
  rw [hDigits, unit?]
  simp only [hEach, Option.bind_eq_bind, Option.bind_some, hBack]
  rfl

/- An escape is read as the code point that it names. -/
theorem piece?_unitEscape
    {n : Nat}
    {l : Letter}
    (hFits : n < 0x10000)
    (hCode : Letter.ofCode? n = some l)
    (rest : List Char) :
    piece? (Text.unitEscape n ++ rest) = some (l, rest) := by
  have hEscape :
      Text.unitEscape n ++ rest =
        '\\' :: 'u' :: (Text.hex 4 n ++ rest) := rfl
  rw [hEscape, piece?, unit?_hex hFits, Option.bind_some, hCode]
  rfl

theorem ofCode?_char
    (c : Char) :
    Letter.ofCode? c.toNat = some (.char c) := by
  have hRange := toNat_lt c
  rw [Letter.ofCode?, dif_neg (by omega), if_pos hRange.1,
    Char.ofNat_toNat]

theorem ofCode?_surrogate
    (s : Surrogate) :
    Letter.ofCode? s.code = some (.surrogate s) := by
  rcases s with ⟨⟨offset, hLess⟩⟩
  have hCode : 0xd800 + offset - 0xd800 = offset := by omega
  rw [Letter.ofCode?, Surrogate.code]
  simp only [hCode]
  rw [dif_pos ⟨hLess, by omega⟩]

theorem code_half
    {n : Nat}
    (hLess : n < 0x800) :
    (half n).code = 0xd800 + n := by
  rw [Surrogate.code, offset_half hLess]

/- What is looked up is an entry. -/
theorem mem_of_lookup
    {α β : Type}
    [BEq α]
    [LawfulBEq α]
    {key : α}
    {value : β}
    {entries : List (α × β)}
    (hFound : entries.lookup key = some value) :
    (key, value) ∈ entries := by
  rcases List.lookup_eq_some_iff.mp hFound with ⟨before, after, hSplit, -⟩
  rw [hSplit]
  exact List.mem_append_right _ (List.mem_cons_self ..)

/- What a short escape is written for is read back. -/
theorem piece?_short
    {c letter : Char}
    (hShort : Text.jsonShort.lookup c = some letter)
    (rest : List Char) :
    piece? ('\\' :: letter :: rest) = some (.char c, rest) := by
  have hEach :
      ∀ e ∈ Text.jsonShort,
        piece? ('\\' :: e.2 :: rest) = some (.char e.1, rest) := by
    intro e hMem
    simp only [Text.jsonShort, List.mem_cons, List.not_mem_nil,
      or_false] at hMem
    rcases hMem with rfl | rfl | rfl | rfl | rfl | rfl | rfl <;> rfl
  exact hEach (c, letter) (mem_of_lookup hShort)

------------------------------------------------------------
-- Units As They Are Written
------------------------------------------------------------

/- Characters of ASCII that stand on one line. -/
def IsPrintable
    (cs : List Char) : Prop :=
  ∀ c ∈ cs, 0x20 ≤ c.toNat ∧ c.toNat < 0x7f

/- The characters are looked through one by one. -/
instance
    (cs : List Char) :
    Decidable (IsPrintable cs) :=
  List.decidableBAll _ cs

theorem IsPrintable.append
    {cs ds : List Char}
    (hFirst : IsPrintable cs)
    (hRest : IsPrintable ds) :
    IsPrintable (cs ++ ds) :=
  List.forall_mem_append.mpr ⟨hFirst, hRest⟩

theorem hex_printable
    (width n : Nat) :
    IsPrintable (Text.hex width n) := by
  have hDigit :
      ∀ k < 16,
        0x20 ≤ (Text.hexDigit k).toNat ∧
          (Text.hexDigit k).toNat < 0x7f := by
    decide
  induction width generalizing n with
  | zero => exact List.forall_mem_nil _
  | succ width ih =>
      exact List.forall_mem_append.mpr
        ⟨ih _, List.forall_mem_singleton.mpr
          (hDigit _ (Nat.mod_lt n (by decide)))⟩

/- How a code point of sixteen bits is written in a string. -/
inductive IsUnit : Letter → List Char → Prop where
  | short
      {c letter : Char}
      (hShort : Text.jsonShort.lookup c = some letter) :
      IsUnit (.char c) ['\\', letter]
  | plain
      {c : Char}
      (hPlain : 0x20 ≤ c.toNat ∧ c.toNat < 0x7f)
      (hShort : Text.jsonShort.lookup c = none) :
      IsUnit (.char c) [c]
  | escape
      {n : Nat}
      {l : Letter}
      (hFits : n < 0x10000)
      (hCode : Letter.ofCode? n = some l) :
      IsUnit l (Text.unitEscape n)

namespace IsUnit

variable {l : Letter}
variable {cs : List Char}

/- It is read as it was written. -/
theorem piece
    (hUnit : IsUnit l cs)
    (rest : List Char) :
    piece? (cs ++ rest) = some (l, rest) := by
  cases hUnit with
  | short hShort => exact piece?_short hShort rest
  | plain hPlain hShort =>
      rename_i c
      have hOther : c ≠ '\\' := by
        rintro rfl
        cases hShort
      rw [List.singleton_append, piece?.eq_3, if_neg]
      · exact not_or.mpr ⟨hOther, by omega⟩
      · exact fun _ hSame => absurd hSame hOther
      · exact fun _ _ hSame => absurd hSame hOther
  | escape hFits hCode => exact piece?_unitEscape hFits hCode rest

/- It does not start with a quote. -/
theorem head
    (hUnit : IsUnit l cs)
    (rest : List Char) :
    (cs ++ rest).head? ≠ some '\x22' := by
  intro hQuote
  cases hUnit with
  | short hShort => cases hQuote
  | plain hPlain hShort =>
      cases hQuote
      cases hShort
  | escape hFits hCode => cases hQuote

theorem length_pos
    (hUnit : IsUnit l cs) :
    0 < cs.length := by
  cases hUnit with
  | short hShort => exact Nat.succ_pos _
  | plain hPlain hShort => exact Nat.succ_pos _
  | escape hFits hCode => exact Nat.succ_pos _

theorem printable
    (hUnit : IsUnit l cs) :
    IsPrintable cs := by
  cases hUnit with
  | short hShort =>
      have hEach :
          ∀ e ∈ Text.jsonShort, 0x20 ≤ e.2.toNat ∧ e.2.toNat < 0x7f := by
        decide
      exact List.forall_mem_cons.mpr
        ⟨by decide, List.forall_mem_singleton.mpr
          (hEach _ (mem_of_lookup hShort))⟩
  | plain hPlain hShort => exact List.forall_mem_singleton.mpr hPlain
  | escape hFits hCode =>
      exact List.forall_mem_cons.mpr ⟨by decide,
        List.forall_mem_cons.mpr ⟨by decide, hex_printable 4 _⟩⟩

end IsUnit

/- Code points of sixteen bits, one written after the other. -/
inductive AreUnits : List Letter → List Char → Prop where
  | nil :
      AreUnits [] []
  | cons
      {l : Letter}
      {ls : List Letter}
      {cs more : List Char}
      (hFirst : IsUnit l cs)
      (hRest : AreUnits ls more) :
      AreUnits (l :: ls) (cs ++ more)

namespace AreUnits

variable {ls more : List Letter}
variable {cs ds : List Char}

theorem singleton
    {l : Letter}
    (hUnit : IsUnit l cs) :
    AreUnits [l] cs := by
  rw [← List.append_nil cs]
  exact .cons hUnit .nil

theorem append
    (hFirst : AreUnits ls cs)
    (hRest : AreUnits more ds) :
    AreUnits (ls ++ more) (cs ++ ds) := by
  induction hFirst with
  | nil => exact hRest
  | cons hUnit _ ih =>
      rw [List.append_assoc]
      exact .cons hUnit ih

/- There are as many characters as code points, or more. -/
theorem length_le
    (hUnits : AreUnits ls cs) :
    ls.length ≤ cs.length := by
  induction hUnits with
  | nil => exact Nat.le_refl 0
  | cons hUnit _ ih =>
      have hPos := hUnit.length_pos
      rw [List.length_cons, List.length_append]
      omega

theorem printable
    (hUnits : AreUnits ls cs) :
    IsPrintable cs := by
  induction hUnits with
  | nil => exact List.forall_mem_nil _
  | cons hUnit _ ih =>
      exact List.forall_mem_append.mpr ⟨hUnit.printable, ih⟩

/- They are read up to the closing quote. -/
theorem body
    (hUnits : AreUnits ls cs)
    {tries : Nat}
    (hTries : ls.length < tries)
    (rest : List Char) :
    body? tries (cs ++ '\x22' :: rest) = some (ls, rest) := by
  induction hUnits generalizing tries with
  | nil =>
      cases tries with
      | zero => exact absurd hTries (Nat.lt_irrefl 0)
      | succ tries => rfl
  | cons hUnit _ ih =>
      cases tries with
      | zero => exact absurd hTries (Nat.not_lt_zero _)
      | succ tries =>
          rw [List.append_assoc, body?, if_neg (hUnit.head _),
            hUnit.piece, Option.bind_some,
            ih (Nat.lt_of_succ_lt_succ hTries)]
          rfl

end AreUnits

------------------------------------------------------------
-- Texts
------------------------------------------------------------

/- Every code point is written in units. -/
theorem jsonLetter_areUnits
    (l : Letter) :
    AreUnits (halves l) (Text.jsonLetter l) := by
  cases l with
  | surrogate s =>
      have hFits : s.code < 0x10000 := by
        have hOffset := s.offset.isLt
        rw [Surrogate.code]
        omega
      exact .singleton (.escape hFits (ofCode?_surrogate s))
  | char c =>
      have hRange := (toNat_lt c).1
      rw [Text.jsonLetter, Text.jsonEscape]
      cases hShort : Text.jsonShort.lookup c with
      | some letter =>
          have hEach : ∀ e ∈ Text.jsonShort, e.1.toNat < 0x10000 := by
            decide
          rw [halves, if_pos (hEach _ (mem_of_lookup hShort))]
          exact .singleton (.short hShort)
      | none =>
          by_cases hPlain : 0x20 ≤ c.toNat ∧ c.toNat < 0x7f
          · simp only [hPlain, and_self, if_true]
            rw [halves, if_pos (by omega)]
            exact .singleton (.plain hPlain hShort)
          · simp only [hPlain, if_false]
            rw [Text.pairEscape, halves]
            by_cases hSmall : c.toNat < 0x10000
            · rw [if_pos hSmall, if_pos hSmall]
              exact .singleton (.escape hSmall (ofCode?_char c))
            · have hHigh := code_half
                (show (c.toNat - 0x10000) / 0x400 < 0x800 by omega)
              have hLow := code_half
                (show 0x400 + (c.toNat - 0x10000) % 0x400 < 0x800 by omega)
              rw [if_neg hSmall, if_neg hSmall]
              refine .cons (.escape (by omega) ?_)
                (.singleton (.escape (by omega) ?_))
              · rw [← hHigh]
                exact ofCode?_surrogate _
              · have hCode :
                    0xdc00 + (c.toNat - 0x10000) % 0x400 =
                      0xd800 + (0x400 + (c.toNat - 0x10000) % 0x400) := by
                  omega
                rw [hCode, ← hLow]
                exact ofCode?_surrogate _

theorem flatMap_areUnits
    (ls : List Letter) :
    AreUnits (ls.flatMap halves) (ls.flatMap Text.jsonLetter) := by
  induction ls with
  | nil => exact .nil
  | cons l rest ih =>
      rw [List.flatMap_cons, List.flatMap_cons]
      exact (jsonLetter_areUnits l).append ih

/- A text that is written as a string is printable. -/
theorem jsonString_printable
    (t : Text) :
    IsPrintable (Text.jsonString t).toList := by
  rw [Text.jsonString, String.toList_ofList]
  exact List.forall_mem_cons.mpr ⟨by decide,
    List.forall_mem_append.mpr
      ⟨(flatMap_areUnits t.letters).printable,
        List.forall_mem_singleton.mpr (by decide)⟩⟩

/- It is read as the text, with the halves of pairs joined. -/
theorem string?_jsonString
    (t : Text)
    (rest : List Char) :
    string? (t.letters.flatMap Text.jsonLetter ++ '\x22' :: rest) =
      some (t.asRead, rest) := by
  have hUnits := flatMap_areUnits t.letters
  have hTries :
      (t.letters.flatMap halves).length <
        (t.letters.flatMap Text.jsonLetter ++ '\x22' :: rest).length + 1 := by
    have hLength := hUnits.length_le
    rw [List.length_append]
    omega
  rw [string?, hUnits.body hTries, Option.map_some, Text.asRead,
    paired_halves]

theorem toNat_ofNat
    {n : Nat}
    (hValid : n.isValidChar) :
    (Char.ofNat n).toNat = n := by
  rw [Char.ofNat, dif_pos hValid]
  rfl

/- The character of a pair takes more than sixteen bits. -/
theorem pairOf?_large
    {high low : Surrogate}
    {c : Char}
    (hPair : pairOf? high low = some c) :
    0x10000 ≤ c.toNat := by
  rw [pairOf?] at hPair
  split at hPair
  · rename_i hHalves
    have hLow := low.offset.isLt
    have hValid :
        (0x10000 + high.offset.val * 0x400 +
          (low.offset.val - 0x400)).isValidChar := by
      right
      omega
    rw [← Option.some.inj hPair, toNat_ofNat hValid]
    omega
  · cases hPair

/- Characters of sixteen bits. -/
def AreShort
    (cs : List Char) : Prop :=
  ∀ c ∈ cs, c.toNat < 0x10000

instance
    (cs : List Char) :
    Decidable (AreShort cs) :=
  List.decidableBAll _ cs

/-
  Where joining the halves of pairs leaves characters of
  sixteen bits only, there were no halves.
-/
theorem eq_of_paired
    {ls : List Letter}
    {cs : List Char}
    (hShort : AreShort cs)
    (hPaired : paired ls = cs.map .char) :
    ls = cs.map .char := by
  induction ls using paired.induct generalizing cs with
  | case1 high low rest c hPair ih =>
      rw [paired, hPair] at hPaired
      rcases cs with _ | ⟨other, cs⟩
      · cases hPaired
      · injection hPaired with hFirst
        injection hFirst with hSame
        have hLess := hShort other (List.mem_cons_self ..)
        have hLarge := pairOf?_large hPair
        rw [hSame] at hLarge
        exact absurd hLess (not_lt.mpr hLarge)
  | case2 high low rest hNone ih =>
      rw [paired, hNone] at hPaired
      rcases cs with _ | ⟨other, cs⟩ <;> cases hPaired
  | case3 l rest hAlone ih =>
      cases l with
      | char c =>
          rw [paired_cons_char] at hPaired
          rcases cs with _ | ⟨other, cs⟩
          · cases hPaired
          · injection hPaired with hFirst hRest
            rw [hFirst, List.map_cons,
              ih (fun c hMem => hShort c (List.mem_cons_of_mem _ hMem))
                hRest]
      | surrogate s =>
          rw [paired_cons_surrogate s fun low others hFirst =>
            absurd hFirst (hAlone s low others rfl)] at hPaired
          rcases cs with _ | ⟨other, cs⟩ <;> cases hPaired
  | case4 =>
      rcases cs with _ | ⟨other, cs⟩
      · rfl
      · cases hPaired

end Json

------------------------------------------------------------
-- Texts As They Are Read
------------------------------------------------------------

namespace Text

/- A text of characters is read as it is. -/
theorem asRead_ofString
    (s : String) :
    (ofString s).asRead = s := by
  have hChars :
      ∀ cs : List Char,
        Json.paired (cs.map .char) = cs.map Letter.char := by
    intro cs
    induction cs with
    | nil => rfl
    | cons c rest ih =>
        rw [List.map_cons, Json.paired_cons_char, ih]
  rw [asRead, letters_ofString, hChars, ← letters_ofString,
    ofLetters_letters]

/- A text that is read as a string of short characters is that string. -/
theorem eq_of_asRead
    {t : Text}
    {s : String}
    (hShort : Json.AreShort s.toList)
    (hRead : t.asRead = s) :
    t = s := by
  apply letters_injective
  have hLetters := congrArg letters hRead
  rw [asRead, letters_ofLetters, letters_ofString] at hLetters
  rw [letters_ofString]
  exact Json.eq_of_paired hShort hLetters

end Text

end Joinery
