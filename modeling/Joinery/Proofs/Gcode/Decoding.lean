import Mathlib.Data.List.Basic
import Joinery.Proofs.Gcode.Operands
import Joinery.Proofs.Related
import Joinery.Proofs.Text.Alphabet
import Joinery.Proofs.Text.Letters

/-
  A line is read back word by word. Between single blanks stand
  the mnemonic and, for every part of every argument, one word:
  the capitals of its name and the numeral of its number.

  Key definitions include:
    * `Line.Part`
    * `Line.HasParts`
    * `Line.SplitsInto`
    * `Line.Tells`

  Key theorems include:
    * `intercalate_flatten`
    * `Line.exists_word`
    * `Line.exists_words`
    * `Line.ofInstruction_decodes`
-/

namespace Joinery

------------------------------------------------------------
-- Separated Lists
------------------------------------------------------------

section Separated

variable {α β : Type}

/- Of two lists that are not empty, each is separated by itself. -/
theorem intercalate_append
    (separator : List α)
    {front back : List (List α)}
    (hFront : front ≠ [])
    (hBack : back ≠ []) :
    separator.intercalate (front ++ back) =
      separator.intercalate front ++ separator ++
        separator.intercalate back := by
  induction front with
  | nil => exact absurd rfl hFront
  | cons item rest ih =>
      by_cases hLast : rest = []
      · subst hLast
        rw [List.singleton_append, List.intercalate_singleton,
          List.intercalate_cons_of_ne_nil hBack]
      · have hMore : rest ++ back ≠ [] :=
          List.append_ne_nil_of_left_ne_nil hLast back
        rw [List.cons_append, List.intercalate_cons_of_ne_nil hMore,
          List.intercalate_cons_of_ne_nil hLast, ih hLast]
        simp only [List.append_assoc]

/- Separated groups of separated items are separated items. -/
theorem intercalate_flatten
    (separator : List α)
    {groups : List (List (List α))}
    (hSome : ∀ group ∈ groups, group ≠ []) :
    separator.intercalate (groups.map separator.intercalate) =
      separator.intercalate groups.flatten := by
  induction groups with
  | nil => rfl
  | cons group rest ih =>
      rw [List.forall_mem_cons] at hSome
      by_cases hLast : rest = []
      · subst hLast
        simp
      · have hMore : rest.flatten ≠ [] := by
          rcases List.exists_cons_of_ne_nil hLast with
            ⟨next, others, rfl⟩
          exact List.append_ne_nil_of_left_ne_nil
            (hSome.2 next (List.mem_cons_self ..)) _
        have hMap : rest.map separator.intercalate ≠ [] :=
          fun hNone => hLast (List.map_eq_nil_iff.mp hNone)
        rw [List.map_cons, List.intercalate_cons_of_ne_nil hMap,
          ih hSome.2, List.flatten_cons,
          intercalate_append separator hSome.1 hMore]

/- Items may be changed before or after they are separated. -/
theorem map_intercalate
    (change : α → β)
    (separator : List α)
    (items : List (List α)) :
    (separator.intercalate items).map change =
      (separator.map change).intercalate
        (items.map (List.map change)) := by
  induction items with
  | nil => rfl
  | cons item rest ih =>
      by_cases hLast : rest = []
      · subst hLast
        simp
      · have hMap : rest.map (List.map change) ≠ [] :=
          fun hNone => hLast (List.map_eq_nil_iff.mp hNone)
        rw [List.intercalate_cons_of_ne_nil hLast, List.map_cons,
          List.intercalate_cons_of_ne_nil hMap, List.map_append,
          List.map_append, ih]

end Separated

namespace Text

theorem letters_ofList
    (cs : List Char) :
    (ofList cs).letters = cs.map Letter.char := by
  rw [ofList, letters_ofString, String.toList_ofList]

theorem ofList_append
    (cs : List Char)
    (s : String) :
    ofList cs ++ (s : Text) = ofList (cs ++ s.toList) := by
  apply letters_injective
  rw [letters_append, letters_ofList, letters_ofList, letters_ofString,
    List.map_append]

/- Texts of characters are joined with a blank as their characters are. -/
theorem joined_ofList
    (lines : List (List Char)) :
    joined " " (lines.map ofList) =
      ofList ([' '].intercalate lines) := by
  apply letters_injective
  have hLines :
      (lines.map ofList).map letters =
        lines.map (List.map Letter.char) := by
    rw [List.map_map]
    exact List.map_congr_left fun cs _ => letters_ofList cs
  rw [letters_joined, letters_ofList, map_intercalate, hLines]
  rfl

end Text

namespace Line

open Numeral (IsNumeral AreLetters IsNearestAway)

------------------------------------------------------------
-- Parts Of Instructions
------------------------------------------------------------

/- A part of an instruction: a name, alone or with a number. -/
inductive Part where
  | bare
      (name : List Char)
  | numbered
      (name : List Char)
      (n : Number)

/- An entry of a mapping names a finite number in letters. -/
inductive HasPart : Value × Value → Part → Prop where
  | entry
      {name v : Value}
      {cs : List Char}
      {n : Number}
      (hName : name.text? = some (Text.ofList cs))
      (hLetters : AreLetters cs)
      (hPlain : v.IsPlain n)
      (hFinite : n.isFinite = .ok true) :
      HasPart (name, v) (.numbered cs n)

/-
  The parts of an argument: the name of a token, or the entries
  of a mapping that is not empty.
-/
inductive HasParts : Value → List Part → Prop where
  | token
      {name : Value}
      {cs : List Char}
      (hName : name.text? = some (Text.ofList cs))
      (hLetters : AreLetters cs)
      (hSome : cs ≠ []) :
      HasParts (.token name) [.bare cs]
  | mapping
      {entries : Entries}
      {parts : List Part}
      (hEntries : List.Forall₂ HasPart entries parts)
      (hSome : entries ≠ []) :
      HasParts (.dict entries) parts

/- A word has letters in front and a numeral behind, in one way only. -/
structure SplitsInto
    (word name numeral : List Char) : Prop where
  whole : word = name ++ numeral
  letters : AreLetters name
  number : IsNumeral numeral
  only :
    ∀ front back, AreLetters front → IsNumeral back →
      word = front ++ back → front = name ∧ back = numeral

/-
  A word tells a part: the capitals of the name and, if the part
  has a number, a numeral behind them. It denotes the hundredth
  that is nearest to what the number is rounded from.
-/
inductive Tells : Part → List Char → Prop where
  | bare
      (name : List Char) :
      Tells (.bare name) (name.map Char.toUpper)
  | numbered
      {name word numeral : List Char}
      {n : Number}
      {units : Int}
      {d : Rat}
      (hSplit : SplitsInto word (name.map Char.toUpper) numeral)
      (hDenotes : Decimal.Denotes numeral (units / 100))
      (hRounded : n.IsRoundedFrom d)
      (hNearest : IsNearestAway units d) :
      Tells (.numbered name n) word

------------------------------------------------------------
-- Words
------------------------------------------------------------

/- Characters without a blank that are not empty are one word. -/
def IsWord
    (cs : List Char) : Prop :=
  cs ≠ [] ∧ ' ' ∉ cs

/- Names of letters have capitals that are letters. -/
theorem areLetters_toUpper
    {cs : List Char}
    (hLetters : AreLetters cs) :
    AreLetters (cs.map Char.toUpper) := by
  intro c hMem
  rcases List.mem_map.mp hMem with ⟨small, hSmall, rfl⟩
  exact Text.isAlpha_toUpper (hLetters small hSmall)

theorem blank_not_mem_letters
    {cs : List Char}
    (hLetters : AreLetters cs) :
    ' ' ∉ cs :=
  fun hMem => absurd (hLetters ' ' hMem) (by decide)

/- A name of ASCII characters is written in capitals. -/
theorem keyword_ofList
    {name : Value}
    {cs : List Char}
    (hName : name.text? = some (Text.ofList cs))
    (hAscii : ∀ c ∈ cs, c.toNat < 128) :
    keyword name = .ok (Text.ofList (cs.map Char.toUpper)) := by
  rw [keyword, hName, ← Text.upperCase_ofList hAscii]

theorem keyword_letters
    {name : Value}
    {cs : List Char}
    (hName : name.text? = some (Text.ofList cs))
    (hLetters : AreLetters cs) :
    keyword name = .ok (Text.ofList (cs.map Char.toUpper)) := by
  apply keyword_ofList hName
  intro c hMem
  have hRange := Text.letter_bounds (hLetters c hMem)
  omega

/- The word of an entry tells its part. -/
theorem exists_word
    (u : LengthUnit)
    {e : Value × Value}
    {part : Part}
    (hPart : HasPart e part) :
    ∃ cs, word u e.1 e.2 = .ok (Text.ofList cs) ∧
      Tells part cs ∧ IsWord cs := by
  cases hPart with
  | entry hName hLetters hPlain hFinite =>
      rename_i name v cs n
      rcases Numeral.exists_numeral hPlain hFinite with
        ⟨s, units, d, hText, hForm, hDenotes, hRounded, hNearest⟩
      have hPrinted : ofValue u v = .ok s :=
        (ofValue_of_finite (resolve_plain u hPlain) hPlain hFinite).trans
          hText
      have hCapitals := areLetters_toUpper hLetters
      refine ⟨cs.map Char.toUpper ++ s.toList, ?_, ?_, ?_, ?_⟩
      · rw [word, keyword_letters hName hLetters, hPrinted,
          ← Text.ofList_append]
        rfl
      · refine .numbered ⟨rfl, hCapitals, hForm, ?_⟩ hDenotes hRounded
          hNearest
        intro front back hFront hBack hSame
        exact Numeral.split_unique hFront hBack hCapitals hForm hSame.symm
      · rcases hForm.starts with ⟨c, rest, hStart, -⟩
        rw [hStart]
        exact List.append_ne_nil_of_right_ne_nil _ (List.cons_ne_nil c rest)
      · rw [List.mem_append, not_or]
        exact ⟨blank_not_mem_letters hCapitals, hDenotes.2⟩

/- The text of an argument has a word for each of its parts. -/
theorem exists_words
    (u : LengthUnit)
    {arg : Value}
    {parts : List Part}
    (hParts : HasParts arg parts) :
    ∃ words, ofArgument u arg = .ok (Text.ofList ([' '].intercalate words)) ∧
      words ≠ [] ∧
      List.Forall₂ (fun part cs => Tells part cs ∧ IsWord cs) parts words := by
  cases hParts with
  | token hName hLetters hSome =>
      rename_i name cs
      have hCapitals := areLetters_toUpper hLetters
      refine ⟨[cs.map Char.toUpper], ?_, List.cons_ne_nil _ _,
        .cons ⟨.bare cs, ?_, blank_not_mem_letters hCapitals⟩ .nil⟩
      · rw [List.intercalate_singleton]
        exact keyword_letters hName hLetters
      · exact fun hNone => hSome (List.map_eq_nil_iff.mp hNone)
  | mapping hEntries hSome =>
      rename_i entries
      rcases Outcome.exists_mapM
          (hEntries.imp fun e part hPart => exists_word u hPart) with
        ⟨words, hWords, hTell⟩
      refine ⟨words, ?_, ?_, hTell⟩
      · rw [ofArgument, hWords, Outcome.ok_bind, Text.joined_ofList]
        rfl
      · rintro rfl
        cases hTell
        cases hEntries
        exact hSome rfl

------------------------------------------------------------
-- Lines
------------------------------------------------------------

/-
  The line of an instruction, split at each blank, is the
  capitals of the mnemonic and then one word for every part of
  every argument, in their order. No word is empty. The word of
  a token is the capitals of its name, and the word of an entry
  splits in one way only, into the capitals of its key and a
  numeral for its number, rounded to the nearest hundredth.
-/
theorem ofInstruction_decodes
    (u : LengthUnit)
    {mnemonic : Value}
    {head : List Char}
    {args : List Value}
    {groups : List (List Part)}
    (hMnemonic : mnemonic.text? = some (Text.ofList head))
    (hSome : head ≠ [])
    (hHead : ∀ c ∈ head, c.isAlphanum = true)
    (hArgs : List.Forall₂ HasParts args groups) :
    ∃ line words, ofInstruction u mnemonic args = .ok (Text.ofList line) ∧
      line.splitOn ' ' = head.map Char.toUpper :: words ∧
      List.Forall₂ Tells groups.flatten words ∧
      [] ∉ line.splitOn ' ' := by
  rcases Outcome.exists_mapM
      (hArgs.imp fun arg parts hParts => exists_words u hParts) with
    ⟨told, hTold, hTell⟩
  have hFirst : IsWord (head.map Char.toUpper) := by
    refine ⟨fun hNone => hSome (List.map_eq_nil_iff.mp hNone), ?_⟩
    intro hMem
    rcases List.mem_map.mp hMem with ⟨c, hChar, hBlank⟩
    have hCapital := Text.isAlphanum_toUpper (hHead c hChar)
    rw [hBlank] at hCapital
    cases hCapital
  have hWords :
      List.Forall₂ (fun part cs => Tells part cs ∧ IsWord cs)
        groups.flatten told.flatten :=
    List.rel_flatten (hTell.imp fun _ _ hGroup => hGroup.2)
  have hEach :
      ∀ cs ∈ head.map Char.toUpper :: told.flatten, IsWord cs := by
    rw [List.forall_mem_cons]
    refine ⟨hFirst, fun cs hMem => ?_⟩
    rcases exists_related hWords hMem with ⟨part, -, -, hWord⟩
    exact hWord
  have hJoined :
      [' '].intercalate
          (head.map Char.toUpper :: told.map [' '].intercalate) =
        [' '].intercalate (head.map Char.toUpper :: told.flatten) := by
    have hGroups :
        ∀ group ∈ [head.map Char.toUpper] :: told, group ≠ [] := by
      rw [List.forall_mem_cons]
      refine ⟨List.cons_ne_nil _ _, fun group hMem => ?_⟩
      rcases exists_related hTell hMem with ⟨parts, -, hGroup, -⟩
      exact hGroup
    have hFlat := intercalate_flatten [' '] hGroups
    rwa [List.map_cons, List.intercalate_singleton] at hFlat
  have hSplit :
      ([' '].intercalate (head.map Char.toUpper :: told.flatten)).splitOn
          ' ' =
        head.map Char.toUpper :: told.flatten :=
    List.splitOn_intercalate ' ' (fun cs hMem => (hEach cs hMem).2)
      (List.cons_ne_nil _ _)
  refine ⟨_, told.flatten, ?_, hSplit,
    hWords.imp fun _ _ hWord => hWord.1, ?_⟩
  · have hAscii : ∀ c ∈ head, c.toNat < 128 := by
      intro c hMem
      have hRange := Text.word_bounds (hHead c hMem)
      omega
    have hLines :
        (told.map fun ws => Text.ofList ([' '].intercalate ws)) =
          (told.map [' '].intercalate).map Text.ofList := by
      rw [List.map_map]
      rfl
    rw [ofInstruction, keyword_ofList hMnemonic hAscii, hTold, hLines]
    simp only [Outcome.ok_bind]
    rw [← List.map_cons, Text.joined_ofList, hJoined]
    rfl
  · rw [hSplit]
    exact fun hMem => (hEach [] hMem).1 rfl

/- A move with two numbers, one of them a tie in its text, and a flag. -/
theorem move_decodes :
    (ofInstruction .millimeter (.text "g1")
        [.dict [(.text "x", .float 1.005), (.text "y", .int (-3))],
          .token (.text "p")]).toOption =
      some "G1 X1.01 Y-3 P" ∧
    ∃ line words,
      ofInstruction .millimeter (.text "g1")
          [.dict [(.text "x", .float 1.005), (.text "y", .int (-3))],
            .token (.text "p")] =
        .ok (Text.ofList line) ∧
      line.splitOn ' ' = ['G', '1'] :: words ∧
      List.Forall₂ Tells
        [.numbered ['x'] (.float 1.005), .numbered ['y'] (.int (-3)),
          .bare ['p']]
        words ∧
      [] ∉ line.splitOn ' ' := by
  have hNumbers :
      HasParts
        (.dict [(.text "x", .float 1.005), (.text "y", .int (-3))])
        [.numbered ['x'] (.float 1.005),
          .numbered ['y'] (.int (-3))] := by
    refine .mapping (.cons ?_ (.cons ?_ .nil)) (List.cons_ne_nil _ _)
    · exact .entry rfl (List.all_eq_true.mp rfl) (.float 1.005) rfl
    · exact .entry rfl (List.all_eq_true.mp rfl) (.int (-3)) rfl
  have hFlag : HasParts (.token (.text "p")) [.bare ['p']] :=
    .token rfl (List.all_eq_true.mp rfl) (List.cons_ne_nil _ _)
  have hHead :
      (Value.text "g1").text? = some (Text.ofList ['g', '1']) := rfl
  exact ⟨by decide +kernel,
    ofInstruction_decodes .millimeter hHead (List.cons_ne_nil _ _)
      (List.all_eq_true.mp rfl) (.cons hNumbers (.cons hFlag .nil))⟩

end Line

end Joinery
