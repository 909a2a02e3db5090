import Joinery.Decimal.Reading
import Joinery.Gcode.Line
import Joinery.Proofs.Decimal.Numerals
import Joinery.Proofs.Outcome
import Joinery.Proofs.Related
import Joinery.Proofs.Text.Letters

/-
  A machine reads a line word by word: a head that says what
  to do, and numbers under addresses. From the line of an
  instruction it reads the mnemonic and the named numbers.

  Key definitions include:
    * `Word`
    * `Block`
    * `Block.ofLine?`

  Key theorems include:
    * `Word.isIn_of_denotes`
    * `Block.ofLine?_ofInstruction`
-/

namespace Joinery

------------------------------------------------------------
-- Words
------------------------------------------------------------

/- A number under an address. -/
structure Word where
  address : Letter
  number : Rat
  deriving DecidableEq

namespace Word

/- The word that code points are: an address and a numeral. -/
def ofLetters? : List Letter → Option Word
  | address :: numeral =>
      (Decimal.ofNumeral? (numeral.map Letter.toChar)).map fun d =>
        ⟨address, d.toRat⟩
  | [] => none

/- A text is written for a word, and holds no blank. -/
def IsIn
    (word : Word)
    (t : Text) : Prop :=
  ofLetters? t.letters = some word ∧ .char ' ' ∉ t.letters

/- What is printed under an address reads back as the number. -/
theorem isIn_of_denotes
    {c : Char}
    {s : String}
    {r : Rat}
    (hAddress : c ≠ ' ')
    (hDenotes : Decimal.Denotes s.toList r) :
    IsIn ⟨.char c, r⟩ ((Text.ofList [c]) ++ (s : Text)) := by
  have hLetters :
      ((Text.ofList [c]) ++ (s : Text)).letters =
        .char c :: s.toList.map Letter.char := by
    rw [Text.letters_append, Text.ofList, Text.letters_ofString,
      Text.letters_ofString, String.toList_ofList]
    rfl
  rcases hDenotes with ⟨⟨d, hNumeral, hValue⟩, hBlank⟩
  have hChars :
      (s.toList.map Letter.char).map Letter.toChar = s.toList := by
    rw [List.map_map]
    exact List.map_id _
  refine ⟨?_, ?_⟩
  · rw [hLetters, ofLetters?, hChars, hNumeral, Option.map_some, hValue]
  · rw [hLetters, List.mem_cons, not_or]
    refine ⟨fun hSame => hAddress (Letter.char.inj hSame).symm, ?_⟩
    intro hMem
    rcases List.mem_map.mp hMem with ⟨d, hDigit, hSame⟩
    exact hBlank (Letter.char.inj hSame ▸ hDigit)

end Word

------------------------------------------------------------
-- Blocks
------------------------------------------------------------

/- A block is what a line tells a machine: a head, and numbers. -/
structure Block where
  head : List Letter
  words : List Word
  deriving DecidableEq

namespace Block

/-
  The block of a line: its parts are split at blanks, and
  all but the first must be words. Empty parts are skipped.
-/
def ofLine?
    (line : Text) : Option Block :=
  match line.letters.splitOn (.char ' ') with
  | head :: parts =>
      ((parts.filter fun part => !part.isEmpty).mapM Word.ofLetters?).map
        fun words => ⟨head, words⟩
  | [] => none

/- Texts of words are read one by one. -/
theorem mapM_ofLetters?
    {words : List Word}
    {ts : List Text}
    (hWords : List.Forall₂ Word.IsIn words ts) :
    (((ts.map Text.letters).filter fun part => !part.isEmpty).mapM
        Word.ofLetters?) = some words := by
  induction hWords with
  | nil => rfl
  | cons hFirst _ ih =>
      rename_i word t words ts _
      have hSome : t.letters.isEmpty = false := by
        cases hLetters : t.letters with
        | nil =>
            rw [Word.IsIn, hLetters] at hFirst
            cases hFirst.1
        | cons letter rest => rfl
      rw [List.map_cons, List.filter_cons_of_pos (by simp [hSome]),
        List.mapM_cons, hFirst.1, ih]
      rfl

/- The parts of a line are its head and the words behind it. -/
theorem splitOn_line
    {head : Text}
    {ts : List Text}
    (hHead : .char ' ' ∉ head.letters)
    (hParts : ∀ t ∈ ts, .char ' ' ∉ t.letters) :
    ∃ parts,
      (Text.joined " " [head, Text.joined " " ts]).letters.splitOn
          (.char ' ') = head.letters :: parts ∧
        (parts.filter fun part => !part.isEmpty) =
          (ts.map Text.letters).filter fun part => !part.isEmpty := by
  have hBlank : (" " : String).toList.map Letter.char = [.char ' '] := rfl
  rw [Text.letters_joined, hBlank, List.map_cons, List.map_cons,
    List.map_nil, Text.letters_joined, hBlank,
    List.intercalate_cons_cons, List.intercalate_singleton,
    List.append_assoc, List.singleton_append,
    List.splitOn_append_cons_self_of_not_mem hHead]
  refine ⟨_, rfl, ?_⟩
  cases ts with
  | nil => rfl
  | cons t ts =>
      rw [List.splitOn_intercalate]
      · intro letters hMem
        rcases List.mem_map.mp hMem with ⟨u, hText, rfl⟩
        exact hParts u hText
      · exact List.cons_ne_nil _ _

/- The line of an instruction with named numbers reads as they were named. -/
theorem ofLine?_ofInstruction
    {u : LengthUnit}
    {mnemonic : Value}
    {head : Text}
    {entries : Entries}
    {words : List Word}
    (hHead : Line.keyword mnemonic = .ok head)
    (hBlank : .char ' ' ∉ head.letters)
    (hWords :
      List.Forall₂
        (fun e word => ∃ t, Line.word u e.1 e.2 = .ok t ∧ word.IsIn t)
        entries words) :
    ∃ line, Line.ofInstruction u mnemonic [.dict entries] = .ok line ∧
      ofLine? line = some ⟨head.letters, words⟩ := by
  rcases Outcome.exists_mapM hWords with ⟨ts, hTexts, hIn⟩
  rw [List.map_id'] at hTexts
  have hParts : ∀ t ∈ ts, .char ' ' ∉ t.letters := by
    intro t hMem
    rcases exists_related hIn hMem with ⟨word, -, hWord⟩
    exact hWord.2
  rcases splitOn_line hBlank hParts with ⟨parts, hSplit, hFilter⟩
  refine ⟨Text.joined " " [head, Text.joined " " ts], ?_, ?_⟩
  · rw [Line.ofInstruction, hHead]
    simp only [Outcome.ok_bind, List.mapM_cons, List.mapM_nil,
      Line.ofArgument, hTexts]
    rfl
  · simp only [ofLine?, hSplit, hFilter, mapM_ofLetters? hIn,
      Option.map_some]

end Block

end Joinery
