import Joinery.Proofs.Gcode.Lengths
import Joinery.Proofs.Gcode.Words

/-
  Three instructions name axes of the machine: rapid moves,
  cutting moves, and resets of coordinates. What a line of
  theirs says about the axes is its motion.

  Key definitions include:
    * `Axis`
    * `Instruction.motions`
    * `Line.Shows`
    * `Block.motion?`

  Key theorems include:
    * `Axis.exists_word`
    * `Block.motion?_ofInstruction`
-/

namespace Joinery

------------------------------------------------------------
-- Axes
------------------------------------------------------------

/- An axis of the machine. -/
inductive Axis where
  | x
  | y
  | z
  deriving DecidableEq, Repr

namespace Axis

/- The name that a value is passed under for an axis. -/
def name : Axis → Text
  | .x => "x"
  | .y => "y"
  | .z => "z"

/- The address of an axis in a line. -/
def address : Axis → Char
  | .x => 'X'
  | .y => 'Y'
  | .z => 'Z'

theorem keyword_name
    (axis : Axis) :
    Line.keyword (.text axis.name) = .ok (Text.ofList [axis.address]) := by
  cases axis <;> rfl

theorem address_ne_blank
    (axis : Axis) :
    axis.address ≠ ' ' := by
  cases axis <;> decide

/- The entry of a value for an axis. -/
def entry
    (e : Axis × Value) : Value × Value :=
  (.text e.1.name, e.2)

/- The addresses of the axes. -/
def addresses : List Letter :=
  [.char 'X', .char 'Y', .char 'Z']

theorem address_mem
    (axis : Axis) :
    .char axis.address ∈ addresses := by
  cases axis <;> decide

/- What a value is shown as stands under the address of its axis. -/
theorem exists_word
    (axis : Axis)
    {u : LengthUnit}
    {v : Value}
    {r : Rat}
    (hShows : Line.Shows u v r) :
    ∃ t, Line.word u (.text axis.name) v = .ok t ∧
      Word.IsIn ⟨.char axis.address, r⟩ t := by
  rcases hShows with ⟨s, hPrinted, hDenotes⟩
  refine ⟨_, ?_, Word.isIn_of_denotes axis.address_ne_blank hDenotes⟩
  rw [Line.word, axis.keyword_name, hPrinted]
  rfl

end Axis

------------------------------------------------------------
-- Motions
------------------------------------------------------------

/- The mnemonics of rapid moves, cutting moves, and resets of coordinates. -/
def Instruction.motions : List String :=
  ["g0", "g1", "g92"]

namespace Instruction

/- The head of a line with a mnemonic. -/
def head
    (mnemonic : String) : Text :=
  (mnemonic : Text).upperCase

theorem keyword_head
    (mnemonic : String) :
    Line.keyword (.text mnemonic) = .ok (head mnemonic) := rfl

/- The entry of a feed rate. -/
def feedEntry
    (feed : Value) : Value × Value :=
  (.text "f", feed)

/- The heads of motions, as they stand in lines. -/
def motionHeads : List (List Letter) :=
  motions.map fun mnemonic => (head mnemonic).letters

theorem blank_not_mem_head
    {mnemonic : String}
    (hMotion : mnemonic ∈ motions) :
    .char ' ' ∉ (head mnemonic).letters := by
  simp only [motions, List.mem_cons, List.not_mem_nil, or_false]
    at hMotion
  rcases hMotion with rfl | rfl | rfl
  · decide
  · decide
  · decide

end Instruction

namespace Block

/- The motion that a line commands, if it does: its head and its axes. -/
def motion?
    (line : Text) : Option Block :=
  match ofLine? line with
  | some block =>
      if block.head ∈ Instruction.motionHeads then
        some { block with
          words := block.words.filter (·.address ∈ Axis.addresses) }
      else none
  | none => none

/- Every entry of an instruction that has a line has a word in it. -/
theorem exists_word_of_line
    {u : LengthUnit}
    {mnemonic : Value}
    {entries : Entries}
    {line : Text}
    (hLine : Line.ofInstruction u mnemonic [.dict entries] = .ok line) :
    ∀ e ∈ entries, ∃ t, Line.word u e.1 e.2 = .ok t := by
  rw [Line.ofInstruction, Outcome.bind_eq_ok_iff] at hLine
  rcases hLine with ⟨head, -, hArgs⟩
  rw [Outcome.bind_eq_ok_iff] at hArgs
  rcases hArgs with ⟨texts, hTexts, -⟩
  rw [List.mapM_cons, Outcome.bind_eq_ok_iff] at hTexts
  rcases hTexts with ⟨text, hText, -⟩
  rw [Line.ofArgument, Outcome.bind_eq_ok_iff] at hText
  rcases hText with ⟨words, hWords, -⟩
  intro e hMem
  rcases exists_related (Outcome.forall₂_of_mapM hWords).flip hMem with
    ⟨t, -, hWord⟩
  exact ⟨t, hWord⟩

/- A value whose word is printed is shown. -/
theorem shows_of_word
    {u : LengthUnit}
    {name v : Value}
    {t : Text}
    (hWord : Line.word u name v = .ok t) :
    ∃ k : Int, Line.Shows u v (k / 100) := by
  rw [Line.word, Outcome.bind_eq_ok_iff] at hWord
  rcases hWord with ⟨key, -, hRest⟩
  rw [Outcome.bind_eq_ok_iff] at hRest
  rcases hRest with ⟨numeral, hPrinted, -⟩
  exact Line.ofValue_shows hPrinted

/- A feed rate that is printed stands under an address of its own. -/
theorem exists_feed_word
    {u : LengthUnit}
    {feed : Value}
    {t : Text}
    (hWord : Line.word u (.text "f") feed = .ok t) :
    ∃ word : Word, word.address = .char 'F' ∧ word.IsIn t := by
  rcases shows_of_word hWord with ⟨k, s, hPrinted, hDenotes⟩
  have hText :
      Line.word u (.text "f") feed =
        .ok ((Text.ofList ['F']) ++ (s : Text)) := by
    rw [Line.word, hPrinted]
    rfl
  rw [hWord] at hText
  cases hText
  exact ⟨⟨.char 'F', k / 100⟩, rfl,
    Word.isIn_of_denotes (by decide) hDenotes⟩

/-
  The line of a motion commands what the values of the axes
  are shown as, and nothing else.
-/
theorem motion?_ofInstruction
    {u : LengthUnit}
    {mnemonic : String}
    (hMotion : mnemonic ∈ Instruction.motions)
    {axes : List (Axis × Value)}
    {feeds : List Value}
    {line : Text}
    (hLine :
      Line.ofInstruction u (.text mnemonic)
        [.dict (axes.map Axis.entry ++
          feeds.map Instruction.feedEntry)] = .ok line) :
    ∃ words,
      motion? line = some ⟨(Instruction.head mnemonic).letters, words⟩ ∧
        List.Forall₂
          (fun e word => word.address = .char e.1.address ∧
            Line.Shows u e.2 word.number)
          axes words := by
  have hEntries := exists_word_of_line hLine
  have hAxes :
      ∀ e ∈ axes, ∃ word : Word,
        (word.address = .char e.1.address ∧
          Line.Shows u e.2 word.number) ∧
        ∃ t, Line.word u (.text e.1.name) e.2 = .ok t ∧ word.IsIn t := by
    intro e hMem
    rcases hEntries (Axis.entry e)
        (List.mem_append_left _ (List.mem_map_of_mem hMem)) with
      ⟨t, hWord⟩
    rcases shows_of_word hWord with ⟨k, hShows⟩
    exact ⟨⟨.char e.1.address, k / 100⟩, ⟨rfl, hShows⟩,
      e.1.exists_word hShows⟩
  have hFeeds :
      ∀ feed ∈ feeds, ∃ word : Word, word.address = .char 'F' ∧
        ∃ t, Line.word u (.text "f") feed = .ok t ∧ word.IsIn t := by
    intro feed hMem
    rcases hEntries (Instruction.feedEntry feed)
        (List.mem_append_right _ (List.mem_map_of_mem hMem)) with
      ⟨t, hWord⟩
    rcases exists_feed_word hWord with ⟨word, hAddress, hIn⟩
    exact ⟨word, hAddress, t, hWord, hIn⟩
  rcases exists_forall₂ hAxes with ⟨words, hWords⟩
  rcases exists_forall₂ hFeeds with ⟨others, hOthers⟩
  have hAll :
      List.Forall₂
        (fun e word => ∃ t, Line.word u e.1 e.2 = .ok t ∧ word.IsIn t)
        (axes.map Axis.entry ++ feeds.map Instruction.feedEntry)
        (words ++ others) := by
    refine List.rel_append ?_ ?_
    · exact List.forall₂_map_left_iff.mpr
        (hWords.imp fun e word hWord => hWord.2)
    · exact List.forall₂_map_left_iff.mpr
        (hOthers.imp fun feed word hWord => hWord.2)
  rcases ofLine?_ofInstruction (Instruction.keyword_head mnemonic)
      (Instruction.blank_not_mem_head hMotion) hAll with
    ⟨line', hLine', hCommand⟩
  rw [hLine] at hLine'
  cases hLine'
  have hHead :
      (Instruction.head mnemonic).letters ∈ Instruction.motionHeads :=
    List.mem_map_of_mem hMotion
  have hKept :
      (words ++ others).filter (·.address ∈ Axis.addresses) = words := by
    have hAxis : ∀ word ∈ words, word.address ∈ Axis.addresses := by
      intro word hMem
      rcases exists_related hWords hMem with ⟨e, -, hWord⟩
      rw [hWord.1.1]
      exact e.1.address_mem
    have hOther : ∀ word ∈ others, word.address ∉ Axis.addresses := by
      intro word hMem
      rcases exists_related hOthers hMem with ⟨feed, -, hWord⟩
      rw [hWord.1]
      decide
    rw [List.filter_append, List.filter_eq_self.mpr, List.filter_eq_nil_iff.mpr,
      List.append_nil]
    · simpa using hOther
    · simpa using hAxis
  refine ⟨words, ?_, hWords.imp fun e word hWord => hWord.1⟩
  simp only [motion?, hCommand, hHead, if_true, hKept]

end Block

end Joinery
