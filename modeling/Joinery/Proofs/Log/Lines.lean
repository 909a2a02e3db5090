import Mathlib.Data.List.Basic
import Joinery.Log.Record
import Joinery.Proofs.Decimal.Numerals
import Joinery.Proofs.Outcome
import Joinery.Proofs.Value.Named

/-
  A record of texts has a line in every layout: its message
  takes the texts in, and a context of texts can be written.

  Key definitions include:
    * `Message.pattern`
    * `Named.IsOfTexts`
    * `Named.IsOfStrings`

  Key theorems include:
    * `Message.exists_text`
    * `Value.exists_written`
    * `Named.IsJson.exists_object`
    * `Record.exists_line`
-/

namespace Joinery

------------------------------------------------------------
-- Messages
------------------------------------------------------------

namespace Message

/- What stands before the next directive is taken, and then the directive. -/
theorem fill_succ
    (fuel : Nat)
    (state : Filling) :
    fill (fuel + 1) state =
      let plain := state.rest.takeWhile (· != .char '%')
      let found :=
        { state with
          rest := state.rest.drop plain.length
          index := state.index + plain.length }
      if found.rest.isEmpty then .ok ([.ofLetters plain], found)
      else
        takeDirective
            { found with
              rest := found.rest.drop 1
              index := found.index + 1 } >>=
          fun filled =>
            (fill fuel filled.2).map fun r =>
              (.ofLetters plain :: filled.1 :: r.1, r.2) := by
  rw [fill]
  dsimp only
  by_cases hEnd :
      (state.rest.drop
        (state.rest.takeWhile (· != .char '%')).length).isEmpty = true
  · rw [if_pos hEnd]
    change (ite _ _ _ : Fill (List Text)) _ = _
    rw [if_pos hEnd]
    rfl
  · rw [if_neg hEnd]
    change (ite _ _ _ : Fill (List Text)) _ = _
    rw [if_neg hEnd]
    rfl

/- The directive of a text is the text. -/
theorem takeDirective_text
    (rest : List Letter)
    (index : Nat)
    (t : Text)
    (values : List Value) :
    takeDirective
        { rest := .char 's' :: rest
          index := index
          values := .text t :: values } =
      .ok
        (writeText { } t,
          { rest := rest, index := index + 1, values := values }) := by
  rfl

/- What holds no percent sign is passed over up to the next one. -/
theorem takeWhile_plain
    {plain : List Letter}
    (hPlain : .char '%' ∉ plain)
    (rest : List Letter) :
    (plain ++ rest).takeWhile (· != .char '%') =
      plain ++ rest.takeWhile (· != .char '%') := by
  apply List.takeWhile_append_of_pos
  intro l hMem
  rw [bne_iff_ne]
  rintro rfl
  exact hPlain hMem

/- What is left without a directive is taken as it is. -/
theorem fill_of_plain
    {plain : List Letter}
    (hPlain : .char '%' ∉ plain)
    (fuel index : Nat)
    (values : List Value) :
    fill (fuel + 1)
        { rest := plain, index := index, values := values } =
      .ok
        ([.ofLetters plain],
          { rest := []
            index := index + plain.length
            values := values }) := by
  have hTake : plain.takeWhile (· != .char '%') = plain := by
    simpa using takeWhile_plain hPlain []
  rw [fill_succ]
  dsimp only
  rw [hTake, List.drop_length]
  rfl

/- The first directive takes the first text; the rest goes on alone. -/
theorem fill_of_text
    {plain : List Letter}
    (hPlain : .char '%' ∉ plain)
    (fuel index : Nat)
    (t : Text)
    (rest : List Letter)
    (values : List Value) :
    fill (fuel + 1)
        { rest := plain ++ .char '%' :: .char 's' :: rest
          index := index
          values := .text t :: values } =
      (fill fuel
        { rest := rest
          index := index + plain.length + 1 + 1
          values := values }).map fun r =>
            (.ofLetters plain :: writeText { } t :: r.1, r.2) := by
  have hTake :
      (plain ++ .char '%' :: .char 's' :: rest).takeWhile
          (· != .char '%') = plain := by
    rw [takeWhile_plain hPlain]
    exact List.append_nil plain
  rw [fill_succ]
  dsimp only
  rw [hTake, List.drop_left, List.isEmpty_cons, if_neg Bool.false_ne_true,
    List.drop_one, List.tail_cons, takeDirective_text]
  rfl

/- A message with a place for a text after each of some pieces. -/
def pattern
    (pieces : List (List Letter))
    (last : List Letter) : List Letter :=
  pieces.foldr
    (fun plain rest => plain ++ .char '%' :: .char 's' :: rest) last

/- A message with a place for each text can be filled with them. -/
theorem exists_fill
    {pieces : List (List Letter)}
    {last : List Letter}
    {texts : List Text}
    {fuel : Nat}
    (hLength : pieces.length = texts.length)
    (hPieces : ∀ plain ∈ pieces, .char '%' ∉ plain)
    (hLast : .char '%' ∉ last)
    (hFuel : pieces.length < fuel)
    (index : Nat) :
    ∃ filled after,
      fill fuel
          { rest := pattern pieces last
            index := index
            values := texts.map .text } = .ok (filled, after) ∧
        after.values = [] := by
  induction pieces generalizing texts fuel index with
  | nil =>
      rcases fuel with _ | fuel
      · exact absurd hFuel (Nat.lt_irrefl 0)
      · have hNone : texts = [] := List.length_eq_zero_iff.mp hLength.symm
        rw [hNone]
        exact ⟨_, _, fill_of_plain hLast fuel index _, rfl⟩
  | cons plain pieces ih =>
      rcases texts with _ | ⟨t, texts⟩
      · cases hLength
      · rcases fuel with _ | fuel
        · exact absurd hFuel (Nat.not_lt_zero _)
        · have hPlain := hPieces plain (List.mem_cons_self ..)
          have hRest :
              ∀ other ∈ pieces, .char '%' ∉ other := by
            intro other hMem
            exact hPieces other (List.mem_cons_of_mem _ hMem)
          rcases ih (Nat.succ.inj hLength) hRest
              (Nat.lt_of_succ_lt_succ hFuel)
              (index + plain.length + 1 + 1) with
            ⟨filled, after, hFill, hUsed⟩
          refine
            ⟨.ofLetters plain :: writeText { } t :: filled, after, ?_,
              hUsed⟩
          show
            fill (fuel + 1)
              { rest :=
                  plain ++
                    .char '%' :: .char 's' :: pattern pieces last
                index := index
                values := .text t :: texts.map .text } = _
          rw [fill_of_text hPlain, hFill]
          rfl

/- So such a message has a text. -/
theorem exists_text
    {message : Text}
    {pieces : List (List Letter)}
    {last : List Letter}
    {texts : List Text}
    (hMessage : message.letters = pattern pieces last)
    (hLength : pieces.length = texts.length)
    (hPieces : ∀ plain ∈ pieces, .char '%' ∉ plain)
    (hLast : .char '%' ∉ last) :
    ∃ t, text message (texts.map .text) = .ok t := by
  have hFuel : pieces.length < message.letters.length + 1 := by
    rw [hMessage]
    clear hMessage hLength hPieces
    induction pieces with
    | nil => exact Nat.succ_pos _
    | cons plain pieces ih =>
        simp only [pattern, List.foldr_cons, List.length_append,
          List.length_cons] at ih ⊢
        omega
  rcases exists_fill hLength hPieces hLast hFuel 0 with
    ⟨filled, after, hFill, hUsed⟩
  rw [← hMessage] at hFill
  rcases texts with _ | ⟨t, texts⟩
  · exact ⟨message, rfl⟩
  · refine ⟨Text.join filled, ?_⟩
    simp only [text, List.map_cons, StateT.run] at hFill ⊢
    rw [hFill]
    simp only [Outcome.ok_bind, hUsed]
    rfl

end Message

------------------------------------------------------------
-- Contexts
------------------------------------------------------------

/- All values of a context are texts. -/
def Named.IsOfTexts
    (context : Named) : Prop :=
  ∀ e ∈ context, ∃ t, e.2 = .text t

/- All values of a context can be read as texts, as units can, too. -/
def Named.IsOfStrings
    (context : Named) : Prop :=
  ∀ e ∈ context, ∃ t, e.2.text? = some t

theorem Named.IsOfTexts.isOfStrings
    {context : Named}
    (hTexts : context.IsOfTexts) :
    context.IsOfStrings := by
  intro e hMem
  rcases hTexts e hMem with ⟨t, hText⟩
  exact ⟨t, congrArg Value.text? hText⟩

/- What can be read as a text is a text or a unit. -/
theorem Value.cases_of_text?
    {v : Value}
    {t : Text}
    (hText : v.text? = some t) :
    v = .text t ∨ ∃ u, v = .unit u := by
  cases v with
  | text s => exact Or.inl (congrArg Value.text (Option.some.inj hText))
  | unit u => exact Or.inr ⟨u, rfl⟩
  | _ => cases hText

/- It can be written, for people and as JSON. -/
theorem Value.exists_written
    {v : Value}
    {t : Text}
    (hText : v.text? = some t) :
    (∃ shown, v.written = .ok shown) ∧ ∃ s, v.json = .ok s := by
  rcases cases_of_text? hText with rfl | ⟨u, rfl⟩
  · exact ⟨⟨_, rfl⟩, _, rfl⟩
  · exact ⟨⟨_, rfl⟩, _, rfl⟩

namespace Record

theorem exists_contextWords
    {context : Named}
    (hStrings : context.IsOfStrings) :
    ∃ words, contextWords context = .ok words := by
  induction context with
  | nil => exact ⟨[], rfl⟩
  | cons e rest ih =>
      rcases hStrings e (List.mem_cons_self ..) with ⟨t, hText⟩
      rcases (Value.exists_written hText).1 with ⟨shown, hShown⟩
      rcases ih fun other hMem =>
          hStrings other (List.mem_cons_of_mem _ hMem) with
        ⟨words, hWords⟩
      refine ⟨(e.1 ++ "=" ++ shown) :: words, ?_⟩
      rw [contextWords, List.mapM_cons, hShown]
      rw [contextWords] at hWords
      rw [hWords]
      rfl

end Record

/- Named values that can all be written as JSON. -/
def Named.IsJson
    (named : Named) : Prop :=
  ∀ e ∈ named, ∃ s, e.2.json = .ok s

namespace Named

/- A context of texts keeps the fields writable. -/
theorem IsJson.bindAll
    {named : Named}
    (hJson : named.IsJson)
    {context : Named}
    (hStrings : context.IsOfStrings) :
    IsJson (context.foldl (fun acc e => acc.bind e.1 e.2) named) := by
  intro e hMem
  rcases mem_bindAll hMem with hContext | hNamed
  · rcases hStrings e hContext with ⟨t, hText⟩
    exact (Value.exists_written hText).2
  · exact hJson e hNamed

/- Such values make a JSON object. -/
theorem IsJson.exists_object
    {named : Named}
    (hJson : named.IsJson) :
    ∃ s, Value.jsonObject named = .ok s := by
  have hEach :
      ∀ e ∈ named, ∃ s, e.2.json = .ok s ∧ True := by
    intro e hMem
    rcases hJson e hMem with ⟨s, hValue⟩
    exact ⟨s, hValue, trivial⟩
  have hMembers :
      ∃ ss, Value.jsonEntries named.toEntries = .ok ss ∧
        List.Forall₂ (fun _ _ => True) named ss :=
    exists_members hEach
  rcases hMembers with ⟨ss, hEntries, -⟩
  exact ⟨_, jsonObject_of_members hEntries⟩

end Named

------------------------------------------------------------
-- Lines
------------------------------------------------------------

namespace Record

variable {record : Record}
variable {context : Named}

/- The number of a process is not too long. -/
theorem digitCount_process
    (record : Record) :
    Decimal.digitCount record.process.toNat ≤ Decimal.digitLimit := by
  have hShort : Decimal.digitCount record.process.toNat ≤ 10 :=
    (Decimal.digitCount_le_iff (by decide)).mpr
      (record.process.toNat_lt.trans (by decide))
  exact hShort.trans (by decide)

theorem exists_json_process
    (record : Record) :
    ∃ s, Value.json (.int record.process.toNat) = .ok s := by
  have hShort : Decimal.exceedsLimit record.process.toNat = false :=
    (Decimal.exceedsLimit_eq_false_iff _).mpr record.digitCount_process
  refine ⟨Decimal.integerText record.process.toNat, ?_⟩
  rw [Value.json, Value.jsonInteger, hShort]
  rfl

/- A record with a moment and a text has fields that can be written. -/
theorem exists_fields
    (hMoment : ∃ m, Clock.moment record.created = .ok m)
    (hText : ∃ t, record.text = .ok t)
    (hFailure : record.failure = none)
    (hContext : context.IsOfStrings) :
    ∃ named, record.fields context = .ok named ∧ named.IsJson := by
  rcases hMoment with ⟨m, hMoment⟩
  rcases hText with ⟨t, hText⟩
  unfold fields
  rw [hMoment, hText, hFailure]
  refine ⟨_, rfl, Named.IsJson.bindAll ?_ hContext⟩
  intro e hMem
  simp only [List.mem_cons, List.not_mem_nil, or_false] at hMem
  rcases hMem with rfl | rfl | rfl | rfl | rfl
  · exact ⟨_, rfl⟩
  · exact ⟨_, rfl⟩
  · exact ⟨_, rfl⟩
  · exact record.exists_json_process
  · exact ⟨_, rfl⟩

/- A record with a moment and a text has a line in every layout. -/
theorem exists_line
    (hMoment : ∃ m, Clock.moment record.created = .ok m)
    (hText : ∃ t, record.text = .ok t)
    (hFailure : record.failure = none)
    (hContext : context.IsOfStrings)
    (layout : Layout) :
    ∃ line, record.line layout context = .ok line := by
  unfold line
  split
  · rcases exists_fields hMoment hText hFailure hContext with
      ⟨named, hFields, hJson⟩
    rcases hJson.exists_object with ⟨s, hObject⟩
    refine ⟨.ofString s, ?_⟩
    rw [jsonLine, hFields, Outcome.ok_bind, hObject]
    rfl
  · rcases hMoment with ⟨m, hMoment⟩
    rcases hText with ⟨t, hText⟩
    rcases exists_contextWords hContext with ⟨words, hWords⟩
    unfold humanLine
    rw [hMoment, hWords, hText]
    exact ⟨_, rfl⟩

end Record

end Joinery
