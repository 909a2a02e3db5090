import Joinery.Proofs.Log.History
import Joinery.Proofs.Text.Letters

/-
  The context is the net effect of its history. A name is in
  it if it has been bound since it was last taken out, with
  the value that it was last bound to; and the names are in
  the order in which they were first bound since then. The
  lines for people show just that.

  Key definitions include:
    * `ContextEvent`
    * `World.contextHistory`
    * `Stands`
    * `IsLatest`
    * `IsEarliest`
    * `IsNetOf`
    * `Record.IsHumanLine`

  Key theorems include:
    * `IsNetOf.concat`
    * `IsNetOf.unique`
    * `World.takesAll_context`
    * `Record.humanLine_eq_ok_iff`
    * `Logbook.pop_push`
    * `World.context_isNet`
-/

namespace Joinery

------------------------------------------------------------
-- Events
------------------------------------------------------------

/-
  What happens to a context: a name is bound to a value, or
  names are taken out, all of them if none are given.
-/
inductive ContextEvent where
  | bind
      (name : Text)
      (value : Value)
  | drop
      (names : Option (List Text))

namespace ContextEvent

/- A name is bound by an event. -/
def Binds
    (name : Text) : ContextEvent → Prop
  | bind other _ => other = name
  | drop _ => False

/- A name is taken out by an event, if it is there. -/
def drops
    (name : Text) : ContextEvent → Bool
  | bind _ _ => false
  | drop none => true
  | drop (some names) => names.contains name

/- The context after an event. -/
def applied
    (context : Named) : ContextEvent → Named
  | bind name value => context.bind name value
  | drop names =>
      List.filter (fun e => !(drop names).drops e.1) context

end ContextEvent

/- Values that are pushed are bound one by one. -/
def Named.events
    (values : Named) : List ContextEvent :=
  values.map fun e => .bind e.1 e.2

namespace World

/-
  The events that a step is for the context. A setup pushes
  its context, unless it fails.
-/
def contextEvents
    (world : World) : LogStep → List ContextEvent
  | .push values => values.events
  | .pop names => [.drop names]
  | .setUp setup =>
      match (Run.setUpLog setup world).1 with
      | .ok _ => setup.context.events
      | .error _ => []
  | .log _ _ _ _ => []
  | .wait _ => []

/- The events of some steps, one step after the other. -/
def contextHistory
    (world : World) : List LogStep → List ContextEvent
  | [] => []
  | step :: rest =>
      world.contextEvents step ++ (world.takes step).contextHistory rest

end World

------------------------------------------------------------
-- Net Effects
------------------------------------------------------------

/-
  At some point of a history a name is bound. `IsAt` holds of
  the events before it and of the value, and `IsAfter` of
  each event after it.
-/
def IsBound
    (history : List ContextEvent)
    (name : Text)
    (IsAt : List ContextEvent → Value → Prop)
    (IsAfter : ContextEvent → Prop) : Prop :=
  ∃ before value after,
    history = before ++ .bind name value :: after ∧
      IsAt before value ∧ ∀ e ∈ after, IsAfter e

/- A name has been bound, and not been taken out since. -/
def Stands
    (history : List ContextEvent)
    (name : Text) : Prop :=
  IsBound history name (fun _ _ => True) fun e => e.drops name = false

/- A name stands, and this is the value that it was last bound to. -/
def IsLatest
    (history : List ContextEvent)
    (name : Text)
    (value : Value) : Prop :=
  IsBound history name (fun _ bound => bound = value) fun e =>
    e.drops name = false ∧ ¬ e.Binds name

/-
  A name stands, and it was bound behind so many events when
  it did not stand yet.
-/
def IsEarliest
    (history : List ContextEvent)
    (name : Text)
    (place : Nat) : Prop :=
  IsBound history name
    (fun before _ => before.length = place ∧ ¬ Stands before name)
    fun e => e.drops name = false

/- Of two names that stand, one was bound first before the other was. -/
def IsBoundBefore
    (history : List ContextEvent)
    (a b : Text) : Prop :=
  ∃ p q, IsEarliest history a p ∧ IsEarliest history b q ∧ p < q

/- A context is the net effect of a history. -/
structure IsNetOf
    (history : List ContextEvent)
    (context : Named) : Prop where
  distinct : context.AreDistinct
  members :
    ∀ name, name ∈ context.map (·.1) ↔ Stands history name
  values :
    ∀ name value,
      context.get? name = some value ↔ IsLatest history name value
  order : (context.map (·.1)).Pairwise (IsBoundBefore history)

------------------------------------------------------------
-- One More Event
------------------------------------------------------------

section

variable {history : List ContextEvent}
variable {event : ContextEvent}
variable {name : Text}

/- The last event of a history is the point, or comes after it. -/
theorem isBound_concat
    {IsAt : List ContextEvent → Value → Prop}
    {IsAfter : ContextEvent → Prop} :
    IsBound (history ++ [event]) name IsAt IsAfter ↔
      (∃ value, event = .bind name value ∧ IsAt history value) ∨
        (IsBound history name IsAt IsAfter ∧ IsAfter event) := by
  constructor
  · rintro ⟨before, value, after, hSplit, hAt, hAfter⟩
    rcases List.eq_nil_or_concat after with rfl | ⟨others, last, rfl⟩
    · rcases List.append_inj' hSplit rfl with ⟨rfl, hLast⟩
      exact Or.inl ⟨value, (List.cons.inj hLast).1, hAt⟩
    · rw [List.concat_eq_append] at hSplit hAfter
      rw [← List.cons_append, ← List.append_assoc] at hSplit
      rcases List.append_inj' hSplit rfl with ⟨hFront, hLast⟩
      cases hLast
      refine Or.inr ⟨⟨before, value, others, hFront, hAt, ?_⟩, ?_⟩
      · exact fun e hMem => hAfter e (List.mem_append_left _ hMem)
      · exact hAfter event (List.mem_append_right _ (List.mem_cons_self ..))
  · rintro (⟨value, rfl, hAt⟩ |
      ⟨⟨before, value, after, rfl, hAt, hAfter⟩, hEvent⟩)
    · exact ⟨history, value, [], rfl, hAt, List.forall_mem_nil _⟩
    · refine ⟨before, value, after ++ [event], ?_, hAt, ?_⟩
      · rw [List.append_assoc, List.cons_append]
      · exact List.forall_mem_append.mpr
          ⟨hAfter, List.forall_mem_singleton.mpr hEvent⟩

/- What is bound first stands. -/
theorem IsEarliest.stands
    {place : Nat}
    (hEarliest : IsEarliest history name place) :
    Stands history name := by
  rcases hEarliest with ⟨before, value, after, hSplit, -, hAfter⟩
  exact ⟨before, value, after, hSplit, trivial, hAfter⟩

theorem IsEarliest.lt_length
    {place : Nat}
    (hEarliest : IsEarliest history name place) :
    place < history.length := by
  rcases hEarliest with ⟨before, value, after, rfl, ⟨rfl, -⟩, -⟩
  rw [List.length_append, List.length_cons]
  omega

/- It has one place only. -/
theorem IsEarliest.unique
    {p q : Nat}
    (hFirst : IsEarliest history name p)
    (hSecond : IsEarliest history name q) :
    p = q := by
  induction history using List.reverseRecOn with
  | nil => exact absurd hFirst.lt_length (Nat.not_lt_zero p)
  | append_singleton history event ih =>
      rcases isBound_concat.mp hFirst with
        ⟨_, -, hPlace, hNew⟩ | ⟨hFirst, -⟩
      · rcases isBound_concat.mp hSecond with
          ⟨_, -, hOther, -⟩ | ⟨hSecond, -⟩
        · exact hPlace.symm.trans hOther
        · exact absurd (IsEarliest.stands hSecond) hNew
      · rcases isBound_concat.mp hSecond with
          ⟨_, -, -, hNew⟩ | ⟨hSecond, -⟩
        · exact absurd (IsEarliest.stands hFirst) hNew
        · exact ih hFirst hSecond

/- A name that does not stand is bound first by the last event. -/
theorem isEarliest_of_new
    (hNew : ¬ Stands history name)
    (value : Value) :
    IsEarliest (history ++ [.bind name value]) name history.length :=
  isBound_concat.mpr (Or.inl ⟨value, rfl, rfl, hNew⟩)

/- What stands has been bound first somewhere. -/
theorem Stands.exists_isEarliest
    (hStands : Stands history name) :
    ∃ place, IsEarliest history name place := by
  induction history using List.reverseRecOn with
  | nil =>
      rcases hStands with ⟨before, value, after, hSplit, -, -⟩
      exact absurd hSplit.symm (List.append_ne_nil_of_right_ne_nil _
        (List.cons_ne_nil _ _))
  | append_singleton history event ih =>
      by_cases hBefore :
          Stands history name ∧ event.drops name = false
      · rcases ih hBefore.1 with ⟨place, hEarliest⟩
        exact ⟨place, isBound_concat.mpr (Or.inr ⟨hEarliest, hBefore.2⟩)⟩
      · rcases isBound_concat.mp hStands with
          ⟨value, rfl, -⟩ | ⟨hOld, hKept⟩
        · have hNew : ¬ Stands history name :=
            fun hOld => hBefore ⟨hOld, rfl⟩
          exact ⟨history.length, isEarliest_of_new hNew value⟩
        · exact absurd ⟨hOld, hKept⟩ hBefore

/- What is bound stands, and so does what stood before. -/
theorem stands_bind_iff
    {other : Text}
    {value : Value} :
    Stands (history ++ [.bind name value]) other ↔
      name = other ∨ Stands history other := by
  refine isBound_concat.trans (or_congr ?_ (and_iff_left rfl))
  exact ⟨fun ⟨_, hSame, _⟩ => (ContextEvent.bind.inj hSame).1,
    fun hSame => ⟨value, hSame ▸ rfl, trivial⟩⟩

/- What is bound is latest, and other names are as they were. -/
theorem isLatest_bind_iff
    {other : Text}
    {value bound : Value} :
    IsLatest (history ++ [.bind name value]) other bound ↔
      (name = other ∧ value = bound) ∨
        (IsLatest history other bound ∧ ¬ name = other) := by
  refine isBound_concat.trans (or_congr ?_ ?_)
  · constructor
    · rintro ⟨_, hSame, rfl⟩
      exact ContextEvent.bind.inj hSame
    · rintro ⟨rfl, rfl⟩
      exact ⟨_, rfl, rfl⟩
  · exact and_congr_right fun _ => and_iff_right rfl

/- What stands was bound first where it was before. -/
theorem IsEarliest.bind
    {other : Text}
    {place : Nat}
    (hEarliest : IsEarliest history other place)
    (name : Text)
    (value : Value) :
    IsEarliest (history ++ [.bind name value]) other place :=
  isBound_concat.mpr (Or.inr ⟨hEarliest, rfl⟩)

variable {context : Named}

/- A name that is bound is as last bound, and last if it is new. -/
theorem IsNetOf.bind
    (hNet : IsNetOf history context)
    (name : Text)
    (value : Value) :
    IsNetOf (history ++ [.bind name value])
      (context.bind name value) where
  distinct := hNet.distinct.bind name value
  members other := by
    rw [stands_bind_iff, ← hNet.members, Named.map_bind]
    by_cases hOld : name ∈ context.map (·.1)
    · rw [if_pos hOld]
      refine ⟨Or.inr, fun hEither => ?_⟩
      rcases hEither with rfl | hMem
      · exact hOld
      · exact hMem
    · rw [if_neg hOld, List.mem_append, List.mem_singleton, or_comm,
        eq_comm]
  values other bound := by
    rw [isLatest_bind_iff, ← hNet.values, Named.get?_bind]
    by_cases hSame : other = name
    · rw [if_pos hSame, Option.some_inj]
      simp [hSame]
    · rw [if_neg hSame]
      simp [Ne.symm hSame]
  order := by
    have hOld :
        (context.map (·.1)).Pairwise
          (IsBoundBefore (history ++ [.bind name value])) :=
      hNet.order.imp fun ⟨p, q, hFirst, hSecond, hLess⟩ =>
        ⟨p, q, hFirst.bind name value, hSecond.bind name value, hLess⟩
    rw [Named.map_bind]
    split
    · exact hOld
    · rename_i hNew
      refine List.pairwise_append.mpr
        ⟨hOld, List.pairwise_singleton _ _, fun other hMem last hLast => ?_⟩
      rw [List.mem_singleton.mp hLast]
      rcases ((hNet.members other).mp hMem).exists_isEarliest with
        ⟨place, hEarliest⟩
      have hFresh := isEarliest_of_new (mt (hNet.members name).mpr hNew) value
      exact ⟨place, history.length, hEarliest.bind name value, hFresh,
        hEarliest.lt_length⟩

/- Names that are taken out are gone, and the others are as before. -/
theorem IsNetOf.drop
    (hNet : IsNetOf history context)
    (names : Option (List Text)) :
    IsNetOf (history ++ [.drop names])
      (ContextEvent.applied context (.drop names)) := by
  have hBound :
      ∀ (name : Text) (IsAt : List ContextEvent → Value → Prop)
        (IsAfter : ContextEvent → Prop),
        IsBound (history ++ [.drop names]) name IsAt IsAfter ↔
          IsBound history name IsAt IsAfter ∧ IsAfter (.drop names) := by
    intro name IsAt IsAfter
    refine isBound_concat.trans (or_iff_right ?_)
    rintro ⟨_, hSame, -⟩
    cases hSame
  have hNames :
      (ContextEvent.applied context (.drop names)).map (·.1) =
        (context.map (·.1)).filter fun name =>
          !(ContextEvent.drop names).drops name := by
    rw [ContextEvent.applied, List.filter_map]
    rfl
  refine ⟨hNet.distinct.filter _, fun name => ?_, fun name value => ?_, ?_⟩
  · rw [hNames, List.mem_filter, Bool.not_eq_true', hNet.members]
    exact (hBound _ _ _).symm
  · have hLatest :
        IsLatest (history ++ [.drop names]) name value ↔
          IsLatest history name value ∧
            (ContextEvent.drop names).drops name = false :=
      (hBound _ _ _).trans
        (and_congr_right fun _ => and_iff_left id)
    rw [hLatest, ← hNet.values, ContextEvent.applied,
      Named.get?_filter context
        fun name => !(ContextEvent.drop names).drops name]
    cases (ContextEvent.drop names).drops name <;> simp
  · rw [hNames, List.pairwise_filter]
    refine hNet.order.imp fun ⟨p, q, hFirst, hSecond, hLess⟩ hA hB => ?_
    rw [Bool.not_eq_true'] at hA hB
    exact ⟨p, q, (hBound _ _ _).mpr ⟨hFirst, hA⟩,
      (hBound _ _ _).mpr ⟨hSecond, hB⟩, hLess⟩

/- So the net effect is kept by every event. -/
theorem IsNetOf.concat
    (hNet : IsNetOf history context)
    (event : ContextEvent) :
    IsNetOf (history ++ [event]) (event.applied context) := by
  cases event with
  | bind name value => exact hNet.bind name value
  | drop names => exact hNet.drop names

end

/- A history has one net effect only. -/
theorem IsNetOf.unique
    {history : List ContextEvent}
    {a b : Named}
    (hFirst : IsNetOf history a)
    (hSecond : IsNetOf history b) :
    a = b := by
  refine hFirst.distinct.eq_of_get? hSecond.distinct ?_ fun name => ?_
  · have hPerm : List.Perm (a.map (·.1)) (b.map (·.1)) :=
      (List.perm_ext_iff_of_nodup hFirst.distinct hSecond.distinct).mpr
        fun name =>
          (hFirst.members name).trans (hSecond.members name).symm
    refine hPerm.eq_of_pairwise ?_ hFirst.order hSecond.order
    rintro n m - - ⟨p, q, hN, hM, hLess⟩ ⟨r, s, hM', hN', hMore⟩
    have hLeft := hN.unique hN'
    have hRight := hM.unique hM'
    omega
  · ext value
    exact (hFirst.values name value).trans (hSecond.values name value).symm

/- After any events, nothing but their net effect is left. -/
theorem isNetOf_foldl
    (history : List ContextEvent) :
    IsNetOf history (history.foldl ContextEvent.applied []) := by
  induction history using List.reverseRecOn with
  | nil =>
      have hNone :
          ∀ {name : Text} {IsAt : List ContextEvent → Value → Prop}
            {IsAfter : ContextEvent → Prop},
            ¬ IsBound [] name IsAt IsAfter := by
        rintro name IsAt IsAfter ⟨before, value, after, hSplit, -, -⟩
        exact absurd hSplit.symm (List.append_ne_nil_of_right_ne_nil _
          (List.cons_ne_nil _ _))
      exact ⟨List.nodup_nil, fun name => iff_of_false List.not_mem_nil hNone,
        fun name value => iff_of_false nofun hNone, List.Pairwise.nil⟩
  | append_singleton history event ih =>
      rw [List.foldl_concat]
      exact ih.concat event

------------------------------------------------------------
-- The Events Of A Run
------------------------------------------------------------

/- To push values is to bind them one by one. -/
theorem Logbook.push_context
    (book : Logbook)
    (values : Named) :
    (book.push values).context =
      values.events.foldl ContextEvent.applied book.context := by
  rw [Named.events, List.foldl_map]
  rfl

theorem Logbook.pop_context
    (book : Logbook)
    (names : Option (List Text)) :
    (book.pop names).context =
      ContextEvent.applied book.context (.drop names) := by
  cases names with
  | none =>
      rw [ContextEvent.applied]
      exact (List.filter_eq_nil_iff.mpr fun e _ => Bool.false_ne_true).symm
  | some names => rfl

namespace World

/- A setup pushes its context if it succeeds, and nothing if it fails. -/
theorem setUp_context
    (world : World)
    (setup : LogSetup) :
    (Run.setUpLog setup world).2.log.context =
      (world.contextEvents (.setUp setup)).foldl
        ContextEvent.applied world.log.context := by
  rw [contextEvents]
  cases hLevel : Level.ofValue setup.level with
  | error fault =>
      rw [Run.setUpLog_of_unknown hLevel]
      rfl
  | ok level =>
      have hContext :
          ∀ log?,
            (((world.log.clear level).withConsole setup
                world.terminal).withFile setup log?).context =
              world.log.context := by
        intro log?
        rw [Logbook.withFile_withConsole]
        rfl
      rw [Run.setUpLog_of_known hLevel]
      rcases Disk.openLog setup.file world.tree with ⟨outcome, tree⟩
      cases outcome with
      | error fault => exact hContext none
      | ok log? =>
          dsimp only
          rw [Logbook.push_context, hContext log?]

/- What a step does to the context is what its events do. -/
theorem takes_context
    (world : World)
    (step : LogStep) :
    (world.takes step).log.context =
      (world.contextEvents step).foldl
        ContextEvent.applied world.log.context := by
  cases step with
  | setUp setup => exact world.setUp_context setup
  | push values => exact world.log.push_context values
  | pop names => exact world.log.pop_context names
  | log name level message args =>
      exact congrArg Logbook.context (record_log world _)
  | wait now => rfl

theorem takesAll_context
    (world : World)
    (steps : List LogStep) :
    (world.takesAll steps).log.context =
      (world.contextHistory steps).foldl
        ContextEvent.applied world.log.context := by
  induction steps generalizing world with
  | nil => rfl
  | cons step rest ih =>
      rw [contextHistory, List.foldl_append, ← takes_context]
      exact ih (world.takes step)

end World

------------------------------------------------------------
-- Lines For People
------------------------------------------------------------

namespace Record

/- Words show a context: each name with the text of its value. -/
def AreWords
    (context : Named)
    (words : List Text) : Prop :=
  List.Forall₂
    (fun (e : Text × Value) (word : Text) =>
      ∃ shown, e.2.written = .ok shown ∧ word = e.1 ++ "=" ++ shown)
    context words

/- The words of a context are those that show it. -/
theorem contextWords_eq_ok_iff
    {context : Named}
    {words : List Text} :
    contextWords context = .ok words ↔ AreWords context words := by
  have hWord :
      ∀ (e : Text × Value) (word : Text),
        (do
          let shown ← e.2.written
          return e.1 ++ "=" ++ shown : Outcome Text) = .ok word ↔
          ∃ shown, e.2.written = .ok shown ∧
            word = e.1 ++ "=" ++ shown := by
    intro e word
    rw [Outcome.bind_eq_ok_iff]
    refine exists_congr fun shown => and_congr_right fun _ => ?_
    rw [Outcome.pure_eq_ok_iff]
    exact eq_comm
  rw [contextWords, Outcome.mapM_eq_ok_iff]
  exact
    ⟨fun hEach => hEach.imp fun e word => (hWord e word).mp,
      fun hEach => hEach.imp fun e word => (hWord e word).mpr⟩

/- A line for people begins with the time and the level. -/
def front
    (r : Record)
    (colour : Bool)
    (moment : Moment) : Text :=
  Clock.humanText moment ++ " | " ++
    levelText colour (Level.name r.level) ++ " | "

/- The part of a line that shows the context, if there is one. -/
def contextPart : List Text → Text
  | [] => { }
  | words => Text.joined " " words ++ " | "

/- A failure is told below a line. -/
def failurePart
    (r : Record) : Text :=
  match r.failure with
  | some failure => "\n" ++ failure
  | none => { }

/-
  The line of a record for people: the context is shown by
  its words, between the level and the message, and not at
  all if it is empty.
-/
def IsHumanLine
    (r : Record)
    (colour : Bool)
    (context : Named)
    (line : Text) : Prop :=
  ∃ moment words message,
    Clock.moment r.created = .ok moment ∧ AreWords context words ∧
      r.text = .ok message ∧
      line =
        r.front colour moment ++ contextPart words ++ message ++
          r.failurePart

/- Words that show a context are not empty when they are joined. -/
theorem AreWords.joined_isEmpty
    {context : Named}
    {words : List Text}
    (hWords : AreWords context words) :
    (Text.joined " " words).isEmpty = words.isEmpty := by
  cases hWords with
  | nil => rfl
  | @cons e word rest others hWord hOthers =>
      rcases hWord with ⟨shown, -, rfl⟩
      rw [List.isEmpty_cons, Bool.eq_false_iff]
      intro hEmpty
      rw [Text.isEmpty_iff, Text.letters_joined] at hEmpty
      cases others <;> simp [List.intercalate] at hEmpty

/- The parts of a line are put together with bars between them. -/
theorem joined_parts
    {context : Named}
    {words : List Text}
    (hWords : AreWords context words)
    (time level : String)
    (message : Text) :
    Text.joined " "
        ([(time : Text), "|", (level : Text), "|"] ++
          (if (Text.joined " " words).isEmpty then []
            else [Text.joined " " words ++ " |"]) ++ [message]) =
      (time ++ " | " ++ level ++ " | " : String) ++ contextPart words ++
        message := by
  refine Text.letters_injective ?_
  rw [hWords.joined_isEmpty]
  cases words with
  | nil =>
      simp [Text.letters_joined, List.intercalate, contextPart]
  | cons word others =>
      simp [Text.letters_joined, List.intercalate, contextPart]

/- A failure comes below them. -/
theorem told_parts
    (r : Record)
    (colour : Bool)
    (moment : Moment)
    (message : Text)
    {context : Named}
    {words : List Text}
    (hWords : AreWords context words) :
    (let words := Text.joined " " words
      let middle := if words.isEmpty then [] else [words ++ " |"]
      let before : List Text :=
        [Clock.humanText moment, "|", levelText colour (Level.name r.level),
          "|"]
      let line := Text.joined " " (before ++ middle ++ [message])
      match r.failure with
      | some failure => line ++ "\n" ++ failure
      | none => line) =
      r.front colour moment ++ contextPart words ++ message ++
        r.failurePart := by
  dsimp only
  rw [joined_parts hWords, failurePart]
  cases r.failure with
  | none => exact (Text.append_empty _).symm
  | some failure => exact Text.append_assoc _ _ _

/- A record has such a line if it has any. -/
theorem humanLine_eq_ok_iff
    (r : Record)
    (colour : Bool)
    (context : Named)
    (line : Text) :
    r.humanLine colour context = .ok line ↔
      r.IsHumanLine colour context line := by
  unfold humanLine IsHumanLine
  simp only [Outcome.bind_eq_ok_iff, contextWords_eq_ok_iff,
    Outcome.pure_eq_ok_iff]
  constructor
  · rintro ⟨moment, hMoment, words, hWords, message, hText, rfl⟩
    exact ⟨moment, words, message, hMoment, hWords, hText,
      told_parts r colour moment message hWords⟩
  · rintro ⟨moment, words, message, hMoment, hWords, hText, rfl⟩
    exact ⟨moment, hMoment, words, hWords, message, hText,
      told_parts r colour moment message hWords⟩

end Record

------------------------------------------------------------
-- Net Effects Of Runs
------------------------------------------------------------

/- To take out what was not there before it was pushed undoes the push. -/
theorem Logbook.pop_push
    (book : Logbook)
    {values : Named}
    {names : List Text}
    (hNames : ∀ name, name ∈ names ↔ name ∈ values.map (·.1))
    (hNew : ∀ name ∈ names, name ∉ book.context.map (·.1)) :
    ((book.push values).pop (some names)).context = book.context := by
  let keep : Text → Bool := fun name => !names.contains name
  have hOut : ∀ e ∈ values, keep e.1 = false := by
    intro e hMem
    rw [Bool.not_eq_false', List.contains_iff_mem, hNames]
    exact List.mem_map_of_mem hMem
  have hKept : ∀ e ∈ book.context, keep e.1 = true := by
    intro e hMem
    rw [Bool.not_eq_true', Bool.eq_false_iff, Ne, List.contains_iff_mem]
    exact fun hName => hNew e.1 hName (List.mem_map_of_mem hMem)
  exact (Named.filter_bindAll hOut book.context).trans
    (List.filter_eq_self.mpr hKept)

namespace World

/-
  Whatever is done to logging: the context is the net effect
  of what was pushed and popped, a line for people shows just
  the context, and to pop what was new when it was pushed
  brings the context back.
-/
theorem context_isNet
    {world : World}
    (hNone : world.log.context = [])
    (steps : List LogStep) :
    let reached := world.takesAll steps
    IsNetOf (world.contextHistory steps) reached.log.context ∧
      (∀ (r : Record) (colour : Bool) (line : Text),
        r.humanLine colour reached.log.context = .ok line ↔
          r.IsHumanLine colour reached.log.context line) ∧
      ∀ (values : Named) (names : List Text),
        (∀ name, name ∈ names ↔ name ∈ values.map (·.1)) →
        (∀ name ∈ names, name ∉ reached.log.context.map (·.1)) →
          (reached.takesAll
            [.push values, .pop (some names)]).log.context =
              reached.log.context := by
  intro reached
  refine ⟨?_, fun r colour line => r.humanLine_eq_ok_iff colour _ line,
    fun values names hNames hNew => ?_⟩
  · have hContext := world.takesAll_context steps
    rw [hNone] at hContext
    rw [hContext]
    exact isNetOf_foldl _
  · exact reached.log.pop_push hNames hNew

/-
  A name is pushed again, one is popped and pushed again, and
  of two setups the first fails.
-/
def shiftSession : List LogStep :=
  [ .push [("job", .int 1), ("tool", .int 2)],
    .push [("job", .int 3)],
    .pop (some ["tool", "axis"]),
    .setUp { level := .text "LOUD", context := [("axis", .int 4)] },
    .setUp { context := [("part", .int 5), ("job", .int 6)] },
    .push [("tool", .int 7)] ]

theorem shiftSession_isNet :
    let world := Command.bareWorld
    let reached := world.takesAll shiftSession
    world.log.context = [] ∧
      reached.log.context.map (·.1) = ["job", "part", "tool"] ∧
      IsNetOf (world.contextHistory shiftSession) reached.log.context ∧
      (reached.takesAll
        [.push [("axis", .int 8)], .pop (some ["axis"])]).log.context =
          reached.log.context := by
  intro world reached
  have hNone : world.log.context = [] := rfl
  have hNames :
      reached.log.context.map (·.1) = ["job", "part", "tool"] := by
    decide +kernel
  rcases context_isNet hNone shiftSession with ⟨hNet, -, hUndone⟩
  refine ⟨hNone, hNames, hNet, hUndone _ _ (fun name => Iff.rfl) ?_⟩
  rw [hNames]
  decide

end World

end Joinery
