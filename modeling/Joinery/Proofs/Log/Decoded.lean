import Joinery.Proofs.Json.Objects
import Joinery.Proofs.Log.History

/-
  What a record says and what was pushed is read back from
  its line for machines.

  The context holds what was pushed last under each name and
  not taken out since. A line is an object of the record's
  own fields, of the context, and of the failure; a later
  field takes the place of an earlier one with its name.

  Key definitions include:
    * `LogStep.IsPlain`
    * `lastPushed`
    * `World.HasPushed`
    * `Record.IsToldBy`

  Key theorems include:
    * `World.HasPushed.takes`
    * `World.takesAll_hasPushed`
    * `Record.fields_eq`
    * `World.jsonLine_reads`
-/

namespace Joinery

------------------------------------------------------------
-- Pushed Values
------------------------------------------------------------

namespace LogStep

/- Scalars are pushed; nothing is set up. -/
def IsPlain : LogStep → Prop
  | setUp _ => False
  | push values => values.AreScalars
  | _ => True

/- The value under a name after a step, from the value before it. -/
def given
    (name : Text)
    (found : Option Value) : LogStep → Option Value
  | push values => (values.reverse.lookup name).or found
  | pop none => none
  | pop (some names) => if names.contains name then none else found
  | _ => found

end LogStep

/- The last value that was pushed under a name and not taken out since. -/
def lastPushed
    (steps : List LogStep)
    (name : Text) : Option Value :=
  steps.foldl (fun found step => step.given name found) none

namespace World

/- The context is one of scalars under names that differ. -/
structure HasPushed
    (world : World)
    (pushed : Text → Option Value) : Prop where
  distinct : world.log.context.AreDistinct
  scalars : world.log.context.AreScalars
  values : ∀ name, world.log.context.get? name = pushed name

variable {world : World}
variable {pushed : Text → Option Value}

/- Each step gives the names what it pushes, and no more. -/
theorem HasPushed.takes
    (hPushed : world.HasPushed pushed)
    {step : LogStep}
    (hPlain : step.IsPlain) :
    (world.takes step).HasPushed
      (fun name => step.given name (pushed name)) := by
  cases step with
  | setUp setup => exact hPlain.elim
  | push values =>
      refine ⟨hPushed.distinct.bindAll values,
        hPushed.scalars.bindAll hPlain, fun name => ?_⟩
      rw [LogStep.given, ← hPushed.values]
      exact Named.get?_bindAll _ values name
  | pop names =>
      cases names with
      | none =>
          exact ⟨List.nodup_nil, List.forall_mem_nil _, fun name => rfl⟩
      | some names =>
          refine ⟨hPushed.distinct.filter _, fun e hMem =>
            hPushed.scalars e (List.mem_of_mem_filter hMem), fun name => ?_⟩
          rw [LogStep.given, ← hPushed.values]
          refine (Named.get?_filter _ (fun n => !names.contains n) name).trans
            ?_
          cases names.contains name <;> rfl
  | wait now => exact ⟨hPushed.distinct, hPushed.scalars, hPushed.values⟩
  | log name level message args =>
      have hLog :
          (world.takes (.log name level message args)).log = world.log :=
        record_log world _
      refine ⟨?_, ?_, fun other => ?_⟩
      · rw [hLog]
        exact hPushed.distinct
      · rw [hLog]
        exact hPushed.scalars
      · rw [hLog]
        exact hPushed.values other

/- After a run of steps, the context is what they have pushed. -/
theorem takesAll_hasPushed
    (hNone : world.log.context = [])
    {steps : List LogStep}
    (hPlain : ∀ step ∈ steps, step.IsPlain) :
    (world.takesAll steps).HasPushed (lastPushed steps) := by
  induction steps using List.reverseRecOn with
  | nil =>
      refine ⟨?_, ?_, fun name => ?_⟩
      all_goals rw [takesAll, List.foldl_nil, hNone]
      · exact List.nodup_nil
      · exact List.forall_mem_nil _
      · rfl
  | append_singleton steps step ih =>
      have hBefore := ih fun other hMem =>
        hPlain other (List.mem_append_left _ hMem)
      have hStep := hPlain step (List.mem_append_right _ (by simp))
      have hLast :
          lastPushed (steps ++ [step]) =
            fun name => step.given name (lastPushed steps name) := by
        funext name
        rw [lastPushed, List.foldl_concat]
        rfl
      rw [takesAll, List.foldl_concat, hLast]
      exact hBefore.takes hStep

end World

------------------------------------------------------------
-- Fields
------------------------------------------------------------

namespace Record

/- The fields that every record has. -/
def ownFields
    (record : Record)
    (message : Text)
    (moment : Moment) : Named :=
  [ ("t", .text (Clock.machineText moment)),
    ("lvl", .text (Level.name record.level)), ("name", .text record.name),
    ("pid", .int record.process.toNat), ("msg", .text message) ]

/- The field of a failure, if a record tells one. -/
def failureField
    (record : Record) : Named :=
  match record.failure with
  | some failure => [("exc", .text failure)]
  | none => []

variable {record : Record}
variable {context : Named}
variable {message : Text}
variable {moment : Moment}

/- All fields of a record, the failure last. -/
def allFields
    (record : Record)
    (message : Text)
    (moment : Moment)
    (context : Named) : Named :=
  (context ++ record.failureField).foldl (fun acc e => acc.bind e.1 e.2)
    (record.ownFields message moment)

theorem fields_eq
    (hMoment : Clock.moment record.created = .ok moment)
    (hMessage : record.text = .ok message) :
    record.fields context =
      .ok (record.allFields message moment context) := by
  rw [fields, hMoment, hMessage, allFields, failureField,
    List.foldl_append]
  cases record.failure <;> rfl

theorem ownFields_distinct
    (record : Record)
    (message : Text)
    (moment : Moment) :
    (record.ownFields message moment).AreDistinct := by
  change List.Nodup (["t", "lvl", "name", "pid", "msg"] : List Text)
  decide

theorem ownFields_scalars
    (record : Record)
    (message : Text)
    (moment : Moment) :
    (record.ownFields message moment).AreScalars := by
  have hProcess : (Value.int record.process.toNat).IsScalar :=
    record.digitCount_process
  intro e hMem
  simp only [ownFields, List.mem_cons, List.not_mem_nil, or_false] at hMem
  rcases hMem with rfl | rfl | rfl | rfl | rfl
  · trivial
  · trivial
  · trivial
  · exact hProcess
  · trivial

theorem failureField_scalars
    (record : Record) :
    record.failureField.AreScalars := by
  rw [failureField]
  cases record.failure with
  | none => exact List.forall_mem_nil _
  | some failure => exact List.forall_mem_singleton.mpr trivial

theorem failureField_distinct
    (record : Record) :
    record.failureField.AreDistinct := by
  rw [failureField]
  cases record.failure with
  | none => exact List.nodup_nil
  | some failure => exact List.nodup_singleton _

theorem allFields_distinct :
    (record.allFields message moment context).AreDistinct :=
  (ownFields_distinct record message moment).bindAll _

theorem allFields_scalars
    (record : Record)
    (message : Text)
    (moment : Moment)
    (hContext : context.AreScalars) :
    (record.allFields message moment context).AreScalars :=
  (ownFields_scalars record message moment).bindAll
    (List.forall_mem_append.mpr ⟨hContext, failureField_scalars record⟩)

/- The failure is told under its name, and under no other one. -/
theorem get?_failureField
    (record : Record)
    (name : Text) :
    record.failureField.get? name =
      if name = "exc" then
        record.failure.map fun failure => .text failure
      else none := by
  rw [failureField]
  cases record.failure with
  | none => exact (ite_self _).symm
  | some failure => exact Named.get?_bind [] "exc" name _

/- A field is that of the failure, of the context, or the record's own. -/
theorem get?_allFields
    (hDistinct : context.AreDistinct)
    (name : Text) :
    (record.allFields message moment context).get? name =
      ((record.failureField.get? name).or (context.get? name)).or
        ((record.ownFields message moment).get? name) := by
  rw [allFields, Named.get?_bindAll, List.reverse_append,
    List.lookup_append, hDistinct.lookup_reverse,
    (failureField_distinct record).lookup_reverse]

/- The names of the failure and of a record's own fields are short. -/
theorem exists_short_name
    {e : Text × Value}
    (hMem :
      e ∈ record.failureField ∨
        e ∈ record.ownFields message moment) :
    ∃ s : String, e.1 = s ∧ Json.AreShort s.toList := by
  have hShort :
      ∀ s ∈ ["exc", "t", "lvl", "name", "pid", "msg"],
        Json.AreShort s.toList := by
    decide
  rcases hMem with hFailure | hOwn
  · rw [failureField] at hFailure
    cases hTold : record.failure with
    | none =>
        rw [hTold] at hFailure
        cases hFailure
    | some failure =>
        rw [hTold] at hFailure
        rw [List.mem_singleton.mp hFailure]
        exact ⟨"exc", rfl, hShort _ (by simp)⟩
  · simp only [ownFields, List.mem_cons, List.not_mem_nil,
      or_false] at hOwn
    rcases hOwn with rfl | rfl | rfl | rfl | rfl
    · exact ⟨"t", rfl, hShort _ (by simp)⟩
    · exact ⟨"lvl", rfl, hShort _ (by simp)⟩
    · exact ⟨"name", rfl, hShort _ (by simp)⟩
    · exact ⟨"pid", rfl, hShort _ (by simp)⟩
    · exact ⟨"msg", rfl, hShort _ (by simp)⟩

------------------------------------------------------------
-- Lines
------------------------------------------------------------

/-
  An object tells of a record and of what was pushed, as
  texts are read. A name that was pushed stands for its
  value, but the failure keeps its own name, and two names
  that are read as one may not both have been pushed.
-/
structure IsToldBy
    (record : Record)
    (message : Text)
    (pushed : Text → Option Value)
    (object : Named) : Prop where
  level :
    pushed "lvl" = none →
      object.get? "lvl" = some (.text (Level.name record.level))
  name :
    pushed "name" = none →
      object.get? "name" = some (.text record.name.asRead)
  process :
    pushed "pid" = none →
      object.get? "pid" = some (.int record.process.toNat)
  message :
    pushed "msg" = none →
      object.get? "msg" = some (.text message.asRead)
  failure :
    ∀ failure, record.failure = some failure →
      object.get? "exc" = some (.text failure.asRead)
  pushed :
    ∀ name value, pushed name = some value →
      (name = "exc" → record.failure = none) →
      (∀ other, pushed other ≠ none → other.asRead = name.asRead →
        other = name) →
        object.get? name.asRead = some value.asRead

/- What was not pushed anew is read as the record's own. -/
theorem ownField_read
    (hDistinct : context.AreDistinct)
    {name : String}
    (hShort : Json.AreShort name.toList)
    (hOther : (name : Text) ≠ "exc")
    (hNone : context.get? name = none)
    {value : Value}
    (hOwn : (record.ownFields message moment).get? name = some value) :
    (record.allFields message moment context).asRead.get? name =
      some value.asRead := by
  refine Named.get?_asRead_ofString allFields_distinct hShort ?_
  rw [get?_allFields hDistinct, get?_failureField, if_neg hOther, hNone]
  exact hOwn

/- The failure is read, whatever was pushed. -/
theorem failure_read
    (hDistinct : context.AreDistinct)
    {failure : Text}
    (hFailure : record.failure = some failure) :
    (record.allFields message moment context).asRead.get? "exc" =
      some (.text failure.asRead) := by
  have hFound :
      (record.allFields message moment context).get? "exc" =
        some (.text failure) := by
    rw [get?_allFields hDistinct, get?_failureField, if_pos rfl, hFailure]
    rfl
  exact Named.get?_asRead_ofString allFields_distinct (by decide) hFound

/- What was pushed is read under its name, if it is the only such name. -/
theorem pushed_read
    (hDistinct : context.AreDistinct)
    {name : Text}
    {value : Value}
    (hPushed : context.get? name = some value)
    (hFailure : name = "exc" → record.failure = none)
    (hAlone :
      ∀ other, context.get? other ≠ none → other.asRead = name.asRead →
        other = name) :
    (record.allFields message moment context).asRead.get? name.asRead =
      some value.asRead := by
  have hFound :
      (record.allFields message moment context).get? name =
        some value := by
    rw [get?_allFields hDistinct, get?_failureField, hPushed]
    split
    · rename_i hName
      rw [hFailure hName]
      rfl
    · rfl
  refine Named.get?_asRead allFields_distinct
    ((allFields_distinct.mem_iff _ _).mpr hFound) fun e hMem hSame => ?_
  have hShortName :
      (e ∈ record.failureField ∨ e ∈ record.ownFields message moment) →
        e.1 = name := by
    intro hOwn
    rcases exists_short_name hOwn with ⟨s, hName, hShort⟩
    rw [hName, Text.asRead_ofString] at hSame
    rw [hName, Text.eq_of_asRead hShort hSame.symm]
  rcases Named.mem_bindAll hMem with hLater | hOwn
  · rcases List.mem_append.mp hLater with hContext | hTold
    · refine hAlone e.1 ?_ hSame
      rw [(hDistinct.mem_iff e.1 e.2).mp hContext]
      exact Option.some_ne_none _
    · exact hShortName (Or.inl hTold)
  · exact hShortName (Or.inr hOwn)

/- The object that the fields are read as tells of all of them. -/
theorem isToldBy_allFields
    (record : Record)
    (message : Text)
    (moment : Moment)
    (hDistinct : context.AreDistinct) :
    record.IsToldBy message context.get?
      (record.allFields message moment context).asRead where
  level hNone := by
    have hLevel :
        (record.ownFields message moment).get? ("lvl" : String) =
          some (.text (Level.name record.level)) := rfl
    have hRead :=
      ownField_read hDistinct (by decide) (by decide) hNone hLevel
    rwa [Value.asRead, Text.asRead_ofString] at hRead
  name hNone := by
    have hName :
        (record.ownFields message moment).get? ("name" : String) =
          some (.text record.name) := rfl
    exact ownField_read hDistinct (by decide) (by decide) hNone hName
  process hNone := by
    have hProcess :
        (record.ownFields message moment).get? ("pid" : String) =
          some (.int record.process.toNat) := rfl
    exact ownField_read hDistinct (by decide) (by decide) hNone hProcess
  message hNone := by
    have hMessage :
        (record.ownFields message moment).get? ("msg" : String) =
          some (.text message) := rfl
    exact ownField_read hDistinct (by decide) (by decide) hNone hMessage
  failure _ hFailure := failure_read hDistinct hFailure
  pushed _ _ := pushed_read hDistinct

end Record

------------------------------------------------------------
-- What Is Read
------------------------------------------------------------

/-
  Whatever was pushed and popped: a record that has a text and
  a moment is one line of printable characters, and it is
  read as an object that tells of the record and of all that
  was pushed and not taken out since.
-/
theorem World.jsonLine_reads
    {world : World}
    (hNone : world.log.context = [])
    {steps : List LogStep}
    (hPlain : ∀ step ∈ steps, step.IsPlain)
    {record : Record}
    {message : Text}
    (hMessage : record.text = .ok message)
    (hMoment : ∃ m, Clock.moment record.created = .ok m)
    (colour : Bool) :
    ∃ line : String,
      record.line ⟨true, colour⟩ (world.takesAll steps).log.context =
          .ok line ∧
        Json.IsPrintable line.toList ∧
        ∃ object, Json.object? line.toList = some object ∧
          record.IsToldBy message (lastPushed steps) object := by
  have hPushed := takesAll_hasPushed hNone hPlain
  rcases hMoment with ⟨moment, hMoment⟩
  rcases Json.exists_object
      (record.allFields_scalars message moment hPushed.scalars) with
    ⟨line, hLine, hPrintable, hObject⟩
  have hTold := record.isToldBy_allFields message moment hPushed.distinct
  have hValues :
      (world.takesAll steps).log.context.get? = lastPushed steps :=
    funext hPushed.values
  rw [hValues] at hTold
  refine ⟨line, ?_, hPrintable, _, hObject, hTold⟩
  rw [Record.line, if_pos rfl, Record.jsonLine,
    Record.fields_eq hMoment hMessage, Outcome.ok_bind, hLine]
  rfl

/- Values of three kinds are pushed, one of them anew, and one is popped. -/
def benchSession : List LogStep :=
  [ .push [("job", .text "shelf"), ("depth", .float 0.1)],
    .push [("job", .text "\u00e9tag\u00e8re\n"), ("n", .int 3)],
    .pop (some ["n"]),
    .wait 5.0 ]

/- A record with a quote, an end of line, and a pair in its message. -/
def benchRecord : Record where
  name := "cut.dado"
  level := 25
  message := "\"ready\"\n🪵"
  created := 0.0
  process := 7

theorem benchRecord_reads :
    ∃ line : String,
      benchRecord.line ⟨true, false⟩
            (Command.bareWorld.takesAll benchSession).log.context =
          .ok line ∧
        Json.IsPrintable line.toList ∧
        ∃ object, Json.object? line.toList = some object ∧
          object.get? "lvl" = some (.text "Level 25") ∧
          object.get? "name" = some (.text "cut.dado") ∧
          object.get? "pid" = some (.int 7) ∧
          object.get? "msg" = some (.text benchRecord.message) ∧
          object.get? "job" = some (.text "\u00e9tag\u00e8re\n") ∧
          object.get? "depth" = some (.float 0.1) := by
  have hPlain : ∀ step ∈ benchSession, step.IsPlain := by
    have hInteger : (Value.int 3).IsScalar := by
      change Decimal.digitCount 3 ≤ Decimal.digitLimit
      decide +kernel
    have hFirst :
        Named.AreScalars
          [("job", .text "shelf"), ("depth", .float 0.1)] :=
      List.forall_mem_cons.mpr
        ⟨trivial, List.forall_mem_singleton.mpr trivial⟩
    have hSecond :
        Named.AreScalars
          [("job", .text "\u00e9tag\u00e8re\n"), ("n", .int 3)] :=
      List.forall_mem_cons.mpr
        ⟨trivial, List.forall_mem_singleton.mpr hInteger⟩
    exact List.forall_mem_cons.mpr ⟨hFirst, List.forall_mem_cons.mpr
      ⟨hSecond, List.forall_mem_cons.mpr
        ⟨trivial, List.forall_mem_singleton.mpr trivial⟩⟩⟩
  have hStart :
      ∃ m, Clock.moment Command.bareWorld.now = .ok m :=
    Command.start_moment rfl
  have hMoment : ∃ m, Clock.moment benchRecord.created = .ok m := hStart
  have hNone : Command.bareWorld.log.context = [] := rfl
  have hMessage : benchRecord.text = .ok benchRecord.message := rfl
  rcases World.jsonLine_reads hNone hPlain hMessage hMoment false with
    ⟨line, hLine, hPrintable, object, hObject, hTold⟩
  have hPushed :
      ∀ (name : String) (value : Value),
        Json.AreShort name.toList →
        lastPushed benchSession name = some value →
          object.get? name = some value.asRead := by
    intro name value hShort hLast
    have hRead := hTold.pushed name value hLast (fun _ => rfl)
      fun _ _ hSame =>
        Text.eq_of_asRead hShort (hSame.trans (Text.asRead_ofString name))
    rwa [Text.asRead_ofString] at hRead
  refine ⟨line, hLine, hPrintable, object, hObject, hTold.level rfl, ?_,
    hTold.process rfl, ?_, ?_, ?_⟩
  · rw [hTold.name rfl, benchRecord, Text.asRead_ofString]
  · rw [hTold.message rfl, benchRecord, Text.asRead_ofString]
  · rw [hPushed "job" _ (by decide) rfl, Value.asRead, Text.asRead_ofString]
  · exact hPushed "depth" (.float 0.1) (by decide) rfl

/- What the line of a record is read as, after some steps. -/
def Record.readAfter
    (steps : List LogStep)
    (record : Record) : Option Named :=
  let context := (Command.bareWorld.takesAll steps).log.context
  (record.line ⟨true, false⟩ context).toOption.bind fun line =>
    line.string?.bind fun s => Json.object? s.toList

/- The two halves of a pair, one after the other. -/
def splitLog : Text :=
  .ofLetters
    [.surrogate ⟨⟨0x3e, by decide⟩⟩, .surrogate ⟨⟨0x6b5, by decide⟩⟩]

/- Names of fields are pushed, and the halves of a pair. -/
def clashSession : List LogStep :=
  [ .push
      [("exc", .text "mine"), ("msg", .text "theirs"),
        ("job", .text splitLog)] ]

/- A record with a failure. -/
def clashRecord : Record where
  name := "cut.dado"
  level := 40
  message := "hi"
  failure := some "ValueError: boom"
  created := 0.0
  process := 42

/-
  What was pushed takes the place of the message, and the
  failure that of what was pushed. Two halves are read as a
  pair. There is no line with an integer that is too long,
  for a time beyond the calendar, or for a message that its
  value does not suit.
-/
theorem clashRecord_loses :
    (∃ object, clashRecord.readAfter clashSession = some object ∧
      lastPushed clashSession "exc" = some (.text "mine") ∧
      object.get? "exc" ≠ some (.text "mine") ∧
      object.get? "msg" ≠ some (.text "hi") ∧
      lastPushed clashSession "job" = some (.text splitLog) ∧
      object.get? "job" ≠ some (.text splitLog)) ∧
    clashRecord.readAfter [.push [("n", .int (10 ^ 4300))]] = none ∧
    { clashRecord with created := 1e300 }.readAfter [] = none ∧
    { clashRecord with message := "%d", args := [.text "one"] }.readAfter
        [] =
      none := by
  have hRead :
      (clashRecord.readAfter clashSession).map (fun object =>
          ((object.get? "exc").bind Value.text?,
            (object.get? "msg").bind Value.text?,
            (object.get? "job").bind Value.text?)) =
        some
          (some ("ValueError: boom" : Text), some ("theirs" : Text),
            some ("🪵" : Text)) := by
    decide +kernel
  refine ⟨?_, ?_, ?_, ?_⟩
  · rcases Option.map_eq_some_iff.mp hRead with ⟨object, hObject, hTold⟩
    rcases Prod.mk.inj hTold with ⟨hFailure, hOthers⟩
    rcases Prod.mk.inj hOthers with ⟨hMessage, hJob⟩
    refine ⟨object, hObject, rfl, fun hMine => ?_, fun hHi => ?_, rfl,
      fun hSplit => ?_⟩
    · rw [hMine] at hFailure
      exact absurd hFailure (by decide)
    · rw [hHi] at hMessage
      exact absurd hMessage (by decide)
    · rw [hSplit] at hJob
      exact absurd hJob (by decide)
  · exact Option.isNone_iff_eq_none.mp (by decide +kernel)
  · exact Option.isNone_iff_eq_none.mp (by decide +kernel)
  · exact Option.isNone_iff_eq_none.mp (by decide +kernel)

end Joinery
