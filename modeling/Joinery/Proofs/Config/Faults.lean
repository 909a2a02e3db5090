import Joinery.Config.Job
import Joinery.Proofs.Number.Faults

/-
  The content of a job file is refused with a fault of the
  job file, or one of its settings is a number out of the
  range of doubles. Nothing else can go wrong with it.

  Key definitions include:
    * `Family.isTold`
    * `Value.IsBeyondDoubles`
    * `Settings.AreBeyondDoubles`
    * `Job.IsBeyondDoubles`

  Key theorems include:
    * `Fails.told`
    * `Job.ofEntries_fails`
    * `Job.ofValue_fails`
-/

namespace Joinery

------------------------------------------------------------
-- Faults Of Content
------------------------------------------------------------

/- The families of faults that are told as faults of the job file. -/
def Family.isTold : Family → Bool
  | .kind | .member | .config => true
  | family => family.isValue

/- A fault is told as one of the job file. -/
def Fault.IsTold : Fault → Prop :=
  IsAmong Family.isTold

/- A computation that fails for a cause that is told fails so. -/
theorem Fails.told
    {α : Type}
    {fault : Fault}
    (hFault : fault.IsTold) :
    Fails Fault.IsTold (fail fault : Outcome α) :=
  Fails.ofFail rfl hFault

/- What is told is a fault of the job file. -/
theorem Fault.IsTold.family
    {fault : Fault}
    (hTold : fault.IsTold) :
    (asConfigFault fault).family = .config := by
  unfold IsTold IsAmong at hTold
  unfold asConfigFault
  cases hFamily : fault.family <;> rw [hFamily] at hTold <;>
    first
      | rfl
      | exact hFamily
      | cases hTold

/- A number out of range is told as it is. -/
theorem Fault.IsOverflow.asConfigFault
    {fault : Fault}
    (hRange : fault.IsOverflow) :
    asConfigFault fault = fault := by
  have hFamily : fault.family = .overflow := hRange
  rw [Joinery.asConfigFault, hFamily]
  rfl

------------------------------------------------------------
-- Values
------------------------------------------------------------

/- Moments are compared if both have an offset, or none has. -/
theorem Moment.less_fails
    (a b : Moment) :
    Fails Fault.IsTold (a.less b) := by
  unfold Moment.less
  split
  · exact Fails.ok _
  · exact Fails.told rfl

namespace Value

mutual

theorem less_fails
    (a b : Value) :
    Fails Fault.IsTold (a.less b) := by
  rw [less.eq_def]
  split
  · exact lessItems_fails _ _
  · exact Fails.ok _
  · exact Fails.ok _
  · exact Moment.less_fails _ _
  · exact Fails.told rfl
  · exact Fails.told rfl
  · split
    · exact Fails.ok _
    · exact Fails.ok _
    · exact Fails.told rfl

theorem lessItems_fails
    (xs ys : List Value) :
    Fails Fault.IsTold (lessItems xs ys) := by
  rw [lessItems.eq_def]
  split
  · exact Fails.ok _
  · exact Fails.ok _
  · split
    · exact lessItems_fails _ _
    · exact less_fails _ _

end

theorem insertSorted_fails
    (v : Value)
    (vs : List Value) :
    Fails Fault.IsTold (v.insertSorted vs) := by
  induction vs with
  | nil => exact Fails.ok _
  | cons x rest ih =>
      rw [insertSorted]
      refine Fails.bind (less_fails v x) fun smaller => ?_
      split
      · exact Fails.ok _
      · exact Fails.bind ih fun _ => Fails.ok _

theorem sorted_fails
    (vs : List Value) :
    Fails Fault.IsTold (sorted vs) := by
  unfold sorted
  generalize ([] : List Value) = acc
  induction vs generalizing acc with
  | nil => exact Fails.ok _
  | cons v rest ih =>
      rw [List.foldlM_cons]
      exact Fails.bind (insertSorted_fails v acc) fun next => ih next

theorem textsFrom_fails
    (index : Nat)
    (vs : List Value) :
    Fails Fault.IsTold (textsFrom index vs) := by
  induction vs generalizing index with
  | nil => exact Fails.ok _
  | cons v rest ih =>
      rw [textsFrom]
      split
      · exact Fails.bind (ih _) fun _ => Fails.ok _
      · exact Fails.told rfl

theorem written_fails
    (v : Value) :
    Fails Fault.IsTold v.written := by
  unfold written
  split
  · exact Fails.told rfl
  · exact Fails.ok _

theorem asOrdered_fails
    (v : Value) :
    Fails Fault.IsTold v.asOrdered := by
  unfold asOrdered
  split
  · exact Fails.ok _
  · exact Fails.told rfl

theorem atMostZero_fails
    (v : Value) :
    Fails Fault.IsTold v.atMostZero :=
  Fails.bind v.asOrdered_fails fun _ => Fails.ok _

theorem belowZero_fails
    (v : Value) :
    Fails Fault.IsTold v.belowZero :=
  Fails.bind v.asOrdered_fails fun _ => Fails.ok _

end Value

------------------------------------------------------------
-- Measures
------------------------------------------------------------

theorem QuantityText.value_fails
    (parts : QuantityText) :
    Fails Fault.IsTold parts.value := by
  have hInteger :
      Fails Fault.IsTold (Number.readInteger parts.amount) := by
    unfold Number.readInteger
    dsimp only
    split
    · exact Fails.told rfl
    · exact Fails.ok _
  unfold value
  split
  · exact Fails.told rfl
  · split
    · exact hInteger.map _
    · exact Fails.ok _

theorem readUnit_fails
    (name : Text)
    (raw : Value) :
    Fails Fault.IsTold (readUnit name raw) := by
  unfold readUnit
  split
  · exact Fails.ok _
  · exact Fails.told rfl

theorem readQuantityText_fails
    (name : Text)
    (raw : Value)
    (text : Text) :
    Fails Fault.IsTold (readQuantityText name raw text) := by
  unfold readQuantityText
  split
  · exact Fails.told rfl
  · rename_i parts _
    refine Fails.bind parts.value_fails fun amount => ?_
    exact Fails.bind (readUnit_fails _ _) fun u => Fails.ok _

theorem readMeasure_fails
    (name : Text)
    (raw : Value) :
    Fails Fault.IsTold (readMeasure name raw) := by
  unfold readMeasure
  split
  · exact Fails.ok _
  · exact Fails.ok _
  · unfold readQuantityMapping
    split
    · split
      · exact Fails.bind (readUnit_fails _ _) fun _ => Fails.ok _
      · exact Fails.bind (readUnit_fails _ _) fun _ => Fails.ok _
      · exact Fails.told rfl
    · exact Fails.told rfl
  · exact readQuantityText_fails _ _ _
  · exact readQuantityText_fails _ _ _
  · exact Fails.told rfl

------------------------------------------------------------
-- Joints
------------------------------------------------------------

theorem checkParameters_fails
    (entries : Entries) :
    Fails Fault.IsTold (checkParameters entries) := by
  unfold checkParameters
  dsimp only
  split
  · refine Fails.failed (Fails.told ?_) _
    exact rfl
  · refine Fails.bind (Value.sorted_fails _) fun unknown => ?_
    split
    · refine Fails.bind (Value.textsFrom_fails 0 unknown) fun names => ?_
      exact Fails.told rfl
    · exact Fails.ok _

theorem Joint.make_fails
    (joint : Joint) :
    Fails Fault.IsTold (Joint.make joint) := by
  have hRefused :
      ∀ v : Value,
        Fails Fault.IsTold
          (do if ← v.atMostZero then fail (.cutterNotPositive v)) := by
    intro v
    refine Fails.bind v.atMostZero_fails fun refused => ?_
    split
    · exact Fails.told rfl
    · exact Fails.ok _
  unfold Joint.make
  refine Fails.bind ?_ fun _ => Fails.ok _
  split
  · exact hRefused _
  · exact hRefused _
  · exact hRefused _
  · exact Fails.ok _

theorem Joint.ofValue_fails
    (data : Value) :
    Fails Fault.IsTold (Joint.ofValue data) := by
  have hRead :
      ∀ entries name,
        Fails Fault.IsTold (parameter entries name) :=
    fun entries name => readMeasure_fails name _
  unfold Joint.ofValue
  split
  · refine Fails.bind (checkParameters_fails _) fun _ => ?_
    refine Fails.bind (hRead _ _) fun plate => ?_
    refine Fails.bind (hRead _ _) fun retract => ?_
    refine Fails.bind (hRead _ _) fun stock => ?_
    refine Fails.bind (hRead _ _) fun cutter => ?_
    refine Fails.bind (hRead _ _) fun offset => ?_
    refine Fails.bind (hRead _ _) fun length => ?_
    exact Joint.make_fails _
  · exact Fails.told rfl

------------------------------------------------------------
-- The Other Sections
------------------------------------------------------------

theorem section?_fails
    (data : Entries)
    (name : Text) :
    Fails Fault.IsTold (section? data name) := by
  unfold section?
  dsimp only
  split
  · split
    · exact Fails.ok _
    · exact Fails.told rfl
  · exact Fails.ok _

/- A value that is a number out of the range of doubles. -/
def Value.IsBeyondDoubles
    (v : Value) : Prop :=
  ∃ n fault, v.number? = some n ∧ n.toDouble = .error fault

/- A value that is read as a double is refused, or it is out of range. -/
theorem readDouble_fails
    (v : Value) :
    Fails
      (fun fault =>
        fault.IsTold ∨ fault.IsOverflow ∧ v.IsBeyondDoubles)
      (readDouble v) := by
  unfold readDouble
  split
  · rename_i n hNumber
    intro fault hFault
    exact Or.inr
      ⟨n.toDouble_fails fault hFault, n, fault, hNumber, hFault⟩
  · refine Fails.mono ?_ fun fault hTold => Or.inl hTold
    dsimp only
    split
    · exact Fails.told rfl
    · split
      · exact Fails.ok _
      · exact Fails.told rfl

/- A number out of range is not read as a double. -/
theorem readDouble_of_isBeyondDoubles
    {v : Value}
    (hBeyond : v.IsBeyondDoubles) :
    ∃ fault, readDouble v = .error fault ∧ fault.IsOverflow := by
  rcases hBeyond with ⟨n, fault, hNumber, hFault⟩
  refine ⟨fault, ?_, n.toDouble_fails fault hFault⟩
  unfold readDouble
  rw [hNumber]
  exact hFault

/-
  The first setting that cannot be read as a double is out of
  range.
-/
def Settings.AreBeyondDoubles
    (entries : Entries) : Prop :=
  (∃ v, entries.get? "retract_feed" = some v ∧ v.IsBeyondDoubles) ∨
    (∃ x, readDouble
        ((entries.get? "retract_feed").getD standard.retractFeed) =
      .ok x) ∧
      ∃ v, entries.get? "depth_tolerance" = some v ∧ v.IsBeyondDoubles

/- Where a setting is out of range, a section names it. -/
theorem exists_of_getD_isBeyondDoubles
    {v? : Option Value}
    {standard : Value}
    {x : Float}
    (hStandard : readDouble standard = .ok x)
    (hBeyond : (v?.getD standard).IsBeyondDoubles) :
    ∃ v, v? = some v ∧ v.IsBeyondDoubles := by
  cases v? with
  | some v => exact ⟨v, rfl, hBeyond⟩
  | none =>
      rcases readDouble_of_isBeyondDoubles hBeyond with ⟨fault, hFault, -⟩
      rw [Option.getD_none, hStandard] at hFault
      cases hFault

theorem Settings.make_fails
    (feed tolerance : Value) :
    Fails Fault.IsTold (Settings.make feed tolerance) := by
  unfold Settings.make
  refine Fails.bind (Value.atMostZero_fails _) fun refused => ?_
  split
  · refine Fails.failed (Fails.told ?_) _
    exact rfl
  · refine Fails.bind (Value.belowZero_fails _) fun below => ?_
    split
    · refine Fails.failed (Fails.told ?_) _
      exact rfl
    · exact Fails.ok _

theorem Settings.ofEntries_fails
    (entries : Entries) :
    Fails
      (fun fault =>
        fault.IsTold ∨ fault.IsOverflow ∧ AreBeyondDoubles entries)
      (Settings.ofEntries entries) := by
  unfold Settings.ofEntries
  refine Fails.bind_of ?_ fun feed hFeed => ?_
  · refine Fails.mono (readDouble_fails _) ?_
    rintro fault (hTold | ⟨hRange, hBeyond⟩)
    · exact Or.inl hTold
    · have hNamed := exists_of_getD_isBeyondDoubles (x := 300) rfl hBeyond
      exact Or.inr ⟨hRange, Or.inl hNamed⟩
  · refine Fails.bind ?_ fun tolerance => ?_
    · refine Fails.mono (readDouble_fails _) ?_
      rintro fault (hTold | ⟨hRange, hBeyond⟩)
      · exact Or.inl hTold
      · have hNamed := exists_of_getD_isBeyondDoubles rfl hBeyond
        exact Or.inr ⟨hRange, Or.inr ⟨⟨feed, hFeed⟩, hNamed⟩⟩
    · exact (Settings.make_fails _ _).mono fun fault hTold => Or.inl hTold

/- Settings out of range are refused for that. -/
theorem Settings.ofEntries_of_areBeyondDoubles
    {entries : Entries}
    (hBeyond : AreBeyondDoubles entries) :
    ∃ fault, Settings.ofEntries entries = .error fault ∧
      fault.IsOverflow := by
  unfold Settings.ofEntries
  rcases hBeyond with ⟨v, hFeed, hBeyond⟩ | ⟨⟨x, hFeed⟩, v, hNamed, hBeyond⟩
  · rcases readDouble_of_isBeyondDoubles hBeyond with
      ⟨fault, hFault, hRange⟩
    refine ⟨fault, ?_, hRange⟩
    rw [hFeed, Option.getD_some, hFault]
    rfl
  · rcases readDouble_of_isBeyondDoubles hBeyond with
      ⟨fault, hFault, hRange⟩
    refine ⟨fault, ?_, hRange⟩
    rw [hFeed, hNamed, Option.getD_some, hFault]
    rfl

theorem LogOptions.ofEntries_fails
    (entries : Entries) :
    Fails Fault.IsTold (LogOptions.ofEntries entries) := by
  unfold LogOptions.ofEntries
  refine Fails.bind (Value.written_fails _) fun raw => ?_
  dsimp only
  by_cases hUnknown : (Level.number? raw.upperCase).isNone = true
  · rw [if_pos hUnknown]
    refine Fails.failed (Fails.told ?_) _
    exact rfl
  · rw [if_neg hUnknown]
    split
    · split
      · rename_i v _ _
        refine Fails.bind ?_ fun file => Fails.ok _
        exact (Value.written_fails v).map some
      · exact Fails.ok _
    · exact Fails.ok _

------------------------------------------------------------
-- Jobs
------------------------------------------------------------

theorem checkPositive_fails
    (name : String)
    (measure : Value) :
    Fails Fault.IsTold (checkPositive name measure) := by
  unfold checkPositive
  refine Fails.bind (Value.atMostZero_fails _) fun refused => ?_
  split
  · exact Fails.told rfl
  · exact Fails.ok _

theorem Job.check_fails
    (job : Job) :
    Fails Fault.IsTold job.check := by
  refine Fails.bind (checkPositive_fails _ _) fun _ => ?_
  refine Fails.bind (checkPositive_fails _ _) fun _ => ?_
  exact checkPositive_fails _ _

/-
  The joint of a job can be read, and so can its machine
  section, in which a setting is out of range.
-/
def Job.IsBeyondDoubles
    (data : Entries) : Prop :=
  ∃ raw joint settings, data.get? "joint" = some raw ∧
    Joint.ofValue raw = .ok joint ∧
    (section? data "machine" = .ok settings) ∧
    Settings.AreBeyondDoubles settings

theorem Job.ofEntries_fails
    (data : Entries) :
    Fails
      (fun fault =>
        fault.IsTold ∨ fault.IsOverflow ∧ IsBeyondDoubles data)
      (Job.ofEntries data) := by
  have hTold :
      ∀ {α : Type} {outcome : Outcome α},
        Fails Fault.IsTold outcome →
          Fails
            (fun fault =>
              fault.IsTold ∨ fault.IsOverflow ∧ IsBeyondDoubles data)
            outcome :=
    fun hFails => hFails.mono fun _ => Or.inl
  unfold Job.ofEntries
  dsimp only
  split
  · rename_i raw hRaw
    refine Fails.bind_of (hTold (Joint.ofValue_fails _)) fun joint hJoint => ?_
    refine Fails.bind_of (hTold (section?_fails _ _)) fun machine hMachine => ?_
    refine Fails.bind ?_ fun settings => ?_
    · refine (Settings.ofEntries_fails machine).mono ?_
      rintro fault (hOther | ⟨hRange, hBeyond⟩)
      · exact Or.inl hOther
      · exact Or.inr
          ⟨hRange, raw, joint, machine, hRaw, hJoint, hMachine, hBeyond⟩
    · refine hTold ?_
      refine Fails.bind (section?_fails _ _) fun options => ?_
      refine Fails.bind (LogOptions.ofEntries_fails options) fun logging => ?_
      exact Fails.bind (Job.check_fails _) fun _ => Fails.ok _
  · refine hTold (Fails.failed (Fails.told ?_) _)
    exact rfl

/- A job with a setting out of range is refused for that. -/
theorem Job.ofEntries_of_isBeyondDoubles
    {data : Entries}
    (hBeyond : IsBeyondDoubles data) :
    ∃ fault, Job.ofEntries data = .error fault ∧ fault.IsOverflow := by
  rcases hBeyond with
    ⟨raw, joint, settings, hRaw, hJoint, hMachine, hSettings⟩
  rcases Settings.ofEntries_of_areBeyondDoubles hSettings with
    ⟨fault, hFault, hRange⟩
  refine ⟨fault, ?_, hRange⟩
  unfold Job.ofEntries
  rw [hRaw]
  dsimp only
  rw [hJoint, Outcome.ok_bind, hMachine, Outcome.ok_bind, hFault,
    Outcome.error_bind]

/-
  The content of a file is refused as a job with a fault of
  the job file, or it has a number beyond the doubles.
-/
theorem Job.ofValue_fails
    (path : Text)
    (data : Value) :
    Fails (fun fault => fault.family = .config ∨ fault.family = .overflow)
      (Job.ofValue path data) := by
  intro fault hFault
  unfold Job.ofValue at hFault
  split at hFault
  · cases hFault
    exact Or.inl rfl
  · rename_i entries _
    cases hEntries : Job.ofEntries entries with
    | ok job =>
        rw [hEntries] at hFault
        cases hFault
    | error cause =>
        rw [hEntries] at hFault
        cases hFault
        rcases Job.ofEntries_fails entries cause hEntries with
          hTold | ⟨hRange, -⟩
        · exact Or.inl hTold.family
        · rw [hRange.asConfigFault]
          exact Or.inr hRange
  · cases hFault
    exact Or.inl rfl

end Joinery
