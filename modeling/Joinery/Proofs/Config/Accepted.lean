import Joinery.Config.Load
import Joinery.Log.Setup
import Joinery.Proofs.Measure
import Joinery.Proofs.Yields

/-
  What a job file is made into, if it is accepted: a joint of
  plain numbers and of quantities of plain numbers, settings
  of doubles, and a level that logging knows. Nothing says
  that the numbers are finite.

  Key definitions include:
    * `Value.IsMeasure`
    * `Joint.IsMeasured`
    * `Settings.IsOfDoubles`
    * `Job.jointOf`
    * `Job.ofSections`
    * `Job.IsAcceptable`
    * `Joint.sample`
    * `Job.sample`

  Key theorems include:
    * `readMeasure_yields`
    * `Joint.ofValue_yields_parameters`
    * `Job.ofEntries_yields_parts`
    * `Job.ofEntries_yields`
    * `Job.ofValue_yields`
    * `Job.isAcceptable`
    * `Level.of_number?`
    * `Level.ofValue_of_number?`
-/

namespace Joinery

------------------------------------------------------------
-- Measures
------------------------------------------------------------

/- A plain number, or a quantity of one in a unit. -/
inductive Value.IsMeasure : Value → Prop where
  | number
      {v : Value}
      {n : Number}
      (hPlain : v.IsPlain n) :
      IsMeasure v
  | quantity
      (u : LengthUnit)
      {amount : Value}
      {n : Number}
      (hPlain : amount.IsPlain n) :
      IsMeasure (.quantity (.unit u) amount)

theorem Value.IsPlain.atMostZero_eq
    {v : Value}
    {n : Number}
    (hPlain : v.IsPlain n) :
    v.atMostZero = .ok (n.atMost (.int 0)) := by
  unfold Value.atMostZero Value.asOrdered
  rw [hPlain.number?]
  rfl

theorem Value.IsPlain.belowZero_eq
    {v : Value}
    {n : Number}
    (hPlain : v.IsPlain n) :
    v.belowZero = .ok (n.less (.int 0)) := by
  unfold Value.belowZero Value.asOrdered
  rw [hPlain.number?]
  rfl

/- The amount of a quantity in text is a plain number. -/
theorem QuantityText.value_yields
    (parts : QuantityText) :
    Yields (fun v => ∃ n, v.IsPlain n) parts.value := by
  unfold value
  split
  · exact Yields.error _
  · split
    · intro v hValue
      cases hInteger : Number.readInteger parts.amount with
      | error fault =>
          rw [hInteger] at hValue
          cases hValue
      | ok n =>
          rw [hInteger] at hValue
          cases hValue
          exact ⟨_, .int n⟩
    · exact Yields.ok ⟨_, .float _⟩

theorem readQuantityText_yields
    (name : Text)
    (raw : Value)
    (text : Text) :
    Yields Value.IsMeasure (readQuantityText name raw text) := by
  unfold readQuantityText
  split
  · exact Yields.error _
  · rename_i parts hParts
    refine Yields.bind parts.value_yields ?_
    rintro amount ⟨n, hPlain⟩
    refine Yields.bind (Yields.any _) ?_
    intro u _
    exact Yields.ok (.quantity u hPlain)

theorem readQuantityMapping_yields
    (name : Text)
    (raw : Value)
    (entries : Entries) :
    Yields Value.IsMeasure (readQuantityMapping name raw entries) := by
  unfold readQuantityMapping
  split
  · split
    · refine Yields.bind (Yields.any _) ?_
      intro u _
      exact Yields.ok (.quantity u (.int _))
    · refine Yields.bind (Yields.any _) ?_
      intro u _
      exact Yields.ok (.quantity u (.float _))
    · exact Yields.error _
  · exact Yields.error _

/- A value that is a number once it is opened is that number. -/
theorem Value.isPlain_of_opened
    {v : Value}
    {n : Number}
    (hPlain : v.opened.IsPlain n) :
    v.IsPlain n := by
  cases v with
  | knot table place =>
      unfold opened at hPlain
      dsimp only at hPlain
      split at hPlain <;> cases hPlain
  | _ => exact hPlain

/- Whatever is read as a measure is one. -/
theorem readMeasure_yields
    (name : Text)
    (raw : Value) :
    Yields Value.IsMeasure (readMeasure name raw) := by
  unfold readMeasure
  split
  · rename_i n hInt
    apply Yields.ok
    apply Value.IsMeasure.number
    apply Value.isPlain_of_opened
    rw [hInt]
    exact .int n
  · rename_i x hFloat
    apply Yields.ok
    apply Value.IsMeasure.number
    apply Value.isPlain_of_opened
    rw [hFloat]
    exact .float x
  · exact readQuantityMapping_yields name raw _
  · exact readQuantityText_yields name raw _
  · exact readQuantityText_yields name raw _
  · exact Yields.error _

------------------------------------------------------------
-- Joints
------------------------------------------------------------

/- Every parameter of a joint is a measure. -/
structure Joint.IsMeasured
    (joint : Joint) : Prop where
  plate : joint.plateThickness.IsMeasure
  retract : joint.retractHeight.IsMeasure
  stock : joint.stockThickness.IsMeasure
  cutter : joint.cutterDiameter.IsMeasure
  offset : joint.workOffsetX.IsMeasure
  length : joint.passLength.IsMeasure

namespace Joint

theorem make_yields
    (joint : Joint) :
    Yields (· = joint) (Joint.make joint) := by
  unfold make
  refine Yields.bind (Yields.any _) ?_
  intro _ _
  exact Yields.ok rfl

/- Every parameter of a joint is read from the entry with its name. -/
theorem ofValue_yields_parameters
    (data : Value) :
    Yields
      (fun joint => ∃ fields, data.opened = .dict fields ∧
        checkParameters fields = .ok () ∧
        ∀ p ∈ parameters, parameter fields p.name = .ok (p.get joint))
      (Joint.ofValue data) := by
  unfold Joint.ofValue
  split
  · rename_i fields hOpened
    refine Yields.bind (Yields.self _) ?_
    intro _ hChecked
    refine Yields.bind (Yields.self _) ?_
    intro plate hPlate
    refine Yields.bind (Yields.self _) ?_
    intro retract hRetract
    refine Yields.bind (Yields.self _) ?_
    intro stock hStock
    refine Yields.bind (Yields.self _) ?_
    intro cutter hCutter
    refine Yields.bind (Yields.self _) ?_
    intro offset hOffset
    refine Yields.bind (Yields.self _) ?_
    intro length hLength joint hMade
    obtain rfl := make_yields _ joint hMade
    refine ⟨fields, hOpened, hChecked, ?_⟩
    simp only [parameters, List.forall_mem_cons, List.not_mem_nil,
      false_imp_iff, implies_true, and_true]
    exact ⟨hPlate, hRetract, hStock, hCutter, hOffset, hLength⟩
  · exact Yields.error _

/- So every parameter of it is a measure. -/
theorem ofValue_yields
    (data : Value) :
    Yields IsMeasured (Joint.ofValue data) := by
  intro joint hJoint
  rcases ofValue_yields_parameters data joint hJoint with
    ⟨fields, -, -, hRead⟩
  have hMeasures : ∀ p ∈ parameters, (p.get joint).IsMeasure :=
    fun p hParameter => readMeasure_yields p.name _ _ (hRead p hParameter)
  simp only [parameters, List.forall_mem_cons, List.not_mem_nil,
    false_imp_iff, implies_true, and_true] at hMeasures
  rcases hMeasures with
    ⟨hPlate, hRetract, hStock, hCutter, hOffset, hLength⟩
  exact ⟨hPlate, hRetract, hStock, hCutter, hOffset, hLength⟩

end Joint

------------------------------------------------------------
-- Settings
------------------------------------------------------------

/- Both settings are doubles. -/
structure Settings.IsOfDoubles
    (settings : Settings) : Prop where
  feed : ∃ x, settings.retractFeed = .float x
  tolerance : ∃ x, settings.depthTolerance = .float x

theorem Settings.ofEntries_yields
    (entries : Entries) :
    Yields Settings.IsOfDoubles (Settings.ofEntries entries) := by
  unfold Settings.ofEntries
  refine Yields.bind (Yields.any _) ?_
  intro feed _
  refine Yields.bind (Yields.any _) ?_
  intro tolerance _
  unfold Settings.make
  refine Yields.bind (Yields.any _) ?_
  intro refused _
  split
  · exact Yields.failed _ _
  · refine Yields.bind (Yields.any _) ?_
    intro below _
    split
    · exact Yields.failed _ _
    · exact Yields.ok ⟨⟨feed, rfl⟩, tolerance, rfl⟩

------------------------------------------------------------
-- Logging
------------------------------------------------------------

/- What holds of all names of levels holds of a known one. -/
theorem Level.of_number?
    (claim : Text → Int → Prop)
    (hNames : ∀ e ∈ Level.numbers, claim (e.1 : Text) e.2)
    {level : Text}
    {n : Int}
    (hNumber : Level.number? level = some n) :
    claim level n := by
  rcases level with ⟨start, rest⟩
  cases rest with
  | cons first rest => cases hNumber
  | nil =>
      have hLookup : Level.numbers.lookup start = some n := hNumber
      rcases List.lookup_eq_some_iff.mp hLookup with
        ⟨before, after, hSplit, _⟩
      have hMem : (start, n) ∈ Level.numbers := by
        rw [hSplit]
        simp
      exact hNames (start, n) hMem

/- A name of a level is in capitals. -/
theorem Level.upperCase_of_number?
    {level : Text}
    {n : Int}
    (hNumber : Level.number? level = some n) :
    level.upperCase = level := by
  refine Level.of_number? (fun name _ => name.upperCase = name) ?_ hNumber
  decide

/- A name of a level that is known names a level. -/
theorem Level.ofValue_of_number?
    {level : Text}
    (hKnown : (Level.number? level).isSome = true) :
    ∃ n, Level.number? level = some n ∧
      Level.ofValue (.text level) = .ok n := by
  rcases Option.isSome_iff_exists.mp hKnown with ⟨n, hNumber⟩
  refine ⟨n, hNumber, ?_⟩
  unfold Level.ofValue
  simp only [Value.text?, Level.upperCase_of_number? hNumber, hNumber]

/- The level of the options is known. -/
def LogOptions.IsKnown
    (options : LogOptions) : Prop :=
  (Level.number? options.level).isSome = true

theorem LogOptions.ofEntries_yields
    (entries : Entries) :
    Yields LogOptions.IsKnown (LogOptions.ofEntries entries) := by
  unfold LogOptions.ofEntries
  refine Yields.bind (Yields.any _) ?_
  intro raw _
  dsimp only
  by_cases hUnknown : (Level.number? raw.upperCase).isNone = true
  · rw [if_pos hUnknown]
    exact Yields.failed _ _
  · rw [if_neg hUnknown]
    have hKnown : (Level.number? raw.upperCase).isSome = true := by
      rw [Bool.not_eq_true, Option.isNone_eq_false_iff] at hUnknown
      exact hUnknown
    split
    · split <;>
        exact Yields.bind (Yields.any _) fun file _ => Yields.ok hKnown
    · exact Yields.bind (Yields.any _) fun file _ => Yields.ok hKnown

------------------------------------------------------------
-- Jobs
------------------------------------------------------------

namespace Job

/- The joint that the top mapping of a job file describes. -/
def jointOf
    (root : Entries) : Outcome Joint :=
  match root.get? "joint" with
  | some v => Joint.ofValue v
  | none => fail (.config (.missingKey "joint"))

/- The job of a joint, with the other sections of its job file. -/
def ofSections
    (root : Entries)
    (joint : Joint) : Outcome Job := do
  let settings ← Settings.ofEntries (← section? root "machine")
  let logging ← LogOptions.ofEntries (← section? root "logging")
  let job : Job := ⟨joint, settings, logging⟩
  job.check
  return job

theorem ofEntries_eq
    (root : Entries) :
    Job.ofEntries root = (jointOf root >>= ofSections root) := by
  unfold Job.ofEntries jointOf
  cases root.get? "joint" <;> rfl

/- What a job that is accepted is made of. -/
theorem ofEntries_yields_parts
    (root : Entries) :
    Yields
      (fun job => ∃ machine options,
        jointOf root = .ok job.joint ∧
        (section? root "machine" = .ok machine) ∧
        Settings.ofEntries machine = .ok job.settings ∧
        (section? root "logging" = .ok options) ∧
        LogOptions.ofEntries options = .ok job.logging ∧
        job.check = .ok ())
      (Job.ofEntries root) := by
  rw [ofEntries_eq]
  refine Yields.bind (Yields.self _) ?_
  intro joint hJoint
  unfold ofSections
  refine Yields.bind (Yields.self _) ?_
  intro machine hMachine
  refine Yields.bind (Yields.self _) ?_
  intro settings hSettings
  refine Yields.bind (Yields.self _) ?_
  intro options hOptions
  refine Yields.bind (Yields.self _) ?_
  intro logging hLogging
  refine Yields.bind (Yields.self _) ?_
  intro _ hChecked
  exact Yields.ok
    ⟨machine, options, hJoint, hMachine, hSettings, hOptions, hLogging,
      hChecked⟩

end Job

/- What holds of every job that is accepted. -/
structure Job.IsAcceptable
    (job : Job) : Prop where
  joint : job.joint.IsMeasured
  settings : job.settings.IsOfDoubles
  logging : job.logging.IsKnown

theorem Job.jointOf_yields
    (root : Entries) :
    Yields Joint.IsMeasured (jointOf root) := by
  unfold jointOf
  split
  · exact Joint.ofValue_yields _
  · exact Yields.error _

theorem Job.ofEntries_yields
    (root : Entries) :
    Yields Job.IsAcceptable (Job.ofEntries root) := by
  intro job hJob
  rcases ofEntries_yields_parts root job hJob with
    ⟨machine, options, hJoint, -, hSettings, -, hLogging, -⟩
  exact
    { joint := jointOf_yields root job.joint hJoint
      settings := Settings.ofEntries_yields machine job.settings hSettings
      logging := LogOptions.ofEntries_yields options job.logging hLogging }

/- What holds of the jobs of top mappings holds of those of files. -/
theorem Job.ofValue_yields
    {claim : Job → Prop}
    (path : Text)
    (data : Value)
    (hEntries :
      ∀ root, data.opened = .dict root →
        Yields claim (Job.ofEntries root)) :
    Yields claim (Job.ofValue path data) := by
  unfold Job.ofValue
  split
  · exact Yields.error _
  · rename_i root hOpened
    cases hRoot : Job.ofEntries root with
    | error fault => exact Yields.error _
    | ok job => exact Yields.ok (hEntries root hOpened job hRoot)
  · exact Yields.error _

/- A job that is made of the content of a file is acceptable. -/
theorem Job.isAcceptable
    {path : Text}
    {data : Value}
    {job : Job}
    (hJob : Job.ofValue path data = .ok job) :
    job.IsAcceptable :=
  ofValue_yields path data (fun root _ => ofEntries_yields root) job hJob

/- The entries of a joint of some stock. -/
def Joint.sample
    (stock : Value) : Entries :=
  [ (.text "plate_thickness", .int 4),
    (.text "retract_height", .int 5),
    (.text "stock_thickness", stock),
    (.text "cutter_diameter", .int 2),
    (.text "work_offset_x", .int 20),
    (.text "pass_length", .int 60) ]

/- What a job file holds that has such a joint, and other sections. -/
def Job.sample
    (stock : Value)
    (sections : Entries) : Value :=
  .dict ((.text "joint", .dict (Joint.sample stock)) :: sections)

end Joinery
