import Joinery.Proofs.Config.Accepted
import Joinery.Proofs.Value.Named
import Joinery.Proofs.Value.Sorted

/-
  A job does not depend on the order in which the entries of
  its mappings are told, and every parameter of its joint is
  read from the entry with its name.

  Key definitions include:
    * `Value.Reorders`
    * `Job.HasNames`
    * `Job.Retells`

  Key theorems include:
    * `Joint.ofValue_reordered`
    * `Job.ofEntries_retold`
    * `keys_perm_names`
    * `Job.told_by_names`
    * `Job.selfHeldLog_shows_order`
-/

namespace Joinery

------------------------------------------------------------
-- Sections In Another Order
------------------------------------------------------------

/- One value is a mapping of the entries of another, in some order. -/
def Value.Reorders
    (v w : Value) : Prop :=
  ∃ entries others,
    v.opened = .dict entries ∧ w.opened = .dict others ∧
      List.Perm entries others

section Reordered

variable {entries others : Entries}

theorem otherKeys_perm
    (names : List Text)
    (hPerm : List.Perm entries others) :
    (otherKeys entries names).Perm (otherKeys others names) := by
  unfold otherKeys
  exact (hPerm.map fun e => e.1).filter _

/- Keys that are not asked for are told in the order of texts. -/
theorem checkParameters_eq_of_perm
    (hNamed : entries.AreNamed)
    (hPerm : List.Perm entries others) :
    checkParameters others = checkParameters entries := by
  have hTexts :
      ∀ key ∈ otherKeys entries Joint.names,
        ∃ name, Value.text name = key :=
    fun key hMem => hNamed.texts key (List.mem_of_mem_filter hMem)
  have hUnknown :
      Value.sorted (otherKeys others Joint.names) =
        Value.sorted (otherKeys entries Joint.names) :=
    Value.sorted_eq_of_perm hTexts (otherKeys_perm _ hPerm)
  unfold checkParameters
  simp only [Entries.get?_eq_of_perm hNamed hPerm, hUnknown]

theorem Settings.ofEntries_eq_of_perm
    (hNamed : entries.AreNamed)
    (hPerm : List.Perm entries others) :
    Settings.ofEntries others = Settings.ofEntries entries := by
  unfold Settings.ofEntries
  simp only [Entries.get?_eq_of_perm hNamed hPerm]

theorem LogOptions.ofEntries_eq_of_perm
    (hNamed : entries.AreNamed)
    (hPerm : List.Perm entries others) :
    LogOptions.ofEntries others = LogOptions.ofEntries entries := by
  unfold LogOptions.ofEntries
  simp only [Entries.get?_eq_of_perm hNamed hPerm]

end Reordered

/- A joint is read the same from its entries in any order. -/
theorem Joint.ofValue_reordered
    {v w : Value}
    (hNamed :
      ∀ fields, v.opened = .dict fields → Entries.AreNamed fields)
    (hReorders : v.Reorders w) :
    Joint.ofValue w = Joint.ofValue v := by
  rcases hReorders with ⟨fields, told, hFirst, hSecond, hPerm⟩
  have hFields := hNamed fields hFirst
  unfold Joint.ofValue parameter
  rw [hFirst, hSecond]
  simp only [checkParameters_eq_of_perm hFields hPerm,
    Entries.get?_eq_of_perm hFields hPerm]

/- A section that is a mapping is read as its entries. -/
theorem section?_of_opened
    {data entries : Entries}
    {name : Text}
    {raw : Value}
    (hRaw : data.get? name = some raw)
    (hOpened : raw.opened = .dict entries) :
    (section? data name) = .ok entries := by
  unfold section?
  rw [hRaw, Option.getD_some]
  by_cases hTruthy : raw.truthy = true
  · simp only [hTruthy, if_true, hOpened]
  · -- A mapping that does not count as present is empty.
    cases raw with
    | dict items =>
        have hItems : items = entries := Value.dict.inj hOpened
        rw [Value.truthy, Bool.not_eq_true', Bool.not_eq_false,
          List.isEmpty_iff] at hTruthy
        rw [← hItems, hTruthy]
        rfl
    | knot table place => exact absurd rfl hTruthy
    | _ => cases hOpened

------------------------------------------------------------
-- Jobs In Another Order
------------------------------------------------------------

namespace Job

/- The names of the sections of a job. -/
def sectionNames : List Text :=
  ["joint", "machine", "logging"]

/- If a section of a top mapping is a mapping, it has names. -/
def SectionHasNames
    (root : Entries)
    (name : Text) : Prop :=
  ∀ raw fields,
    root.get? name = some raw → raw.opened = .dict fields →
      Entries.AreNamed fields

/- The top mapping has names, and so have its sections. -/
def HasNames
    (data : Value) : Prop :=
  ∀ root, data.opened = .dict root →
    Entries.AreNamed root ∧
      ∀ name ∈ sectionNames, SectionHasNames root name

/- An entry of the top mapping; a section may be told in another order. -/
def RetellsEntry
    (e f : Value × Value) : Prop :=
  e.1 = f.1 ∧
    (e.2 = f.2 ∨
      (∃ name ∈ sectionNames, e.1 = .text name) ∧ e.2.Reorders f.2)

/-
  The content of one job file is that of another, with the
  entries of the top mapping and those of its sections told
  in any order.
-/
def Retells
    (data other : Value) : Prop :=
  ∃ root between told,
    data.opened = .dict root ∧ other.opened = .dict told ∧
      List.Perm root between ∧ List.Forall₂ RetellsEntry between told

/- What is found under a name is the same, or told in another order. -/
def RetellsUnder
    (name : Text)
    (root told : Entries) : Prop :=
  told.get? name = root.get? name ∨
    ∃ v w, root.get? name = some v ∧ told.get? name = some w ∧
      v.Reorders w

theorem retellsUnder
    {root told : Entries}
    (hEntries : List.Forall₂ RetellsEntry root told)
    (name : Text) :
    RetellsUnder name root told := by
  induction hEntries with
  | nil => exact Or.inl rfl
  | @cons e f _ _ hFirst _ ih =>
      rcases hFirst with ⟨hKey, hValue⟩
      unfold RetellsUnder Entries.get? Entries.find? at ih ⊢
      rw [List.find?_cons, List.find?_cons, ← hKey]
      split
      · rcases hValue with hSame | ⟨-, hReorders⟩
        · exact Or.inl (congrArg some hSame.symm)
        · exact Or.inr ⟨e.2, f.2, rfl, rfl, hReorders⟩
      · exact ih

section Retold

variable {root told : Entries}

/- The joint of a job does not depend on the order it is told in. -/
theorem jointOf_retold
    (hNamed : SectionHasNames root "joint")
    (hRetold : RetellsUnder "joint" root told) :
    jointOf told = jointOf root := by
  unfold jointOf
  rcases hRetold with hSame | ⟨v, w, hFirst, hSecond, hReorders⟩
  · rw [hSame]
  · rw [hFirst, hSecond]
    exact Joint.ofValue_reordered (fun fields => hNamed v fields hFirst)
      hReorders

/- What does not depend on an order is the same of a section retold. -/
theorem section?_retold
    {α : Type}
    {name : Text}
    {next : Entries → Outcome α}
    (hNext :
      ∀ entries others,
        Entries.AreNamed entries → List.Perm entries others →
          next others = next entries)
    (hNamed : SectionHasNames root name)
    (hRetold : RetellsUnder name root told) :
    (section? told name >>= next) = (section? root name >>= next) := by
  rcases hRetold with hSame | ⟨v, w, hFirst, hSecond, hReorders⟩
  · unfold section?
    rw [hSame]
  · rcases hReorders with ⟨entries, others, hEntries, hOthers, hPerm⟩
    have hBefore := section?_of_opened hFirst hEntries
    have hAfter := section?_of_opened hSecond hOthers
    rw [hBefore, hAfter, Outcome.ok_bind, Outcome.ok_bind]
    exact hNext _ _ (hNamed v entries hFirst hEntries) hPerm

/- The same job is read from sections that are retold. -/
theorem ofEntries_retold
    (hNamed : ∀ name ∈ sectionNames, SectionHasNames root name)
    (hRetold : ∀ name, RetellsUnder name root told) :
    Job.ofEntries told = Job.ofEntries root := by
  have hMachine := hNamed "machine" (by decide)
  have hLogging := hNamed "logging" (by decide)
  rw [ofEntries_eq, ofEntries_eq,
    jointOf_retold (hNamed "joint" (by decide)) (hRetold "joint")]
  refine bind_congr fun joint => ?_
  unfold ofSections
  rw [section?_retold ?_ hMachine (hRetold "machine")]
  · refine bind_congr fun machine => bind_congr fun settings => ?_
    refine section?_retold ?_ hLogging (hRetold "logging")
    intro entries others hEntries hPerm
    rw [LogOptions.ofEntries_eq_of_perm hEntries hPerm]
  · intro entries others hEntries hPerm
    rw [Settings.ofEntries_eq_of_perm hEntries hPerm]

end Retold

end Job

------------------------------------------------------------
-- Parameters By Their Names
------------------------------------------------------------

/- A check that passes finds all parameters, and no other keys. -/
theorem checkParameters_ok
    {fields : Entries}
    (hChecked : checkParameters fields = .ok ()) :
    (∀ name ∈ Joint.names, (fields.get? name).isSome = true) ∧
      Value.sorted (otherKeys fields Joint.names) = .ok [] := by
  unfold checkParameters at hChecked
  dsimp only at hChecked
  split at hChecked
  · cases hChecked
  · rename_i hMissing
    rcases Outcome.bind_eq_ok_iff.mp hChecked with
      ⟨unknown, hUnknown, hRest⟩
    split at hRest
    · rcases Outcome.bind_eq_ok_iff.mp hRest with ⟨names, -, hFault⟩
      cases hFault
    · rename_i hEmpty
      rw [Bool.not_eq_true, Bool.not_eq_false', List.isEmpty_iff] at hEmpty
      refine ⟨?_, hEmpty ▸ hUnknown⟩
      intro name hName
      have hNone := List.filter_eq_nil_iff.mp (not_ne_iff.mp hMissing) name hName
      rwa [Bool.not_eq_true, Option.isNone_eq_false_iff] at hNone

/- The keys of a joint that passes are the names of its parameters. -/
theorem keys_perm_names
    {fields : Entries}
    (hNamed : fields.AreNamed)
    (hChecked : checkParameters fields = .ok ()) :
    (fields.map (·.1)).Perm (Joint.names.map .text) := by
  rcases checkParameters_ok hChecked with ⟨hPresent, hUnknown⟩
  have hDistinct : (Joint.names.map Value.text).Nodup :=
    List.Nodup.map (fun _ _ => Value.text.inj) (by decide)
  refine (List.perm_ext_iff_of_nodup hNamed.distinct hDistinct).mpr ?_
  intro key
  constructor
  · intro hMem
    rcases hNamed.texts key hMem with ⟨name, rfl⟩
    have hNone : otherKeys fields Joint.names = [] :=
      Value.eq_nil_of_sorted
        (fun key hMem => hNamed.texts key (List.mem_of_mem_filter hMem))
        hUnknown
    have hAsked := List.filter_eq_nil_iff.mp hNone (.text name) hMem
    rw [Bool.not_eq_true, Bool.not_eq_false', List.any_eq_true] at hAsked
    rcases hAsked with ⟨asked, hName, hSame⟩
    rw [Value.text_equals, beq_iff_eq] at hSame
    rw [hSame]
    exact List.mem_map_of_mem hName
  · intro hMem
    rcases List.mem_map.mp hMem with ⟨name, hName, rfl⟩
    rcases Option.isSome_iff_exists.mp (hPresent name hName) with ⟨v, hFound⟩
    exact List.mem_map_of_mem (f := (·.1))
      ((Entries.get?_eq_some_iff hNamed name v).mp hFound)

namespace Job

/-
  If the mappings of a job file have names, then the order of
  their entries changes nothing, neither of the job nor of the
  fault. A job has exactly the parameters of its joint, each
  one read from the entry with its name.
-/
theorem told_by_names
    (path : Text)
    {data : Value}
    (hNamed : HasNames data) :
    (∀ other, Retells data other →
      Job.ofValue path other = Job.ofValue path data) ∧
    ∀ job, Job.ofValue path data = .ok job →
      ∃ root raw fields,
        data.opened = .dict root ∧
        (.text "joint", raw) ∈ root ∧ raw.opened = .dict fields ∧
        (fields.map (·.1)).Perm (Joint.names.map .text) ∧
        ∀ p ∈ Joint.parameters, ∃ v,
          (.text p.name, v) ∈ fields ∧
            readMeasure p.name v = .ok (p.get job.joint) := by
  constructor
  · rintro other ⟨root, between, told, hRoot, hTold, hPerm, hEntries⟩
    rcases hNamed root hRoot with ⟨hTop, hSections⟩
    have hRetold : ∀ name, RetellsUnder name root told := by
      intro name
      unfold RetellsUnder
      rw [← Entries.get?_eq_of_perm hTop hPerm]
      exact retellsUnder hEntries name
    unfold Job.ofValue
    rw [hRoot, hTold]
    exact congrArg (Except.mapError asConfigFault)
      (ofEntries_retold hSections hRetold)
  · refine ofValue_yields path data fun root hRoot => ?_
    intro job hJob
    rcases hNamed root hRoot with ⟨hTop, hSections⟩
    rcases ofEntries_yields_parts root job hJob with ⟨_, _, hJoint, -⟩
    unfold jointOf at hJoint
    split at hJoint
    · rename_i raw hRaw
      rcases Joint.ofValue_yields_parameters raw job.joint hJoint with
        ⟨fields, hFields, hChecked, hRead⟩
      have hEntries := hSections "joint" (by decide) raw fields hRaw hFields
      refine ⟨root, raw, fields, hRoot,
        (Entries.get?_eq_some_iff hTop "joint" raw).mp hRaw, hFields,
        keys_perm_names hEntries hChecked, ?_⟩
      intro p hParameter
      have hPresent :=
        (checkParameters_ok hChecked).1 p.name (List.mem_map_of_mem hParameter)
      rcases Option.isSome_iff_exists.mp hPresent with ⟨v, hFound⟩
      have hMeasure := hRead p hParameter
      rw [parameter, hFound, Option.getD_some] at hMeasure
      exact ⟨v, (Entries.get?_eq_some_iff hEntries p.name v).mp hFound,
        hMeasure⟩
    · cases hJoint

/- A sample of a job with one more section has names. -/
theorem sample_hasNames
    (stock : Value)
    {name : Text}
    {raw : Value}
    (hName : name ≠ "joint")
    (hNamed :
      ∀ fields, raw.opened = .dict fields → Entries.AreNamed fields) :
    HasNames (sample stock [(.text name, raw)]) := by
  intro root hRoot
  obtain rfl := Value.dict.inj hRoot
  have hTop : Entries.AreNamed
      [(.text "joint", .dict (Joint.sample stock)), (.text name, raw)] :=
    .of_names ["joint", name] rfl (by simpa using hName.symm)
  refine ⟨hTop, ?_⟩
  intro asked _ v fields hFound hFields
  have hMem := (Entries.get?_eq_some_iff hTop asked v).mp hFound
  rcases List.mem_pair.mp hMem with hSame | hSame
  · obtain ⟨-, rfl⟩ := Prod.mk.inj hSame
    obtain rfl := Value.dict.inj hFields
    exact .of_names Joint.names rfl (by decide)
  · obtain ⟨-, rfl⟩ := Prod.mk.inj hSame
    exact hNamed fields hFields

/- The entries of a machine that is fast. -/
def fastMachine : Entries :=
  [(.text "retract_feed", .int 600), (.text "depth_tolerance", .int 1)]

/- A job that is told backwards, with its joint told backwards. -/
def backwards : Value :=
  .dict
    [ (.text "machine", .dict fastMachine.reverse),
      (.text "joint", .dict (Joint.sample (.int 4)).reverse) ]

/- It is the same job, and it is accepted. -/
theorem backwards_same :
    (∃ job, Job.ofValue "job.yaml" backwards = .ok job) ∧
      Job.ofValue "job.yaml" backwards =
        Job.ofValue "job.yaml"
          (sample (.int 4) [(.text "machine", .dict fastMachine)]) := by
  have hNamed :
      HasNames (sample (.int 4) [(.text "machine", .dict fastMachine)]) := by
    refine sample_hasNames _ (by decide) ?_
    intro fields hFields
    obtain rfl := Value.dict.inj hFields
    exact .of_names ["retract_feed", "depth_tolerance"] rfl (by decide)
  have hRetells :
      Retells (sample (.int 4) [(.text "machine", .dict fastMachine)])
        backwards := by
    refine ⟨_, _, _, rfl, rfl, .swap _ _ _, .cons ⟨rfl, .inr ⟨?_, ?_⟩⟩
      (.cons ⟨rfl, .inr ⟨?_, ?_⟩⟩ .nil)⟩
    · exact ⟨"machine", by decide, rfl⟩
    · exact ⟨_, _, rfl, rfl, (List.reverse_perm _).symm⟩
    · exact ⟨"joint", by decide, rfl⟩
    · exact ⟨_, _, rfl, rfl, (List.reverse_perm _).symm⟩
  have hAccepted :
      (Job.ofValue "job.yaml" backwards).toOption.map (fun _ => ()) =
        some () := by
    decide +kernel
  rcases Outcome.exists_of_toOption hAccepted with ⟨job, hJob, -⟩
  exact ⟨⟨job, hJob⟩, (told_by_names "job.yaml" hNamed).1 backwards hRetells⟩

/-
  The content of a job file whose logging options hold
  themselves, where an option refers back to them.
-/
def selfHeldLog
    (options : Entries) : Value :=
  sample (.int 4) [(.text "logging", .knot [.dict options] 0)]

/- Options that are in JSON, and go to a file named by themselves. -/
def selfHeldOptions : Entries :=
  [(.text "json", .bool true), (.text "file", .back 0)]

/-
  The name of this file is the text of the options, which
  shows their order.
-/
theorem selfHeldLog_shows_order :
    HasNames (selfHeldLog selfHeldOptions) ∧
      List.Perm selfHeldOptions selfHeldOptions.reverse ∧
      ∃ job other,
        Job.ofValue "job.yaml" (selfHeldLog selfHeldOptions) = .ok job ∧
        Job.ofValue "job.yaml" (selfHeldLog selfHeldOptions.reverse) =
          .ok other ∧
        job.logging.file ≠ other.logging.file := by
  have hFirst :
      (Job.ofValue "job.yaml" (selfHeldLog selfHeldOptions)).toOption.map
          (fun job => job.logging.file) =
        some (some (Text.ofString
          "\x7b'json': True, 'file': \x7b...\x7d\x7d")) := by
    decide +kernel
  have hSecond :
      (Job.ofValue "job.yaml"
            (selfHeldLog selfHeldOptions.reverse)).toOption.map
          (fun job => job.logging.file) =
        some (some (Text.ofString
          "\x7b'file': \x7b...\x7d, 'json': True\x7d")) := by
    decide +kernel
  rcases Outcome.exists_of_toOption hFirst with ⟨job, hJob, hFile⟩
  rcases Outcome.exists_of_toOption hSecond with ⟨other, hOther, hTurned⟩
  refine ⟨?_, (List.reverse_perm _).symm, job, other, hJob, hOther, ?_⟩
  · refine sample_hasNames _ (by decide) ?_
    intro fields hFields
    obtain rfl := Value.dict.inj hFields
    exact .of_names ["json", "file"] rfl (by decide)
  · rw [hFile, hTurned]
    decide

end Job

end Joinery
