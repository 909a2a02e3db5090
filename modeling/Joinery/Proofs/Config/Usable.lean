import Joinery.Proofs.Config.Accepted
import Joinery.Proofs.Number.Order

/-
  A job that is accepted is usable unless a double in it is
  infinite or NaN. Its numbers are compared with zero, and no
  comparison refuses NaN; nothing else is asked of them.

  Key definitions include:
    * `Value.isStray`
    * `Value.HasSize`
    * `Job.IsUsable`
    * `Job.numbers`
    * `Job.HasStray`

  Key theorems include:
    * `Job.ofEntries_checked`
    * `Job.usable_iff_no_stray`
    * `Job.nanStock_accepted`
-/

namespace Joinery

------------------------------------------------------------
-- Usable Jobs
------------------------------------------------------------

/- A double that is infinite or NaN. -/
def Value.isStray : Value → Bool
  | .float x => !Decimal.isFinite x
  | _ => false

/- An integer or a double that stands for a finite number. -/
def Value.HasSize
    (v : Value)
    (q : Rat) : Prop :=
  ∃ n, v.IsPlain n ∧ n.place = .finite q

namespace Job

/-
  A job that a cut can be made from: all its numbers are
  finite, the stock, the length, the cutter and the feed are
  positive, and the tolerance is not negative.
-/
structure IsUsable
    (job : Job) : Prop where
  measures : ∀ p ∈ Joint.parameters,
    ∃ q, (amountOf (p.get job.joint)).HasSize q
  stock : ∃ q, (amountOf job.joint.stockThickness).HasSize q ∧ 0 < q
  length : ∃ q, (amountOf job.joint.passLength).HasSize q ∧ 0 < q
  cutter : ∃ q, (amountOf job.joint.cutterDiameter).HasSize q ∧ 0 < q
  feed : ∃ q, job.settings.retractFeed.HasSize q ∧ 0 < q
  tolerance : ∃ q, job.settings.depthTolerance.HasSize q ∧ 0 ≤ q

/- The amounts of the joint of a job, and its settings. -/
def numbers
    (job : Job) : List Value :=
  (Joint.parameters.map fun p => amountOf (p.get job.joint)) ++
    [job.settings.retractFeed, job.settings.depthTolerance]

/- One of the numbers of a job is infinite or NaN. -/
def HasStray
    (job : Job) : Prop :=
  ∃ v ∈ job.numbers, v.isStray = true

end Job

------------------------------------------------------------
-- Comparisons
------------------------------------------------------------

/- What the comparisons with zero have found of a job. -/
structure Job.IsChecked
    (job : Job) : Prop where
  stock : (amountOf job.joint.stockThickness).atMostZero = .ok false
  length : (amountOf job.joint.passLength).atMostZero = .ok false
  cutter : (amountOf job.joint.cutterDiameter).atMostZero = .ok false
  feed : job.settings.retractFeed.atMostZero = .ok false
  tolerance : job.settings.depthTolerance.belowZero = .ok false

/- A measure that is not refused is not at most zero. -/
theorem checkPositive_yields
    (name : String)
    (measure : Value) :
    Yields (fun _ => (amountOf measure).atMostZero = .ok false)
      (checkPositive name measure) := by
  intro result hChecked
  unfold checkPositive at hChecked
  rcases Outcome.bind_eq_ok_iff.mp hChecked with ⟨refused, hOrder, hRest⟩
  cases refused with
  | false => exact hOrder
  | true => cases hRest

/- The feed is not at most zero, the tolerance is not below it. -/
theorem Settings.make_yields
    (feed tolerance : Value) :
    Yields
      (fun settings : Settings =>
        settings.retractFeed.atMostZero = .ok false ∧
          settings.depthTolerance.belowZero = .ok false)
      (Settings.make feed tolerance) := by
  intro settings hMade
  unfold Settings.make at hMade
  rcases Outcome.bind_eq_ok_iff.mp hMade with ⟨refused, hFeed, hRest⟩
  cases refused with
  | true => cases hRest
  | false =>
      rcases Outcome.bind_eq_ok_iff.mp hRest with ⟨below, hTolerance, hLast⟩
      cases below with
      | true => cases hLast
      | false =>
          cases hLast
          exact ⟨hFeed, hTolerance⟩

theorem Settings.ofEntries_checked
    (entries : Entries) :
    Yields
      (fun settings : Settings =>
        settings.retractFeed.atMostZero = .ok false ∧
          settings.depthTolerance.belowZero = .ok false)
      (Settings.ofEntries entries) := by
  unfold Settings.ofEntries
  refine Yields.bind (Yields.any _) ?_
  intro feed _
  refine Yields.bind (Yields.any _) ?_
  intro tolerance _
  exact Settings.make_yields _ _

namespace Job

/- The stock, the length, and the cutter are not at most zero. -/
theorem check_yields
    (job : Job) :
    Yields
      (fun _ =>
        (amountOf job.joint.stockThickness).atMostZero = .ok false ∧
          (amountOf job.joint.passLength).atMostZero = .ok false ∧
          (amountOf job.joint.cutterDiameter).atMostZero = .ok false)
      job.check := by
  unfold check
  refine Yields.bind (checkPositive_yields _ _) ?_
  intro _ hStock
  refine Yields.bind (checkPositive_yields _ _) ?_
  intro _ hLength result hCutter
  exact ⟨hStock, hLength, checkPositive_yields _ _ result hCutter⟩

/- A job that is accepted has been compared with zero. -/
theorem ofEntries_checked
    (root : Entries) :
    Yields IsChecked (Job.ofEntries root) := by
  intro job hJob
  rcases ofEntries_yields_parts root job hJob with
    ⟨machine, _, -, -, hSettings, -, -, hCheck⟩
  rcases Settings.ofEntries_checked machine job.settings hSettings with
    ⟨hFeed, hTolerance⟩
  rcases check_yields job () hCheck with ⟨hStock, hLength, hCutter⟩
  exact ⟨hStock, hLength, hCutter, hFeed, hTolerance⟩

------------------------------------------------------------
-- Finite Numbers
------------------------------------------------------------

/- All numbers of a job that is accepted are plain. -/
theorem isPlain_number
    {job : Job}
    (hAcceptable : job.IsAcceptable)
    {v : Value}
    (hMem : v ∈ job.numbers) :
    ∃ n, v.IsPlain n := by
  have hAmount :
      ∀ {measure : Value}, measure.IsMeasure →
        ∃ n, (amountOf measure).IsPlain n := by
    intro measure hMeasure
    cases hMeasure with
    | number hPlain =>
        cases hPlain with
        | int n => exact ⟨_, .int n⟩
        | float x => exact ⟨_, .float x⟩
    | quantity u hPlain => exact ⟨_, hPlain⟩
  rcases hAcceptable.joint with
    ⟨hPlate, hRetract, hStock, hCutter, hOffset, hLength⟩
  rcases hAcceptable.settings with ⟨⟨feed, hFeed⟩, tolerance, hTolerance⟩
  simp only [numbers, Joint.parameters, List.map_cons, List.map_nil,
    List.cons_append, List.nil_append, List.mem_cons, List.not_mem_nil,
    or_false] at hMem
  rcases hMem with
    rfl | rfl | rfl | rfl | rfl | rfl | hSame | hSame
  · exact hAmount hPlate
  · exact hAmount hRetract
  · exact hAmount hStock
  · exact hAmount hCutter
  · exact hAmount hOffset
  · exact hAmount hLength
  · exact ⟨.float feed, hSame ▸ hFeed ▸ .float feed⟩
  · exact ⟨.float tolerance, hSame ▸ hTolerance ▸ .float tolerance⟩

/- A number of a job that has no stray is finite. -/
theorem hasSize_number
    {job : Job}
    (hAcceptable : job.IsAcceptable)
    (hWhole : ¬ job.HasStray)
    {v : Value}
    (hMem : v ∈ job.numbers) :
    ∃ q, v.HasSize q := by
  rcases isPlain_number hAcceptable hMem with ⟨n, hPlain⟩
  cases hPlain with
  | int k => exact ⟨k, .int k, .int k, rfl⟩
  | float x =>
      have hFinite : Decimal.isFinite x = true := by
        by_contra hStray
        refine hWhole ⟨.float x, hMem, ?_⟩
        simp [Value.isStray, Bool.eq_false_iff.mpr hStray]
      rcases (Number.isFinite_iff x).mp hFinite with ⟨q, hValue⟩
      exact ⟨q, .float x, .float x, (Number.place_float_iff x q).mpr hValue⟩

end Job

/- What has a size is not stray. -/
theorem Value.HasSize.isStray_eq
    {v : Value}
    {q : Rat}
    (hSize : v.HasSize q) :
    v.isStray = false := by
  rcases hSize with ⟨n, hPlain, hPlace⟩
  cases hPlain with
  | int _ => rfl
  | float x =>
      have hValue := (Number.place_float_iff x q).mp hPlace
      have hFinite := (Number.isFinite_iff x).mpr ⟨q, hValue⟩
      simp only [Value.isStray, hFinite, Bool.not_true]

/- A finite number that is not at most zero is positive. -/
theorem Value.HasSize.pos
    {v : Value}
    {q : Rat}
    (hSize : v.HasSize q)
    (hChecked : v.atMostZero = .ok false) :
    0 < q := by
  rcases hSize with ⟨n, hPlain, hPlace⟩
  rw [hPlain.atMostZero_eq] at hChecked
  have hOrder : n.atMost (.int 0) = false := Except.ok.inj hChecked
  rw [← not_le]
  intro hLess
  have hZero := (Number.atMost_iff hPlace (Number.place_int 0)).mpr
    (by exact_mod_cast hLess)
  rw [hOrder] at hZero
  cases hZero

/- A finite number that is not below zero is not negative. -/
theorem Value.HasSize.nonneg
    {v : Value}
    {q : Rat}
    (hSize : v.HasSize q)
    (hChecked : v.belowZero = .ok false) :
    0 ≤ q := by
  rcases hSize with ⟨n, hPlain, hPlace⟩
  rw [hPlain.belowZero_eq] at hChecked
  have hOrder : n.less (.int 0) = false := Except.ok.inj hChecked
  rw [← not_lt]
  intro hLess
  have hZero := (Number.less_iff hPlace (Number.place_int 0)).mpr
    (by exact_mod_cast hLess)
  rw [hOrder] at hZero
  cases hZero

namespace Job

/-
  A job that is accepted is usable exactly if none of its
  numbers is infinite or NaN.
-/
theorem usable_iff_no_stray
    {path : Text}
    {data : Value}
    {job : Job}
    (hJob : Job.ofValue path data = .ok job) :
    job.IsUsable ↔ ¬ job.HasStray := by
  have hAcceptable := isAcceptable hJob
  have hChecked :=
    ofValue_yields path data (fun root _ => ofEntries_checked root) job hJob
  constructor
  · rintro hUsable ⟨v, hMem, hStray⟩
    have hSize : ∃ q, v.HasSize q := by
      simp only [numbers, List.mem_append, List.mem_map, List.mem_cons,
        List.not_mem_nil, or_false] at hMem
      rcases hMem with ⟨p, hParameter, rfl⟩ | rfl | rfl
      · exact hUsable.measures p hParameter
      · exact hUsable.feed.imp fun _ => And.left
      · exact hUsable.tolerance.imp fun _ => And.left
    rcases hSize with ⟨q, hSize⟩
    rw [hSize.isStray_eq] at hStray
    cases hStray
  · intro hWhole
    have hSize := fun v => hasSize_number hAcceptable hWhole (v := v)
    have hPositive :
        ∀ {v : Value}, v ∈ job.numbers → v.atMostZero = .ok false →
          ∃ q, v.HasSize q ∧ 0 < q := by
      intro v hMem hOrder
      rcases hSize v hMem with ⟨q, hFinite⟩
      exact ⟨q, hFinite, hFinite.pos hOrder⟩
    rcases hSize job.settings.depthTolerance (by simp [numbers]) with
      ⟨q, hTolerance⟩
    exact
      { measures := fun p hParameter =>
          hSize _ (List.mem_append_left _ (List.mem_map_of_mem hParameter))
        stock := hPositive (by simp [numbers, Joint.parameters])
          hChecked.stock
        length := hPositive (by simp [numbers, Joint.parameters])
          hChecked.length
        cutter := hPositive (by simp [numbers, Joint.parameters])
          hChecked.cutter
        feed := hPositive (by simp [numbers]) hChecked.feed
        tolerance := ⟨q, hTolerance, hTolerance.nonneg hChecked.tolerance⟩ }

/- A job of integers is accepted, and it is usable. -/
theorem sample_usable :
    ∃ job, Job.ofValue "job.yaml" (sample (.int 4) []) = .ok job ∧
      job.IsUsable := by
  have hOutcome :
      (Job.ofValue "job.yaml" (sample (.int 4) [])).toOption.map
        (fun job => job.numbers.any Value.isStray) = some false := by
    decide +kernel
  rcases Outcome.exists_of_toOption hOutcome with ⟨job, hJob, hNone⟩
  refine ⟨job, hJob, (usable_iff_no_stray hJob).mpr ?_⟩
  rintro ⟨v, hMem, hStray⟩
  rw [List.any_eq_true.mpr ⟨v, hMem, hStray⟩] at hNone
  cases hNone

/- A stock that is NaN is accepted as well, though it has no size. -/
theorem nanStock_accepted :
    ∃ job, Job.ofValue "job.yaml" (sample (.float (0 / 0)) []) = .ok job ∧
      ¬ job.IsUsable := by
  have hOutcome :
      (Job.ofValue "job.yaml" (sample (.float (0 / 0)) [])).toOption.map
        (fun job => (amountOf job.joint.stockThickness).isStray) =
          some true := by
    decide +kernel
  rcases Outcome.exists_of_toOption hOutcome with ⟨job, hJob, hStray⟩
  refine ⟨job, hJob, ?_⟩
  intro hUsable
  rcases hUsable.stock with ⟨q, hSize, -⟩
  rw [hSize.isStray_eq] at hStray
  cases hStray

end Job

end Joinery
