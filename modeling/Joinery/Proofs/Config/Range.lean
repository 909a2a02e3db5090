import Joinery.Proofs.Config.Accepted
import Joinery.Proofs.Config.Faults

/-
  What the content of a job file describes is a job, or it is
  refused with a fault of the job file, unless a setting is a
  number out of the range of doubles: such a number is read
  before anything is prepared for it.

  Key theorems include:
    * `Job.told_unless_beyond_doubles`
    * `Job.hugeFeedJob_untold`
-/

namespace Joinery

namespace Job

/-
  The content of a job file describes a job, or is refused
  with a fault of the job file, exactly if it does not come to
  a setting that is out of the range of doubles behind a joint
  that is accepted. If it does, the range is what is reported.
-/
theorem told_unless_beyond_doubles
    (path : Text)
    (data : Value) :
    (((∃ job, Job.ofValue path data = .ok job) ∨
        ∃ fault, Job.ofValue path data = .error fault ∧
          fault.family = .config) ↔
      ¬ ∃ root, data.opened = .dict root ∧ IsBeyondDoubles root) ∧
    ((∃ root, data.opened = .dict root ∧ IsBeyondDoubles root) →
      ∃ fault, Job.ofValue path data = .error fault ∧
        fault.family = .overflow) := by
  have hBeyond :
      (∃ root, data.opened = .dict root ∧ IsBeyondDoubles root) →
        ∃ fault, Job.ofValue path data = .error fault ∧
          fault.family = .overflow := by
    rintro ⟨root, hOpened, hBeyond⟩
    rcases ofEntries_of_isBeyondDoubles hBeyond with
      ⟨fault, hFault, hRange⟩
    refine ⟨fault, ?_, hRange⟩
    unfold Job.ofValue
    rw [hOpened]
    dsimp only
    rw [hFault, Except.mapError, hRange.asConfigFault]
  refine ⟨⟨?_, ?_⟩, hBeyond⟩
  · rintro hTold hOther
    rcases hBeyond hOther with ⟨fault, hFault, hRange⟩
    rcases hTold with ⟨job, hJob⟩ | ⟨cause, hCause, hFamily⟩
    · rw [hFault] at hJob
      cases hJob
    · rw [hFault] at hCause
      cases hCause
      rw [hRange] at hFamily
      cases hFamily
  · intro hInRange
    cases hOutcome : Job.ofValue path data with
    | ok job => exact Or.inl ⟨job, rfl⟩
    | error fault =>
        refine Or.inr ⟨fault, rfl, ?_⟩
        unfold Job.ofValue at hOutcome
        split at hOutcome
        · cases hOutcome
          rfl
        · rename_i root hOpened
          cases hRoot : Job.ofEntries root with
          | ok job =>
              rw [hRoot] at hOutcome
              cases hOutcome
          | error cause =>
              rw [hRoot] at hOutcome
              cases hOutcome
              rcases Job.ofEntries_fails root cause hRoot with
                hTold | ⟨-, hOther⟩
              · exact hTold.family
              · exact absurd ⟨root, hOpened, hOther⟩ hInRange
        · cases hOutcome
          rfl

/- A job whose feed is an integer that no double is near. -/
def hugeFeedJob : Value :=
  sample (.int 4)
    [ (.text "machine",
        .dict
          [(.text "retract_feed", .int (Int.ofNat (Nat.pow 10 400)))]) ]

/- The fault of that job is none of the job file. -/
theorem hugeFeedJob_untold :
    ∃ fault, Job.ofValue "job.yaml" hugeFeedJob = .error fault ∧
      fault.family = .overflow := by
  have hFamily :
      ((Job.ofValue "job.yaml" hugeFeedJob).map fun _ => ()).mapError
        Fault.family = .error .overflow := by
    decide +kernel
  cases hOutcome : Job.ofValue "job.yaml" hugeFeedJob with
  | ok job =>
      rw [hOutcome] at hFamily
      cases hFamily
  | error fault =>
      rw [hOutcome] at hFamily
      exact ⟨fault, rfl, Except.error.inj hFamily⟩

end Job

end Joinery
