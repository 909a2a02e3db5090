import Joinery.Proofs.Command.Escapes
import Joinery.Yaml.Value

/-
  A run of the command returns zero or one, unless a fault
  leaves it that it is not prepared for. When it returns one,
  a record of the failure has been told, unless the job has
  silenced the run.

  Key theorems include:
    * `Command.run_stopped`
    * `Command.run_ends`
    * `Command.malformed_job_escapes`
-/

namespace Joinery

open World

namespace Command

theorem ending_of_expected
    {stage : Stage}
    {fault : Fault}
    (hExpected : stage.expects fault.family = true) :
    stage.ending fault = .ok 1 := by
  rw [Stage.ending, hExpected]
  rfl

theorem ending_of_unexpected
    {stage : Stage}
    {fault : Fault}
    (hOther : stage.expects fault.family = false) :
    stage.ending fault = .error fault := by
  rw [Stage.ending, hOther]
  rfl

section Runs

variable {reader : YamlReader}
variable {texts : List Text}
variable {arguments : Arguments}
variable {world : World}

/- A run that a command line asks for is one of the command. -/
theorem run_eq
    (hRequest : Request.ofTexts texts = .ok (.run arguments)) :
    run reader texts = cutDado reader arguments := by
  unfold run
  rw [hRequest]

/- A fault that leaves a run is what the run fails with. -/
theorem run_of_escapes
    (hRequest : Request.ofTexts texts = .ok (.run arguments))
    (hFresh : world.log = { })
    (hClock : ∃ m, Clock.moment world.now = .ok m)
    {fault : Fault}
    (hEscapes : Escapes reader arguments world.tree fault) :
    (run reader texts world).1 = .error fault := by
  rcases hEscapes with ⟨stage, text, hStops, hOther⟩
  rcases cutDado_stopped (Request.isChosen hRequest) hFresh hClock hStops
    with ⟨after, hCourse, _⟩
  rw [run_eq hRequest, hCourse, ending_of_unexpected hOther]

/-
  A run returns zero when it finishes, and one when a fault
  stops it that it is prepared for. Otherwise a fault leaves
  it.
-/
theorem run_cases
    (hRequest : Request.ofTexts texts = .ok (.run arguments))
    (hFresh : world.log = { })
    (hClock : ∃ m, Clock.moment world.now = .ok m) :
    (run reader texts world).1 = .ok 0 ∨
      ((run reader texts world).1 = .ok 1 ∧
        ∃ stage fault text,
          StopsAt reader arguments world.tree stage fault text ∧
          stage.expects fault.family = true ∧
          Went (LogsAside reader arguments world) world
            (run reader texts world).2 text
            (¬ IsUnheard reader arguments world.tree)) ∨
      ∃ fault, Escapes reader arguments world.tree fault := by
  have hChosen := Request.isChosen hRequest
  rw [run_eq hRequest]
  rcases finishes_or_stops reader arguments world.tree with
    ⟨text, hFinishes⟩ | ⟨stage, fault, text, hStops⟩
  · left
    rcases cutDado_finished hChosen hFresh hClock hFinishes with
      ⟨after, hCourse, _⟩
    rw [hCourse]
  · right
    rcases cutDado_stopped hChosen hFresh hClock hStops with
      ⟨after, hCourse, hWent, -⟩
    by_cases hExpected : stage.expects fault.family = true
    · left
      rw [hCourse, ending_of_expected hExpected]
      refine ⟨rfl, stage, fault, text, hStops, hExpected, ?_⟩
      simpa only [hExpected, true_and] using hWent
    · right
      rw [Bool.not_eq_true] at hExpected
      exact ⟨fault, stage, text, hStops, hExpected⟩

/- A run that returns one is stopped by a fault that it expects. -/
theorem run_stopped
    (hRequest : Request.ofTexts texts = .ok (.run arguments))
    (hFresh : world.log = { })
    (hClock : ∃ m, Clock.moment world.now = .ok m)
    (hOne : (run reader texts world).1 = .ok 1) :
    ∃ stage fault text,
      StopsAt reader arguments world.tree stage fault text ∧
      stage.expects fault.family = true ∧
      Went (LogsAside reader arguments world) world
        (run reader texts world).2 text
        (¬ IsUnheard reader arguments world.tree) := by
  rcases run_cases hRequest hFresh hClock with
    hZero | ⟨-, hStopped⟩ | ⟨fault, hEscapes⟩
  · rw [hZero] at hOne
    cases hOne
  · exact hStopped
  · rw [run_of_escapes hRequest hFresh hClock hEscapes] at hOne
    cases hOne

end Runs

/-
  However documents are read, a run whose command line is
  accepted fails exactly with the faults that leave it: with
  those of the job file and of its reader before its content
  is looked at, of the log file, and of the path of the
  output, and with numbers out of range. Otherwise it returns
  zero or one, and if it returns one, a record of the failure
  is on the error stream, unless the job has been read and
  silences it.
-/
theorem run_ends
    (reader : YamlReader)
    (texts : List Text)
    (arguments : Arguments)
    (world : World)
    (hRequest : Request.ofTexts texts = .ok (.run arguments))
    (hFresh : world.log = { })
    (hClock : ∃ m, Clock.moment world.now = .ok m) :
    (∀ fault,
      (run reader texts world).1 = .error fault ↔
        Escapes reader arguments world.tree fault) ∧
    (∀ fault, Escapes reader arguments world.tree fault →
      fault.IsOverflow ∨ arguments.content reader world.tree = .error fault ∨
        ∃ stage text, (stage = .log ∨ stage = .file) ∧
          StopsAt reader arguments world.tree stage fault text) ∧
    (∀ code, (run reader texts world).1 = .ok code → code = 0 ∨ code = 1) ∧
    ((run reader texts world).1 = .ok 1 →
      ∃ levels, Logs world (run reader texts world).2 levels ∧
        (errorLevel ∈ levels ↔ ¬ IsUnheard reader arguments world.tree)) := by
  have hEscaping :=
    @run_of_escapes reader texts arguments world hRequest hFresh hClock
  have hCases :=
    @run_cases reader texts arguments world hRequest hFresh hClock
  refine ⟨fun fault => ⟨?_, hEscaping⟩, fun _ => Escapes.origin, ?_, ?_⟩
  · intro hFault
    rw [hFault] at hCases
    rcases hCases with hZero | ⟨hOne, -⟩ | ⟨other, hEscapes⟩
    · cases hZero
    · cases hOne
    · rw [hEscaping hEscapes] at hFault
      cases hFault
      exact hEscapes
  · intro code hCode
    rw [hCode] at hCases
    rcases hCases with hZero | ⟨hOne, -⟩ | ⟨other, hEscapes⟩
    · cases hZero
      exact Or.inl rfl
    · cases hOne
      exact Or.inr rfl
    · rw [hEscaping hEscapes] at hCode
      cases hCode
  · intro hOne
    rcases run_stopped hRequest hFresh hClock hOne with
      ⟨_, _, _, -, -, hWent⟩
    rcases hWent.logs with ⟨levels, hTold, hLogs⟩
    exact ⟨levels, hLogs, hTold⟩

/- The world of a run in an empty directory. -/
def bareWorld : World where
  tree := { home := [] }

/- The world of a run in a directory that only a job file is in. -/
def jobWorld
    (content : String) : World where
  tree := bareWorld.tree.withFile ["job.yaml"] (Encoding.utf8 content)

/- The arguments of a run that is given the job file. -/
def jobArguments : Arguments where
  config := some (.text "job.yaml")

/- The time that those worlds begin with can be shown. -/
theorem start_moment
    {world : World}
    (hStart : world.now = 0.0) :
    ∃ m, Clock.moment world.now = .ok m := by
  have hShown :
      (Clock.moment 0.0).toOption.map (fun _ => true) = some true := by
    decide +kernel
  rcases Outcome.exists_of_toOption hShown with ⟨m, hMoment, -⟩
  exact ⟨m, hStart ▸ hMoment⟩

/- A short source is read in one piece. -/
theorem Source.ofBytes_of_piece
    {bytes : List UInt8}
    {text : List Char}
    (hPiece :
      (Encoding.pieces Yaml.Source.pieceSize bytes).texts = [text])
    (hFault :
      (Encoding.pieces Yaml.Source.pieceSize bytes).fault = none)
    (hAllowed : text.all Yaml.isAllowed = true) :
    Yaml.Source.ofBytes bytes = ⟨text, none⟩ := by
  have hPieces :
      Encoding.pieces Yaml.Source.pieceSize bytes = ⟨[text], none⟩ := by
    revert hPiece hFault
    rcases Encoding.pieces Yaml.Source.pieceSize bytes with ⟨texts, fault⟩
    rintro rfl rfl
    rfl
  rw [Yaml.Source.ofBytes, hPieces, Yaml.Source.joinFirst,
    Yaml.Source.ofPieces, if_pos hAllowed, Yaml.Source.ofPieces]
  simp

/- What is read from characters as a job file. -/
def jobOfChars
    (chars : List Char) : Outcome Job :=
  Yaml.loadSource ⟨chars, none⟩ >>= Job.ofValue "job.yaml"

/- Characters that are all allowed, and are read from a file in one piece. -/
def IsShortSource
    (chars : List Char) : Prop :=
  let pieces :=
    Encoding.pieces Yaml.Source.pieceSize
      (chars.flatMap fun c => Encoding.utf8Bytes c.toNat)
  pieces.texts = [chars] ∧ pieces.fault = none ∧
    chars.all Yaml.isAllowed = true

instance
    (chars : List Char) :
    Decidable (IsShortSource chars) := by
  unfold IsShortSource
  infer_instance

/- A run that is given a short job file has the job that is in it. -/
theorem jobWorld_job
    {content : String}
    {chars : List Char}
    {arguments : Arguments}
    (hConfig : arguments.config = some (.text "job.yaml"))
    (hChars : content = String.ofList chars)
    (hShort : IsShortSource chars) :
    arguments.job Yaml.load (jobWorld content).tree = jobOfChars chars := by
  have hContent :
      (jobWorld content).tree.contentAt? (Path.ofText "job.yaml") =
        some (Encoding.utf8 content) := rfl
  have hSource :=
    Source.ofBytes_of_piece hShort.1 hShort.2.1 hShort.2.2
  unfold Arguments.job
  rw [hConfig]
  show (Disk.loadJob Yaml.load (Path.ofText "job.yaml") _).1 = _
  rw [Disk.loadJob_of_content Yaml.load hContent, Yaml.load, hChars,
    Encoding.utf8, String.toList_ofList, hSource]
  rfl

/- Two strings one behind the other have the characters of both. -/
theorem append_eq_ofList
    {s t : String}
    {first second : List Char}
    (hFirst : s = String.ofList first)
    (hSecond : t = String.ofList second) :
    s ++ t = String.ofList (first ++ second) := by
  rw [hFirst, hSecond, String.ofList_append]

/- What the arguments of a run with the job file are. -/
theorem jobArguments_request :
    Request.ofTexts ["--config", "job.yaml"] =
      .ok (.run jobArguments) := by
  rfl

/- A run that does not find its job file returns one, and tells of it. -/
theorem missing_job_told :
    Request.ofTexts ["--config", "job.yaml"] =
        .ok (.run jobArguments) ∧
      (run Yaml.load ["--config", "job.yaml"] bareWorld).1 = .ok 1 ∧
      ∃ levels,
        Logs bareWorld
            (run Yaml.load ["--config", "job.yaml"] bareWorld).2 levels ∧
        errorLevel ∈ levels := by
  have hRequest := jobArguments_request
  have hJob :
      jobArguments.job Yaml.load bareWorld.tree =
        .error (.configMissing "job.yaml") :=
    rfl
  have hHeard : ¬ IsUnheard Yaml.load jobArguments bareWorld.tree := by
    rintro ⟨job, hOther, _⟩
    rw [hJob] at hOther
    cases hOther
  rcases cutDado_stopped (Request.isChosen hRequest) rfl
      (start_moment (by rfl)) (.job hJob) with ⟨after, hCourse, _⟩
  have hOne : (run Yaml.load ["--config", "job.yaml"] bareWorld).1 = .ok 1 := by
    rw [run_eq hRequest, hCourse]
    rfl
  have hEnds :=
    run_ends Yaml.load _ _ bareWorld hRequest rfl (start_moment rfl)
  rcases hEnds.2.2.2 hOne with ⟨levels, hLogs, hTold⟩
  exact ⟨hRequest, hOne, levels, hLogs, hTold.mpr hHeard⟩

/-
  A job file that is no YAML makes the run fail: it returns no
  exit code, and tells of nothing.
-/
theorem malformed_job_escapes :
    Request.ofTexts ["--config", "job.yaml"] =
        .ok (.run jobArguments) ∧
      ∃ fault,
        (run Yaml.load ["--config", "job.yaml"] (jobWorld "@")).1 =
            .error fault ∧
        fault.family = .markup ∧
        ∃ levels,
          Logs (jobWorld "@")
            (run Yaml.load ["--config", "job.yaml"] (jobWorld "@")).2 levels ∧
          errorLevel ∉ levels := by
  have hRequest := jobArguments_request
  have hContent :
      (jobWorld "@").tree.contentAt? (Path.ofText "job.yaml") =
        some [0x40] := by
    rfl
  have hSource : Yaml.Source.ofBytes [0x40] = ⟨['@'], none⟩ := by
    apply Source.ofBytes_of_piece <;> rfl
  have hMarkup :
      ((Yaml.loadSource ⟨['@'], none⟩).map fun _ => ()).mapError
        Fault.family = .error .markup := by
    decide +kernel
  cases hLoad : Yaml.loadSource ⟨['@'], none⟩ with
  | ok data =>
      rw [hLoad] at hMarkup
      cases hMarkup
  | error fault =>
      rw [hLoad] at hMarkup
      have hFamily : fault.family = .markup := Except.error.inj hMarkup
      have hJob :
          jobArguments.job Yaml.load (jobWorld "@").tree =
            .error fault := by
        show (Disk.loadJob Yaml.load (Path.ofText "job.yaml") _).1 = _
        rw [Disk.loadJob_of_content Yaml.load hContent, Yaml.load,
          hSource, hLoad]
        rfl
      rcases cutDado_stopped (Request.isChosen hRequest) rfl
          (start_moment (by rfl)) (.job hJob) with ⟨after, hCourse, hWent, -⟩
      have hOther : Stage.job.expects fault.family = false := by
        rw [hFamily]
        rfl
      rw [run_eq hRequest, hCourse, ending_of_unexpected hOther]
      refine ⟨hRequest, fault, rfl, hFamily, ?_⟩
      rcases hWent.logs with ⟨levels, hTold, hLogs⟩
      refine ⟨levels, hLogs, ?_⟩
      rw [hTold, hOther]
      simp

end Command

end Joinery
