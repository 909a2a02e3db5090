import Joinery.Proofs.Command.LogOptions
import Joinery.Proofs.FileTree.Saving
import Joinery.Proofs.Gcode.Clear

/-
  The G-code of a job is the same whether it is written to the
  output or to a file. A run that is named a file ends in the
  same way as one that is not. What the one writes to the
  output is in the file of the other, if they succeed; if they
  do not, all files are as they were.

  Key theorems include:
    * `Command.making_toFile`
    * `Command.file_output_agrees`
    * `Command.refused_files`
-/

namespace Joinery

open World

namespace Command

section Runs

variable {reader : YamlReader}
variable {arguments : Arguments}
variable {name : Text}

------------------------------------------------------------
-- Making The G-Code
------------------------------------------------------------

theorem target?_toFile
    (arguments : Arguments)
    (hName : name ≠ "") :
    target? (arguments.toFile name) = some name := by
  have hKept : (!name.isEmpty) = true := by
    rw [Bool.not_eq_true', ← Bool.not_eq_true]
    intro hEmpty
    rw [Text.isEmpty, Bool.and_eq_true, String.isEmpty_iff,
      List.isEmpty_iff] at hEmpty
    exact hName (congrArg₂ Text.mk hEmpty.1 hEmpty.2)
  exact Option.filter_some_pos hKept

/-
  The G-code of a job is made for a file as for the output: it
  fails with the same fault, or consists of the same lines.
-/
theorem making_toFile
    (hTree : arguments.tree = false)
    (hOutput : arguments.output = none)
    (hName : name ≠ "")
    (job : Job) :
    (∃ fault text,
        arguments.making job = (.error fault, text) ∧
          (arguments.toFile name).making job = (.error fault, { })) ∨
      ∃ listing : Listing,
        arguments.making job = (.ok none, listing.text) ∧
          (arguments.toFile name).making job =
            (.ok (some listing.text), { }) ∧
          listing.text.IsClear := by
  have hPrinted : target? arguments = none := by
    rw [target?, hOutput]
    rfl
  have hSaved := target?_toFile arguments hName
  have hFlag : (arguments.toFile name).tree = false := hTree
  unfold Arguments.making
  rw [hPrinted, hSaved, hTree, hFlag]
  cases planOf job with
  | error fault => exact Or.inl ⟨fault, { }, rfl, rfl⟩
  | ok plan =>
      dsimp only
      cases hCount : (listingOf job plan).count with
      | error fault =>
          exact Or.inl ⟨fault, (listingOf job plan).text, rfl, rfl⟩
      | ok count =>
          refine Or.inr ⟨listingOf job plan, rfl, rfl, ?_⟩
          exact Listing.text_isClear .millimeter
            (plan.leaves_areClear job.settings { })

------------------------------------------------------------
-- Two Runs
------------------------------------------------------------

/-
  What a run that writes to the output leaves, and one that
  writes to a file: the other writes nothing to the output.
  If they succeed, the lines of the one are the content of the
  file. If they do not, all files are as they were.
-/
structure SameProduct
    (name : Text)
    (result : Outcome Nat)
    (world printed saved : World) : Prop where
  silent : saved.output = world.output
  written :
    result = .ok 0 →
      ∃ (lines : List Text) (text : Text) (bytes : List UInt8),
        text = Text.join (lines.map fun line => line ++ "\n") ∧
          printed.output = world.output ++ text ∧
          Encoding.encode? Encoding.ofFiles text = some bytes ∧
          saved.tree.contentAt? (Path.ofText name) = some bytes
  kept :
    result ≠ .ok 0 → FileTree.SameBut none world.tree saved.tree

theorem Stage.ending_ne_zero
    (stage : Stage)
    (fault : Fault) :
    stage.ending fault ≠ .ok 0 := by
  unfold Stage.ending
  split
  · intro hSame
    exact absurd (Except.ok.inj hSame) Nat.one_ne_zero
  · rintro ⟨⟩

variable {world : World}

/- Where a run is stopped that names a file, nothing is written. -/
theorem sameProduct_of_stops
    (hChosen : arguments.IsChosen)
    (hFresh : world.log = { })
    (hClock : ∃ m, Clock.moment world.now = .ok m)
    (hSound : world.tree.IsSound)
    {stage : Stage}
    {fault : Fault}
    {text : Text}
    (hPrints : StopsAt reader arguments world.tree stage fault text)
    (hSaves :
      StopsAt reader (arguments.toFile name) world.tree stage fault { })
    (hRemains :
      (arguments.toFile name).remains reader world.tree =
        ⟨none, world.tree⟩)
    (hAside : LogsAside reader arguments world) :
    (cutDado reader arguments world).1 =
        (cutDado reader (arguments.toFile name) world).1 ∧
      SameProduct name (cutDado reader arguments world).1 world
        (cutDado reader arguments world).2
        (cutDado reader (arguments.toFile name) world).2 := by
  have hChosenToo : (arguments.toFile name).IsChosen := hChosen
  have hAsideToo : LogsAside reader (arguments.toFile name) world := hAside
  rcases cutDado_stopped hChosen hFresh hClock hPrints with
    ⟨printed, hFirst, -, -⟩
  rcases cutDado_stopped hChosenToo hFresh hClock hSaves with
    ⟨saved, hSecond, hWent, hLeaves⟩
  rw [hFirst, hSecond]
  refine ⟨rfl, ?_, ?_, ?_⟩
  · exact (hWent.output hAsideToo).trans (Text.append_empty _)
  · intro hZero
    exact absurd hZero (stage.ending_ne_zero fault)
  · intro _
    have hKept := hLeaves hSound
    rw [hRemains] at hKept
    exact hKept

/- Where a run finishes that names a file, its lines are in the file. -/
theorem sameProduct_of_saved
    (hChosen : arguments.IsChosen)
    (hFresh : world.log = { })
    (hClock : ∃ m, Clock.moment world.now = .ok m)
    (hSound : world.tree.IsSound)
    {listing : Listing}
    {later : FileTree}
    {bytes : List UInt8}
    (hPrints : Finishes reader arguments world.tree listing.text)
    (hSaves : Finishes reader (arguments.toFile name) world.tree { })
    (hRemains :
      (arguments.toFile name).remains reader world.tree = ⟨none, later⟩)
    (hBytes : Encoding.encode? Encoding.ofFiles listing.text = some bytes)
    (hContent : later.contentAt? (Path.ofText name) = some bytes)
    (hAside : LogsAside reader arguments world) :
    (cutDado reader arguments world).1 =
        (cutDado reader (arguments.toFile name) world).1 ∧
      SameProduct name (cutDado reader arguments world).1 world
        (cutDado reader arguments world).2
        (cutDado reader (arguments.toFile name) world).2 := by
  have hChosenToo : (arguments.toFile name).IsChosen := hChosen
  have hAsideToo : LogsAside reader (arguments.toFile name) world := hAside
  rcases cutDado_finished hChosen hFresh hClock hPrints with
    ⟨printed, hFirst, hWent, -⟩
  rcases cutDado_finished hChosenToo hFresh hClock hSaves with
    ⟨saved, hSecond, hSilent, hLeaves⟩
  have hKept := hLeaves hSound
  rw [hRemains] at hKept
  rw [hFirst, hSecond]
  refine ⟨rfl, ?_, fun _ => ?_, fun hFailed => absurd rfl hFailed⟩
  · exact (hSilent.output hAsideToo).trans (Text.append_empty _)
  · refine ⟨listing.lines, listing.text, bytes, rfl,
      hWent.output hAside, hBytes, ?_⟩
    rw [← hContent]
    exact (hKept.contentAt?_eq fun _ hLogged => nomatch hLogged).symm

/-
  A run that is named a file for the G-code goes as one that
  is not.
-/
theorem cutDado_toFile
    (hChosen : arguments.IsChosen)
    (hTree : arguments.tree = false)
    (hOutput : arguments.output = none)
    (hFresh : world.log = { })
    (hClock : ∃ m, Clock.moment world.now = .ok m)
    (hSound : world.tree.IsSound)
    (hRooted : world.tree.IsRooted)
    (hTarget : world.tree.IsTarget (Path.ofText name))
    (hNoLog :
      ∀ job, arguments.job reader world.tree = .ok job →
        job.logging.file = none) :
    (cutDado reader arguments world).1 =
        (cutDado reader (arguments.toFile name) world).1 ∧
      SameProduct name (cutDado reader arguments world).1 world
        (cutDado reader arguments world).2
        (cutDado reader (arguments.toFile name) world).2 := by
  have hName : name ≠ "" := by
    rintro rfl
    exact Disk.parts_of_target hTarget rfl
  have hAside : LogsAside reader arguments world :=
    logsAside_of_noFile hNoLog
  cases hJob : arguments.job reader world.tree with
  | error fault =>
      have hSame :
          (arguments.toFile name).job reader world.tree = .error fault :=
        hJob
      exact sameProduct_of_stops hChosen hFresh hClock hSound (.job hJob)
        (.job hSame) (remains_of_noJob hSame) hAside
  | ok job =>
      have hSame : (arguments.toFile name).job reader world.tree = .ok job :=
        hJob
      have hOpened :
          ∀ asked : Arguments,
            Disk.openLog (jobSetup asked job.logging).file world.tree =
              (.ok none, world.tree) := by
        intro asked
        unfold jobSetup
        rw [hNoLog job hJob]
        rfl
      have hFirst : Begins reader arguments world.tree job world.tree :=
        ⟨hJob, none, hOpened arguments⟩
      have hSecond :
          Begins reader (arguments.toFile name) world.tree job world.tree :=
        ⟨hSame, none, hOpened _⟩
      rcases making_toFile hTree hOutput hName job with
        ⟨fault, text, hPrints, hSaves⟩ | ⟨listing, hPrints, hSaves, hClear⟩
      · refine sameProduct_of_stops hChosen hFresh hClock hSound
          (.path hFirst hPrints) (.path hSecond hSaves)
          (remains_of_unsaved hSame (hOpened _) ?_) hAside
        intro product
        rw [hSaves]
        rintro ⟨⟩
      · have hBytes := Encoding.encode?_ofFiles hClear
        rcases Disk.writeTextAtomically_target hRooted hTarget hBytes with
          ⟨later, hWrite, hContent⟩
        have hNamed := target?_toFile arguments hName
        have hSaving :
            saving name listing.text world.tree = (.ok ⟨⟩, later) := hWrite
        have hRemains :
            (arguments.toFile name).remains reader world.tree =
              ⟨none, later⟩ := by
          rw [remains_of_saving hSame (hOpened _) hSaves hNamed, hSaving]
        exact sameProduct_of_saved hChosen hFresh hClock hSound
          (.written hFirst hPrints)
          (.saved hSecond hSaves hNamed (congrArg Prod.fst hSaving))
          hRemains hBytes hContent hAside

theorem job_ofConfig
    (reader : YamlReader)
    (config : Text)
    (tree : FileTree) :
    (Arguments.ofConfig config).job reader tree =
      (Disk.loadJob reader (Path.ofText config) tree).1 := by
  unfold Arguments.job Arguments.ofConfig
  exact Outcome.ok_bind _ _

/-
  Take a command line that names a job file, and the same one
  with a file for the G-code behind it. The file has a name
  that the command line can give and that the file system
  accepts, its directory is there and can be written to, and
  nothing is at the path of the temporary file. If the job
  names no log file, both runs end in the same way, however
  documents are read. The second one writes nothing to the
  output. If they return zero, the file has the bytes of the
  text that the first one writes to the output, which consists
  of ended lines; if they do not, the file is as it was, and
  so are all others.
-/
theorem file_output_agrees
    (reader : YamlReader)
    (config name : Text)
    (world : World)
    (hPlain : Word.ofText name = .ok (.plain name))
    (hFresh : world.log = { })
    (hClock : ∃ m, Clock.moment world.now = .ok m)
    (hSound : world.tree.IsSound)
    (hRooted : world.tree.IsRooted)
    (hTarget : world.tree.IsTarget (Path.ofText name))
    (hNoLog :
      ∀ job,
        (Disk.loadJob reader (Path.ofText config) world.tree).1 = .ok job →
        job.logging.file = none) :
    (run reader ["--config", config] world).1 =
        (run reader ["--config", config, "--output", name] world).1 ∧
      SameProduct name (run reader ["--config", config] world).1 world
        (run reader ["--config", config] world).2
        (run reader ["--config", config, "--output", name] world).2 := by
  rcases Request.ofTexts_config config hPlain with
    ⟨hFirst, hSecond⟩ | ⟨fault, other, hFirst, hSecond⟩
  · rw [← job_ofConfig] at hNoLog
    rw [run_eq hFirst, run_eq hSecond]
    exact cutDado_toFile (Request.isChosen hFirst) rfl rfl hFresh hClock
      hSound hRooted hTarget hNoLog
  · rcases run_refused hFirst reader world with ⟨hTwo, -, -⟩
    rcases run_refused hSecond reader world with ⟨hSame, hNone, hTree⟩
    rw [hTwo, hSame]
    refine ⟨rfl, hNone, fun hZero => ?_, fun _ => ?_⟩
    · exact absurd (Except.ok.inj hZero) (by decide)
    · rw [hTree]
      exact FileTree.SameBut.refl none world.tree

end Runs

------------------------------------------------------------
-- A Job Written To A File
------------------------------------------------------------

/- What is in the directory of the job file is in a directory. -/
theorem jobWorld_isRooted
    (content : String) :
    (jobWorld content).tree.IsRooted := by
  intro place hEntry
  rw [jobWorld_place] at hEntry
  split at hEntry
  · rename_i hRoot
    rw [hRoot]
    rfl
  · split at hEntry
    · rename_i hJob
      rw [hJob]
      rfl
    · exact absurd rfl hEntry

/- The job of whole numbers is cut into a file. -/
theorem plain_job_in_file :
    (run Yaml.load ["--config", "job.yaml", "--output", "out.ngc"]
          (jobWorld plainJob)).1 = .ok 0 ∧
      SameProduct "out.ngc" (.ok 0) (jobWorld plainJob)
        (run Yaml.load ["--config", "job.yaml"] (jobWorld plainJob)).2
        (run Yaml.load ["--config", "job.yaml", "--output", "out.ngc"]
          (jobWorld plainJob)).2 := by
  have hTarget :
      (jobWorld plainJob).tree.IsTarget (Path.ofText "out.ngc") := by
    refine ⟨rfl, ⟨["out.ngc"], ?_, nofun, rfl⟩, ?_⟩
    · exact Disk.locate_ok_iff.mpr ⟨rfl, rfl⟩
    · intro temporary hTemporary
      rw [Disk.temporary_ofText (by decide)] at hTemporary
      cases hTemporary
      exact
        ⟨["out.ngc.tmp"], Disk.locate_ok_iff.mpr ⟨rfl, rfl⟩, rfl, rfl⟩
  have hNoLog :
      ∀ job,
        (Disk.loadJob Yaml.load (Path.ofText "job.yaml")
            (jobWorld plainJob).tree).1 = .ok job →
          job.logging.file = none := by
    intro job hJob
    rcases plainJob_making with ⟨other, _, hOther, hFile, -⟩
    have hSame := (job_ofConfig _ _ _).symm.trans hOther
    rw [hJob] at hSame
    cases hSame
    exact hFile
  have hBoth :=
    file_output_agrees Yaml.load "job.yaml" "out.ngc" (jobWorld plainJob)
      rfl rfl (start_moment rfl) (jobWorld_isSound plainJob)
      (jobWorld_isRooted plainJob) hTarget hNoLog
  rw [plainJob_run] at hBoth
  exact ⟨hBoth.1.symm, hBoth.2⟩

/- A name that can be that of a file, but not with a suffix behind it. -/
def longName : Text :=
  String.ofList (List.replicate 252 'a')

theorem longName_letters :
    longName.letters = List.replicate 252 (.char 'a') := by
  rw [longName, Text.letters_ofString, String.toList_ofList,
    List.map_replicate]

theorem longName_bytes :
    Encoding.fileName? longName = some (List.replicate 252 0x61) ∧
      Encoding.fileName? (longName ++ Disk.temporarySuffix) =
        some (List.replicate 252 0x61 ++ [0x2e, 0x74, 0x6d, 0x70]) := by
  have hEach :
      ∀ n, (List.replicate n (Letter.char 'a')).mapM
          Encoding.fileNameLetter? = some (List.replicate n [0x61]) := by
    intro n
    induction n with
    | zero => rfl
    | succ n ih =>
        rw [List.replicate_succ, List.mapM_cons, ih]
        rfl
  have hName :
      Encoding.fileName? longName = some (List.replicate 252 0x61) := by
    rw [Encoding.fileName?, longName_letters, hEach, Option.map_some,
      List.flatten_replicate_singleton]
  exact ⟨hName, Encoding.fileName?_append hName rfl⟩

theorem longName_byteCount :
    FileTree.byteCount longName = 252 ∧
      FileTree.byteCount (longName ++ Disk.temporarySuffix) = 256 := by
  rw [FileTree.byteCount, FileTree.byteCount, longName_bytes.1,
    longName_bytes.2, Option.getD_some, Option.getD_some,
    List.length_append, List.length_replicate]
  exact ⟨rfl, rfl⟩

/- So both are other texts than any short one. -/
theorem longName_ne
    {t : Text}
    (hShort : FileTree.byteCount t < 252) :
    longName ≠ t ∧ longName ++ Disk.temporarySuffix ≠ t := by
  constructor
  · rintro rfl
    rw [longName_byteCount.1] at hShort
    exact lt_irrefl _ hShort
  · rintro rfl
    rw [longName_byteCount.2] at hShort
    exact absurd hShort (by decide)

/- The command line and the file system take the name as it is. -/
theorem longName_plain :
    Word.ofText longName = .ok (.plain longName) ∧
      Path.ofText longName = ⟨"", [longName]⟩ := by
  constructor
  · rw [Word.ofText, longName_letters]
    rfl
  · refine Path.ofText_name ?_
      ⟨(longName_ne (by decide)).1,
        (longName_ne (by decide)).1⟩
    rw [longName_letters]
    exact fun hMem =>
      absurd (List.eq_of_mem_replicate hMem) (by decide)

/- A text cannot be saved under this name, though a file could have it. -/
theorem saving_longName
    {text : Text}
    (hClear : text.IsClear) :
    ∃ fault, fault.family = .system ∧
      saving longName text (jobWorld plainJob).tree =
        (.error fault, (jobWorld plainJob).tree) := by
  have hPath := longName_plain.2
  have hTemporary :
      Disk.temporary (Path.ofText longName) Disk.temporarySuffix =
        .ok ⟨"", [longName ++ Disk.temporarySuffix]⟩ := by
    rw [Disk.temporary_ofText (by rw [hPath]; exact List.cons_ne_nil _ _),
      hPath]
    rfl
  have hFlaw :
      Disk.flaw? ⟨"", [longName ++ Disk.temporarySuffix]⟩ = none := by
    rw [Disk.flaw?_eq_none_iff, Path.text_name, longName_bytes.2]
    refine ⟨rfl, ?_⟩
    rw [Text.letters_append, longName_letters, List.mem_append, not_or]
    exact
      ⟨fun hMem => absurd (List.eq_of_mem_replicate hMem) (by decide),
        by decide⟩
  have hLong :
      (jobWorld plainJob).tree.locate
          ⟨"", [longName ++ Disk.temporarySuffix]⟩ =
        .error .nameTooLong := by
    rw [FileTree.locate_name rfl (longName_ne (by decide)).2,
      longName_byteCount.2]
    rfl
  have hParent :
      (Disk.isDirectory? (Path.ofText longName).parent
        (jobWorld plainJob).tree).1 = .ok true := by
    rw [hPath]
    rfl
  exact
    ⟨_, rfl,
      Disk.writeTextAtomically_tooLong hParent hTemporary hFlaw hLong
        (Encoding.encode?_ofFiles hClear)⟩

/- So a run that is to save its lines there returns one. -/
theorem longName_run :
    (run Yaml.load ["--config", "job.yaml", "--output", longName]
      (jobWorld plainJob)).1 = .ok 1 := by
  rcases Request.ofTexts_config "job.yaml" longName_plain.1 with
    ⟨-, hRequest⟩ | ⟨_, _, hRefused, -⟩
  · rcases plainJob_making with ⟨job, text, hJob, hFile, hMaking⟩
    have hBegins :
        Begins Yaml.load (jobArguments.toFile longName)
          (jobWorld plainJob).tree job (jobWorld plainJob).tree := by
      refine ⟨hJob, none, ?_⟩
      unfold jobSetup
      rw [hFile]
      rfl
    have hName : longName ≠ "" := (longName_ne (by decide)).1
    have hTree : jobArguments.tree = false := rfl
    rcases making_toFile hTree rfl hName job with
      ⟨fault, other, hFails, -⟩ | ⟨listing, -, hSaves, hClear⟩
    · rw [hMaking] at hFails
      cases hFails
    · rcases saving_longName hClear with ⟨fault, hSystem, hSaving⟩
      rcases cutDado_stopped (Request.isChosen hRequest) rfl
          (start_moment (by rfl))
          (.file hBegins hSaves (target?_toFile _ hName)
            (congrArg Prod.fst hSaving)) with ⟨after, hCourse, -, -⟩
      rw [run_eq hRequest, hCourse, Stage.ending, Stage.expects, hSystem]
      rfl
  · rw [jobArguments_request] at hRefused
    cases hRefused

/- The world of the job file, if nothing can be changed beside it. -/
def lockedWorld : World where
  tree := { (jobWorld plainJob).tree with readOnly := [[]] }

/-
  Two names that a file could have are refused, where nothing
  is at their places or beside them: the one looks like a
  switch, and the temporary file beside the other would have
  too long a name. Nor can a file be written in a directory
  that can only be read.
-/
theorem refused_files :
    (run Yaml.load ["--config", "job.yaml"] (jobWorld plainJob)).1 = .ok 0 ∧
      (∀ name ∈ [("-x" : Text), longName],
        (jobWorld plainJob).tree.locate (Path.ofText name) = .ok [name] ∧
          FileTree.entry? (jobWorld plainJob).tree [name] = none ∧
          FileTree.entry? (jobWorld plainJob).tree
            [name ++ Disk.temporarySuffix] = none) ∧
      (run Yaml.load ["--config", "job.yaml", "--output", "-x"]
        (jobWorld plainJob)).1 = .ok 2 ∧
      (run Yaml.load ["--config", "job.yaml", "--output", longName]
        (jobWorld plainJob)).1 = .ok 1 ∧
      let reader := readerOf (jobValue [])
      (run reader ["--config", "job.yaml"] lockedWorld).1 = .ok 0 ∧
        (run reader ["--config", "job.yaml", "--output", "out.ngc"]
          lockedWorld).1 = .ok 1 ∧
        lockedWorld.tree.locate (Path.ofText "out.ngc") =
            .ok ["out.ngc"] ∧
          FileTree.entry? lockedWorld.tree ["out.ngc"] = none ∧
          FileTree.entry? lockedWorld.tree ["out.ngc.tmp"] = none := by
  refine ⟨plainJob_run, ?_, ?_, longName_run, ?_, ?_, ⟨rfl, rfl, rfl⟩⟩
  · rw [List.forall_mem_cons, List.forall_mem_singleton]
    refine ⟨⟨rfl, rfl, rfl⟩, ?_, ?_, ?_⟩
    · rw [longName_plain.2,
        FileTree.locate_name rfl (longName_ne (by decide)).1,
        longName_byteCount.1]
      rfl
    · have hOther : longName ≠ "job.yaml" :=
        (longName_ne (by decide)).1
      simp [jobWorld_place, hOther]
    · have hOther : longName ++ Disk.temporarySuffix ≠ "job.yaml" :=
        (longName_ne (by decide)).2
      simp [jobWorld_place, hOther]
  · have hRefused :
        Request.ofTexts ["--config", "job.yaml", "--output", "-x"] =
          .error (.valueMissing .output) := rfl
    exact (run_refused hRefused _ _).1
  · exact Outcome.eq_ok_of_toOption (by decide +kernel)
  · exact Outcome.eq_ok_of_toOption (by decide +kernel)

end Command

end Joinery
