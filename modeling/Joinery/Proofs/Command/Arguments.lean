import Joinery.Command.Arguments
import Joinery.Proofs.Yields

/-
  Whatever a command line asks for, a level that it names is
  one of the choices. Whether a job file is accepted does not
  depend on a file that is named behind it for the G-code.

  Key definitions include:
    * `Request.IsChosen`

  Key theorems include:
    * `Progress.read_yields`
    * `Request.isChosen`
    * `Request.ofTexts_config`
-/

namespace Joinery

namespace Command

/- The level of a command line, if it names one, is a choice. -/
def Arguments.IsChosen
    (arguments : Arguments) : Prop :=
  ∀ level ∈ arguments.logLevel, isLevelChoice level = true

/- A request to run has a chosen level. -/
def Request.IsChosen : Request → Prop
  | .help => True
  | .run arguments => arguments.IsChosen

namespace Arguments

variable {arguments : Arguments}

theorem take_yields
    (hChosen : arguments.IsChosen)
    (switch : Switch)
    (value : Operand) :
    Yields Request.IsChosen (arguments.take switch value) := by
  cases switch with
  | help => exact Yields.ok trivial
  | config => exact Yields.ok hChosen
  | output => exact Yields.ok hChosen
  | tree => exact Yields.ok hChosen
  | logJson => exact Yields.ok hChosen
  | logLevel =>
      cases hText : value.text? with
      | none =>
          simp only [take, hText]
          refine Yields.ok ?_
          rintro _ ⟨⟩
      | some level =>
          simp only [take, hText]
          split
          · rename_i hChoice
            refine Yields.ok ?_
            rintro _ ⟨⟩
            exact hChoice
          · exact Yields.error _

theorem takeAll_yields
    (hChosen : arguments.IsChosen)
    (taken : List (Switch × Operand)) :
    Yields Request.IsChosen (arguments.takeAll taken) := by
  induction taken generalizing arguments with
  | nil => exact Yields.ok hChosen
  | cons first rest ih =>
      rw [takeAll]
      refine Yields.bind (take_yields hChosen _ _) fun request hNext => ?_
      cases request with
      | help => exact Yields.ok trivial
      | run more => exact ih hNext

end Arguments

namespace Progress

/- Taking switches, and then going on, keeps the level a choice. -/
theorem taking_yields
    {p : Progress}
    {next : Progress → Except UsageFault Request}
    (hChosen : p.arguments.IsChosen)
    (hNext :
      ∀ q : Progress, q.arguments.IsChosen →
        Yields Request.IsChosen (next q))
    (taken : List (Switch × Operand)) :
    Yields Request.IsChosen (p.taking taken next) := by
  rw [taking]
  refine Yields.bind (Arguments.takeAll_yields hChosen taken)
    fun request hReached => ?_
  cases request with
  | help => exact Yields.ok trivial
  | run more => exact hNext _ hReached

/- Reading on keeps the level a choice. -/
theorem read_yields
    {p : Progress}
    (hChosen : p.arguments.IsChosen)
    (words : List Word) :
    Yields Request.IsChosen (p.read words) := by
  induction words generalizing p with
  | nil =>
      rw [read]
      split
      · exact Yields.error _
      · split
        · exact Yields.ok hChosen
        · exact Yields.error _
  | cons word rest ih =>
      have hSkip :
          ∀ text : Text,
            Yields Request.IsChosen
              (read { p with extras := p.extras ++ [text] } rest) := by
        intro text
        exact ih hChosen
      unfold read
      dsimp only
      split
      · exact taking_yields hChosen (fun q hQ => ih hQ) _
      · exact Yields.error _
      · exact hSkip _
      · exact hSkip _
      · exact hSkip _
      · refine Yields.bind (Yields.any _) fun bundle _ => ?_
        split
        · exact ih hChosen
        · exact taking_yields hChosen (fun q hQ => ih hQ) _

end Progress

/- A command line that is accepted names a choice, if any level. -/
theorem Request.isChosen
    {texts : List Text}
    {arguments : Arguments}
    (hRequest : Request.ofTexts texts = .ok (.run arguments)) :
    arguments.IsChosen := by
  have hYields :
      Yields Request.IsChosen (Request.ofTexts texts) := by
    unfold Request.ofTexts
    refine Yields.bind (Yields.any _) fun words _ => ?_
    apply Progress.read_yields
    rintro _ ⟨⟩
  exact hYields _ hRequest

------------------------------------------------------------
-- A Job File And A Target
------------------------------------------------------------

/- What is sorted as a plain text is that text, and not a divider. -/
theorem Word.plain_ofText
    {t plain : Text}
    (hPlain : Word.ofText t = .ok (.plain plain)) :
    plain = t ∧ Operand.ofText t = .text t := by
  have hText : plain = t := by
    have hUnclaimed :
        ∀ {w}, unclaimed t = w → w = .plain plain → plain = t := by
      rintro w rfl hWord
      unfold unclaimed at hWord
      split at hWord
      · cases hWord
        rfl
      · cases hWord
    unfold Word.ofText at hPlain
    split at hPlain
    · cases hPlain
    · dsimp only at hPlain
      split at hPlain
      · cases hPlain
      · unfold Word.ofDashed at hPlain
        split at hPlain
        · unfold Word.ofLong at hPlain
          dsimp only at hPlain
          split at hPlain
          · exact hUnclaimed rfl (Except.ok.inj hPlain)
          · cases hPlain
          · cases hPlain
        · unfold Word.ofShort at hPlain
          dsimp only at hPlain
          split at hPlain
          · cases hPlain
          · exact hUnclaimed rfl (Except.ok.inj hPlain)
    · cases hPlain
      rfl
  refine ⟨hText, if_neg ?_⟩
  rintro rfl
  cases hPlain

/- The arguments of a run that is given a job file. -/
def Arguments.ofConfig
    (config : Text) : Arguments :=
  { config := some (.text config) }

/- The same, with a file for the G-code. -/
def Arguments.toFile
    (arguments : Arguments)
    (name : Text) : Arguments :=
  { arguments with output := some name }

/- A switch that needs a value takes the plain text behind it. -/
theorem Progress.read_value
    (p : Progress)
    (hNone : p.waiting = none)
    {switch : Switch}
    (hTakes : switch.takesValue = true)
    (value : Text)
    (rest : List Word) :
    p.read (.mention ⟨switch, false, none⟩ :: .plain value :: rest) =
      p.taking [(switch, .ofText value)] fun next => next.read rest := by
  rcases p with ⟨arguments, extras, _⟩
  cases hNone
  cases switch with
  | config => rfl
  | output => rfl
  | logLevel => rfl
  | help => cases hTakes
  | tree => cases hTakes
  | logJson => cases hTakes

/- It is refused if something else stands there. -/
theorem Progress.read_noValue
    (p : Progress)
    (hNone : p.waiting = none)
    {switch : Switch}
    (hTakes : switch.takesValue = true)
    {word : Word}
    (hOther : ∀ text, word ≠ .plain text)
    (rest : List Word) :
    p.read (.mention ⟨switch, false, none⟩ :: word :: rest) =
      .error (.valueMissing switch) := by
  rcases p with ⟨arguments, extras, _⟩
  cases hNone
  cases word with
  | plain text => exact absurd rfl (hOther text)
  | divider => cases switch <;> first | rfl | cases hTakes
  | mention m => cases switch <;> first | rfl | cases hTakes
  | unknown text => cases switch <;> first | rfl | cases hTakes

/-
  A job file is accepted by itself and with a file for the
  G-code behind it, or it is refused both times.
-/
theorem Request.ofTexts_config
    (config : Text)
    {name : Text}
    (hName : Word.ofText name = .ok (.plain name)) :
    (Request.ofTexts ["--config", config] =
          .ok (.run (.ofConfig config)) ∧
        Request.ofTexts ["--config", config, "--output", name] =
          .ok (.run ((Arguments.ofConfig config).toFile name))) ∨
      ∃ fault other,
        Request.ofTexts ["--config", config] = .error fault ∧
          Request.ofTexts ["--config", config, "--output", name] =
            .error other := by
  have hConfig :
      Word.ofText "--config" = .ok (.mention ⟨.config, false, none⟩) :=
    rfl
  have hOutput :
      Word.ofText "--output" = .ok (.mention ⟨.output, false, none⟩) :=
    rfl
  have hNames : Word.ofTexts ["--output", name] =
      .ok [.mention ⟨.output, false, none⟩, .plain name] := by
    simp only [Word.ofTexts, hOutput, hName]
    rfl
  cases hWord : Word.ofText config with
  | error fault =>
      refine Or.inr ⟨fault, fault, ?_, ?_⟩ <;>
        · simp only [Request.ofTexts, Word.ofTexts, hConfig, hWord]
          rfl
  | ok word =>
      have hAlone :
          Request.ofTexts ["--config", config] =
            Progress.read { }
              [.mention ⟨.config, false, none⟩, word] := by
        simp only [Request.ofTexts, Word.ofTexts, hConfig, hWord]
        cases word <;> rfl
      -- behind a divider every text is plain, also a switch
      have hBoth :
          ∃ rest,
            Request.ofTexts ["--config", config, "--output", name] =
                Progress.read { }
                  (.mention ⟨.config, false, none⟩ :: word :: rest) ∧
              (word ≠ .divider →
                rest =
                  [.mention ⟨.output, false, none⟩, .plain name]) := by
        rw [Request.ofTexts, Word.ofTexts, Word.ofTexts, hConfig, hWord,
          hNames]
        cases word with
        | divider =>
            exact ⟨[.plain "--output", .plain name], rfl,
              fun hOther => absurd rfl hOther⟩
        | plain text => exact ⟨_, rfl, fun _ => rfl⟩
        | mention m => exact ⟨_, rfl, fun _ => rfl⟩
        | unknown text => exact ⟨_, rfl, fun _ => rfl⟩
      rcases hBoth with ⟨rest, hBoth, hRest⟩
      rw [hAlone, hBoth]
      by_cases hPlain : ∃ text, word = .plain text
      · rcases hPlain with ⟨text, rfl⟩
        rcases Word.plain_ofText hWord with ⟨rfl, hOperand⟩
        have hText := (Word.plain_ofText hName).2
        cases hRest (by rintro ⟨⟩)
        refine Or.inl ⟨?_, ?_⟩
        · rw [Progress.read_value { } rfl (by rfl), hOperand]
          rfl
        · rw [Progress.read_value { } rfl (by rfl), hOperand]
          show
            Progress.read { arguments := .ofConfig text }
              (.mention ⟨.output, false, none⟩ :: _) = _
          rw [Progress.read_value _ rfl (by rfl), hText]
          rfl
      · have hOther := not_exists.mp hPlain
        exact Or.inr ⟨.valueMissing .config, .valueMissing .config,
          Progress.read_noValue { } rfl rfl hOther _,
          Progress.read_noValue { } rfl rfl hOther _⟩

end Command

end Joinery
