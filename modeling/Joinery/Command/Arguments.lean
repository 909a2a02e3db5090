import Joinery.Text.DecimalDigit
import Joinery.Text.Quoted

/-
  This file reads the command line.

  Every argument is first sorted by itself: a switch, which
  may be shortened as long as it stays clear which one is
  meant, a plain text, or something unknown. Then the
  switches take the texts that follow them. What nobody
  takes is refused at the end.

  Key definitions include:
    * `Switch`
    * `Operand`
    * `Word`
    * `Word.ofText`
    * `Arguments`
    * `UsageFault`
    * `Request`
    * `Request.ofTexts`
-/

namespace Joinery

namespace Command

------------------------------------------------------------
-- Switches
------------------------------------------------------------

/- The switches of the command. -/
inductive Switch where
  | help
  | config
  | output
  | tree
  | logLevel
  | logJson
  deriving DecidableEq, Repr

namespace Switch

/- All ways to spell a switch, in the order in which they are listed. -/
def spellings : List (String × Switch) :=
  [ ("-h", .help), ("--help", .help), ("--config", .config),
    ("-c", .config), ("--output", .output), ("-o", .output),
    ("--tree", .tree), ("--log-level", .logLevel),
    ("--log-json", .logJson) ]

/- The switch with a spelling. -/
def ofSpelling?
    (s : String) : Option Switch :=
  spellings.lookup s

/- Switches that need a value. -/
def takesValue : Switch → Bool
  | .config | .output | .logLevel => true
  | .help | .tree | .logJson => false

/- All spellings of a switch, as a complaint names it. -/
def title
    (switch : Switch) : String :=
  String.intercalate "/"
    ((spellings.filter fun e => e.2 = switch).map (·.1))

end Switch

------------------------------------------------------------
-- Complaints
------------------------------------------------------------

/- The levels that may be asked for. -/
def levelChoices : List String :=
  ["DEBUG", "INFO", "WARNING", "ERROR"]

/- What is wrong with a command line. -/
inductive UsageFault where
  | ambiguous
      (argument : Text)
      (candidates : List String)
  | valueMissing
      (switch : Switch)
  | valueIgnored
      (switch : Switch)
      (value : Text)
  | invalidChoice
      (switch : Switch)
      (value : Text)
  | unrecognized
      (arguments : List Text)
  deriving DecidableEq, Repr

/- The wording of a complaint. -/
def UsageFault.message : UsageFault → Text
  | .ambiguous argument candidates =>
      "ambiguous option: " ++ argument ++ " could match " ++
        String.intercalate ", " candidates
  | .valueMissing switch =>
      s!"argument {switch.title}: expected one argument"
  | .valueIgnored switch value =>
      s!"argument {switch.title}: ignored explicit argument " ++
        Text.quoted value
  | .invalidChoice switch value =>
      let choices := levelChoices.map fun (c : String) => Text.quoted c
      s!"argument {switch.title}: invalid choice: " ++
        Text.quoted value ++ " (choose from " ++
        String.intercalate ", " choices ++ ")"
  | .unrecognized arguments =>
      "unrecognized arguments: " ++ Text.joined " " arguments

------------------------------------------------------------
-- Words
------------------------------------------------------------

/-
  A switch as it stands in the command line: in its short or
  in its long spelling, and with what is attached to it,
  behind an equals sign or right behind a short spelling.
-/
structure Mention where
  switch : Switch
  short : Bool
  attached : Option (List Letter)
  deriving DecidableEq, Repr

/- What an argument is by itself. -/
inductive Word where
  | plain
      (text : Text)
  | divider
  | mention
      (m : Mention)
  | unknown
      (text : Text)
  deriving DecidableEq, Repr

/-
  A dash and a number, whole or with a point before its last
  digits; a line break may end it.
-/
def isNegativeNumber
    (t : Text) : Bool :=
  match t.chars with
  | '-' :: body =>
      let cs :=
        if body.getLast? = some '\n' then body.dropLast else body
      let whole := cs.takeWhile Text.isDigit
      match cs.dropWhile Text.isDigit with
      | [] => whole ≠ []
      | c :: fraction =>
          c = '.' && fraction ≠ [] && fraction.all Text.isDigit
  | _ => false

/- A text with a dash that no switch claims. -/
def unclaimed
    (t : Text) : Word :=
  if isNegativeNumber t || t.letters.contains (.char ' ') then .plain t
  else .unknown t

/- The switch with the spelling that code points make. -/
def switchOf?
    (ls : List Letter) : Option Switch := do
  Switch.ofSpelling? (← (Text.ofLetters ls).string?)

/- The spellings that begin with code points. -/
def spellingsFrom
    (start : List Letter) : List (String × Switch) :=
  Switch.spellings.filter fun e =>
    start.isPrefixOf (e.1.toList.map .char)

/- What stands before the first equals sign, and what behind it. -/
def splitValue
    (ls : List Letter) : List Letter × Option (List Letter) :=
  match ls.dropWhile (· ≠ .char '=') with
  | _ :: value => (ls.takeWhile (· ≠ .char '='), some value)
  | [] => (ls, none)

/- A text with one dash: the letter after it tells the switch. -/
def Word.ofShort
    (t : Text) : Word :=
  let ls := t.letters
  match switchOf? (ls.take 2) with
  | some switch => .mention ⟨switch, true, some (ls.drop 2)⟩
  | none => unclaimed t

/- A text with two dashes: the beginning of one switch only. -/
def Word.ofLong
    (t : Text) : Except UsageFault Word :=
  let (spelling, value) := splitValue t.letters
  match spellingsFrom spelling with
  | [] => .ok (unclaimed t)
  | [(_, switch)] => .ok (.mention ⟨switch, false, value⟩)
  | several => .error (.ambiguous t (several.map (·.1)))

/- A text that begins with a dash, as far as it is not a full spelling. -/
def Word.ofDashed
    (t : Text) : Except UsageFault Word :=
  match t.letters with
  | _ :: .char '-' :: _ => Word.ofLong t
  | _ => .ok (Word.ofShort t)

/- The second code point is no dash. -/
def isShort
    (ls : List Letter) : Bool :=
  ls[1]? ≠ some (.char '-')

/-
  What an argument is, when it stands before any divider. A
  spelling in full is taken before any other reading, and
  ends before an equals sign.
-/
def Word.ofText
    (t : Text) : Except UsageFault Word :=
  match t.letters with
  | [.char '-', .char '-'] => .ok .divider
  | .char '-' :: l :: rest =>
      let ls := .char '-' :: l :: rest
      let (spelling, value) := splitValue ls
      match switchOf? spelling with
      | some switch => .ok (.mention ⟨switch, isShort ls, value⟩)
      | none => Word.ofDashed t
  | _ => .ok (.plain t)

/- All arguments of a command line; after a divider all are plain. -/
def Word.ofTexts : List Text → Except UsageFault (List Word)
  | [] => .ok []
  | t :: rest => do
      match ← Word.ofText t with
      | .divider => return .divider :: rest.map .plain
      | word => return word :: (← Word.ofTexts rest)

------------------------------------------------------------
-- Bundles
------------------------------------------------------------

/-
  What a switch is given. A divider is never a value: where
  it takes the place of one, the switch is given nothing.
-/
inductive Operand where
  | nothing
  | text
      (t : Text)
  deriving DecidableEq, Repr

namespace Operand

/- What a switch is given by a text. -/
def ofText
    (t : Text) : Operand :=
  if t = "--" then .nothing else .text t

/- The text that a switch is given, if any. -/
def text? : Operand → Option Text
  | .nothing => none
  | .text t => some t

end Operand

/-
  What a mention gives: switches with their values, and
  perhaps a last switch whose value must follow.
-/
structure Bundle where
  taken : List (Switch × Operand) := []
  waiting : Option Switch := none
  deriving DecidableEq, Repr

namespace Bundle

/- A switch to which nothing is attached. -/
def single
    (switch : Switch) : Bundle :=
  if switch.takesValue then { waiting := some switch }
  else { taken := [(switch, .nothing)] }

/- A switch with an attached value, which it must need. -/
def joined
    (switch : Switch)
    (value : List Letter) : Except UsageFault Bundle :=
  let text := Text.ofLetters value
  if switch.takesValue then
    .ok { taken := [(switch, .ofText text)] }
  else .error (.valueIgnored switch text)

/- A bundle after one more switch without a value. -/
def after
    (switch : Switch)
    (bundle : Bundle) : Bundle :=
  { bundle with taken := (switch, .nothing) :: bundle.taken }

/-
  A short switch with what is attached to it. One that needs
  a value takes all of it. Otherwise the next code point
  must tell another short switch, to which the rest is
  attached.
-/
def ofShort
    (switch : Switch) : List Letter → Except UsageFault Bundle
  | [] => joined switch []
  | l :: rest =>
      if switch.takesValue then joined switch (l :: rest)
      else
        match switchOf? ['-', l], rest with
        | none, _ => joined switch (l :: rest)
        | some next, [] => .ok (after switch (single next))
        | some next, _ => (ofShort next rest).map (after switch)

/- What a mention gives by itself. -/
def ofMention
    (m : Mention) : Except UsageFault Bundle :=
  match m.attached with
  | none => .ok (single m.switch)
  | some value =>
      if m.short then ofShort m.switch value
      else joined m.switch value

end Bundle

------------------------------------------------------------
-- Requests
------------------------------------------------------------

/- What the command is told to do. -/
structure Arguments where
  config : Option Operand := none
  output : Option Text := none
  tree : Bool := false
  logLevel : Option Text := none
  logJson : Bool := false
  deriving DecidableEq, Repr

/- A run of the command, or only a word of help. -/
inductive Request where
  | help
  | run
      (arguments : Arguments)
  deriving DecidableEq, Repr

/- A level that may be asked for. -/
def isLevelChoice
    (t : Text) : Bool :=
  levelChoices.any fun choice => t = choice

/- The request after one more switch. -/
def Arguments.take
    (arguments : Arguments)
    (switch : Switch)
    (value : Operand) : Except UsageFault Request :=
  match switch, value.text? with
  | .help, _ => .ok .help
  | .config, _ => .ok (.run { arguments with config := some value })
  | .output, text => .ok (.run { arguments with output := text })
  | .tree, _ => .ok (.run { arguments with tree := true })
  | .logLevel, none => .ok (.run { arguments with logLevel := none })
  | .logLevel, some level =>
      if isLevelChoice level then
        .ok (.run { arguments with logLevel := some level })
      else .error (.invalidChoice switch level)
  | .logJson, _ => .ok (.run { arguments with logJson := true })

/- The request after several switches. Help ends the reading. -/
def Arguments.takeAll
    (arguments : Arguments) :
    List (Switch × Operand) → Except UsageFault Request
  | [] => .ok (.run arguments)
  | (switch, value) :: rest => do
      match ← arguments.take switch value with
      | .help => return .help
      | .run more => more.takeAll rest

/-
  How far the reading of a command line has come: what is
  taken, what nobody took, and a bundle whose last switch
  still waits for its value.
-/
structure Progress where
  arguments : Arguments := { }
  extras : List Text := []
  waiting : Option (List (Switch × Operand) × Switch) := none

namespace Progress

/- Take switches, and go on with the words that follow. -/
def taking
    (p : Progress)
    (taken : List (Switch × Operand))
    (next : Progress → Except UsageFault Request) :
    Except UsageFault Request := do
  match ← p.arguments.takeAll taken with
  | .help => return .help
  | .run more => next { p with arguments := more, waiting := none }

/- Read the words that are left. -/
def read
    (p : Progress) : List Word → Except UsageFault Request
  | [] =>
      match p.waiting with
      | some (_, switch) => .error (.valueMissing switch)
      | none =>
          if p.extras = [] then .ok (.run p.arguments)
          else .error (.unrecognized p.extras)
  | word :: rest =>
      let skipping (text : Text) : Except UsageFault Request :=
        read { p with extras := p.extras ++ [text] } rest
      match p.waiting, word with
      | some (taken, switch), .plain value =>
          p.taking (taken ++ [(switch, .ofText value)]) fun next =>
            next.read rest
      | some (_, switch), _ => .error (.valueMissing switch)
      | none, .plain text => skipping text
      | none, .unknown text => skipping text
      | none, .divider => skipping "--"
      | none, .mention m => do
          let bundle ← Bundle.ofMention m
          match bundle.waiting with
          | some switch =>
              read { p with waiting := some (bundle.taken, switch) } rest
          | none => p.taking bundle.taken fun next => next.read rest

end Progress

/- The request that a command line makes. -/
def Request.ofTexts
    (texts : List Text) : Except UsageFault Request := do
  Progress.read { } (← Word.ofTexts texts)

end Command

end Joinery
