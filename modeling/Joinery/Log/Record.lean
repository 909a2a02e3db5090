import Joinery.Log.Level
import Joinery.Log.Message
import Joinery.Log.Time
import Joinery.Value.Json

/-
  This file writes log records as lines, for people and for
  machines.

  Key definitions include:
    * `Record`
    * `Record.humanLine`
    * `Record.jsonLine`
    * `Layout`
    * `Record.line`
    * `Record.report`
-/

namespace Joinery

------------------------------------------------------------
-- Records
------------------------------------------------------------

/-
  A log record: who says what, how urgent it is, when it was
  said, in seconds since 1970, and in which process. The
  text of a failure may be told along with it.
-/
structure Record where
  name : Text
  level : Int
  message : Text
  args : List Value := []
  failure : Option Text := none
  created : Float
  process : UInt32

namespace Record

/- The message with its values in place. -/
def text
    (r : Record) : Outcome Text :=
  Message.text r.message r.args

/- The message of a record, and the text of its failure on lines of its own. -/
def bareText
    (r : Record) : Outcome Text := do
  let text ← r.text
  return match r.failure with
    | none => text
    | some failure =>
        if text.letters.getLast? = some (.char '\n') then text ++ failure
        else text ++ "\n" ++ failure

------------------------------------------------------------
-- Lines For People
------------------------------------------------------------

/- The colours of the levels on a terminal. -/
def colours : List (String × String) :=
  [ ("DEBUG", "\x1b[36m"), ("INFO", "\x1b[32m"),
    ("WARNING", "\x1b[33m"), ("ERROR", "\x1b[31m"),
    ("CRITICAL", "\x1b[35m") ]

/- The end of a colour. -/
def colourEnd : String := "\x1b[0m"

/- The width of the level in a line. -/
def levelWidth : Nat := 8

/- The level of a line, perhaps in its colour. -/
def levelText
    (colour : Bool)
    (level : String) : String :=
  let wide :=
    level ++
      String.ofList (List.replicate (levelWidth - level.length) ' ')
  if colour then (colours.lookup level).getD "" ++ wide ++ colourEnd
  else wide

/- The words that show the context. -/
def contextWords
    (context : Named) : Outcome (List Text) :=
  context.mapM fun e => do
    let shown ← e.2.written
    return e.1 ++ "=" ++ shown

/-
  The line of a record for people: time, level, context, and
  message, with bars between them.
-/
def humanLine
    (colour : Bool)
    (context : Named)
    (r : Record) : Outcome Text := do
  let time := Clock.humanText (← Clock.moment r.created)
  let level := levelText colour (Level.name r.level)
  let words := Text.joined " " (← contextWords context)
  let middle := if words.isEmpty then [] else [words ++ " |"]
  let message ← r.text
  let before : List Text := [time, "|", level, "|"]
  let line := Text.joined " " (before ++ middle ++ [message])
  return match r.failure with
    | some failure => line ++ "\n" ++ failure
    | none => line

------------------------------------------------------------
-- Lines For Machines
------------------------------------------------------------

/-
  The fields of a record. The context comes after the fields
  that every record has, and may replace their values.
-/
def fields
    (context : Named)
    (r : Record) : Outcome Named := do
  let time := Clock.machineText (← Clock.moment r.created)
  let message ← r.text
  let own : Named :=
    [ ("t", .text time), ("lvl", .text (Level.name r.level)),
      ("name", .text r.name), ("pid", .int r.process.toNat),
      ("msg", .text message) ]
  let all := context.foldl (fun acc e => acc.bind e.1 e.2) own
  return match r.failure with
    | some failure => all.bind "exc" (.text failure)
    | none => all

/- The line of a record for machines: one JSON object. -/
def jsonLine
    (context : Named)
    (r : Record) : Outcome String := do
  Value.jsonObject (← r.fields context)

end Record

------------------------------------------------------------
-- Layouts
------------------------------------------------------------

/- How records are written: as JSON, or for people and perhaps in colour. -/
structure Layout where
  json : Bool
  colour : Bool
  deriving DecidableEq, Repr

/- The line of a record in a layout. -/
def Record.line
    (layout : Layout)
    (context : Named)
    (r : Record) : Outcome Text :=
  if layout.json then (r.jsonLine context).map Text.ofString
  else r.humanLine layout.colour context

------------------------------------------------------------
-- Reports
------------------------------------------------------------

namespace Record

/- The values of a message as one: a mapping of names, or a tuple. -/
def argument
    (r : Record) : Value :=
  match r.args with
  | [.dict (entry :: entries)] => .dict (entry :: entries)
  | args => .tuple args

/-
  What is said of a record that could not be written: a
  heading, a trace of the fault, and what the record holds,
  if that can be written itself.
-/
def report
    (r : Record)
    (trace : Text) : Text :=
  let held : Text :=
    match r.argument.written with
    | .ok shown =>
        "Message: " ++ Text.quoted r.message ++ "\nArguments: " ++ shown ++
          "\n"
    | .error _ =>
        "Unable to print the message and arguments" ++
          " - possible formatting error.\n" ++
          "Use the traceback above to help identify the error.\n"
  "--- Logging error ---\n" ++ trace ++ held

end Record

end Joinery
