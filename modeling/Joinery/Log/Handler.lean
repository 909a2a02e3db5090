import Joinery.Log.Record

/-
  This file defines the state of logging: the level from
  which on records are written, the handlers that write
  them, and the context that every record is written with.

  Key definitions include:
    * `Handler`
    * `Logbook`
    * `Logbook.push`
    * `Logbook.pop`
    * `Logbook.accepts`
    * `Logbook.clear`
    * `Logbook.attach`
-/

namespace Joinery

------------------------------------------------------------
-- Handlers
------------------------------------------------------------

/- Where a handler writes: to the console, or to a file's contents. -/
inductive Destination where
  | console
  | file
      (serial : Nat)
  deriving DecidableEq, Repr

/- A handler: where records go, and how they are written there. -/
structure Handler where
  destination : Destination
  layout : Layout
  deriving DecidableEq, Repr

------------------------------------------------------------
-- Logbooks
------------------------------------------------------------

/-
  The state of logging. The handlers that a setup has
  installed are remembered, so that the next one can take
  them away. Before any setup, warnings are written.
-/
structure Logbook where
  level : Int := 30
  handlers : List Handler := []
  installed : List Handler := []
  context : Named := []

namespace Logbook

/- Add values to the context; a name that it has keeps its place. -/
def push
    (book : Logbook)
    (values : Named) : Logbook :=
  { book with
    context := values.foldl (fun c e => c.bind e.1 e.2) book.context }

/- Take names out of the context; all of them, if none are given. -/
def pop
    (book : Logbook)
    (names : Option (List Text)) : Logbook :=
  { book with
    context :=
      match names with
      | none => []
      | some ns => List.filter (fun e => !ns.contains e.1) book.context }

/- Records below the level are dropped, and those without a level. -/
def accepts
    (book : Logbook)
    (level : Int) : Bool :=
  0 < level && book.level ≤ level

/- Take the installed handlers away, and set the level. -/
def clear
    (book : Logbook)
    (level : Int) : Logbook :=
  { book with
    level := level
    handlers :=
      book.handlers.filter fun h => !book.installed.contains h
    installed := [] }

/- Install a handler. -/
def attach
    (book : Logbook)
    (handler : Handler) : Logbook :=
  { book with
    handlers := book.handlers ++ [handler]
    installed := book.installed ++ [handler] }

end Logbook

end Joinery
