import Joinery.Decimal.Written
import Joinery.Text.Quoted
import Joinery.Value.Basic

/-
  This file writes values as text, in two forms: one that
  tells values of different kinds apart, for messages, and
  a plain one.

  Key definitions include:
    * `Value.shown`
    * `Value.plain`
    * `Value.unwritable`
-/

namespace Joinery

namespace Value

------------------------------------------------------------
-- Text Of The Leaves
------------------------------------------------------------

/- A truth value. -/
def boolText
    (b : Bool) : String :=
  if b then "True" else "False"

/- A day by its parts. -/
def dayShown
    (d : Day) : String :=
  s!"datetime.date({d.year}, {d.month}, {d.day})"

/-
  A duration by its days, which carry the sign, and its
  seconds, which do not.
-/
def durationShown
    (duration : Int) : String :=
  let days := duration.fdiv 86400
  let seconds := duration - days * 86400
  let parts :=
    (if days = 0 then [] else [s!"days={days}"]) ++
      (if seconds = 0 then [] else [s!"seconds={seconds}"])
  "datetime.timedelta(" ++
    (if parts = [] then "0" else String.intercalate ", " parts) ++ ")"

/- An offset from the clock without one. -/
def offsetShown
    (offset : Int) : String :=
  if offset = 0 then "datetime.timezone.utc"
  else "datetime.timezone(" ++ durationShown offset ++ ")"

/- A moment by its parts; zero seconds are left out. -/
def momentShown
    (m : Moment) : String :=
  let seconds :=
    if m.microsecond ≠ 0 then [s!"{m.second}", s!"{m.microsecond}"]
    else if m.second ≠ 0 then [s!"{m.second}"]
    else []
  let parts :=
    [s!"{m.day.year}", s!"{m.day.month}", s!"{m.day.day}",
      s!"{m.hour}", s!"{m.minute}"] ++ seconds ++
      (match m.offset with
        | some offset => ["tzinfo=" ++ offsetShown offset]
        | none => [])
  "datetime.datetime(" ++ String.intercalate ", " parts ++ ")"

/- Items between commas. -/
def commas
    (items : List String) : String :=
  String.intercalate ", " items

/- Items of a tuple; a single one is followed by a comma. -/
def tupleShown : List String → String
  | [item] => "(" ++ item ++ ",)"
  | items => "(" ++ commas items ++ ")"

------------------------------------------------------------
-- Knots
------------------------------------------------------------

/- A part of the text of a collection: as it is, or a collection again. -/
inductive Piece where
  | text
      (s : String)
  | back
      (place : Nat)
  deriving DecidableEq, Repr

/- The text of a collection in a table: its brackets, and what is between. -/
structure Sketch where
  first : String
  last : String
  pieces : List Piece
  deriving DecidableEq, Repr

namespace Sketch

/- What is written in place of a collection inside itself. -/
def brief
    (sketch : Sketch) : String :=
  sketch.first ++ "..." ++ sketch.last

/-
  The text of the collection at a place. Inside itself it is
  written briefly, so the number of places bounds the depth.
-/
def expanded
    (sketches : List Sketch)
    (around : List Nat)
    (place : Nat) : Nat → String
  | 0 => ""
  | depth + 1 =>
      match sketches[place]? with
      | none => ""
      | some sketch =>
          if around.contains place then sketch.brief
          else
            sketch.first ++
              String.join (sketch.pieces.map fun piece =>
                match piece with
                | .text s => s
                | .back next =>
                    expanded sketches (place :: around) next depth) ++
              sketch.last

end Sketch

/- Groups of pieces between commas. -/
def pieceCommas : List (List Piece) → List Piece
  | [] => []
  | [group] => group
  | group :: rest => group ++ .text ", " :: pieceCommas rest

------------------------------------------------------------
-- The Telling Form
------------------------------------------------------------

mutual

/- The form of a value in which different values look different. -/
def shown : Value → String
  | .null => "None"
  | .bool b => boolText b
  | .int n => Decimal.integerText n
  | .float x => Decimal.doubleText x
  | .ratio q => s!"Fraction({q.num}, {q.den})"
  | .text t => Text.quoted t
  | .unit u => s!"<Unit.{u.name}: '{u.symbol}'>"
  | .quantity u a => s!"Quantity(unit={u.shown}, amount={a.shown})"
  | .token name => s!"Token(name={name.shown})"
  | .list items => "[" ++ commas (allShown items) ++ "]"
  | .tuple items => tupleShown (allShown items)
  | .dict entries => "\x7b" ++ commas (entriesShown entries) ++ "\x7d"
  | .date d => dayShown d
  | .moment m => momentShown m
  | .bytes bs => Text.quotedBytes bs
  | .set [] => "set()"
  | .set (item :: items) =>
      "\x7b" ++ commas (item.shown :: allShown items) ++ "\x7d"
  | .knot table place =>
      Sketch.expanded (sketches table) [] place (table.length + 1)
  | .back _ => "..."

/- The items of a list, each in the telling form. -/
def allShown : List Value → List String
  | [] => []
  | v :: rest => v.shown :: allShown rest

/- The entries of a mapping, keys and values in the telling form. -/
def entriesShown : Entries → List String
  | [] => []
  | (k, v) :: rest => (k.shown ++ ": " ++ v.shown) :: entriesShown rest

/- The sketches of the collections in a table. -/
def sketches : List Value → List Sketch
  | [] => []
  | .list items :: rest =>
      ⟨"[", "]", pieceCommas (itemPieces items)⟩ :: sketches rest
  | .dict entries :: rest =>
      ⟨"\x7b", "\x7d", pieceCommas (entryPieces entries)⟩ ::
        sketches rest
  | v :: rest => ⟨"", "", [.text v.shown]⟩ :: sketches rest

/- The pieces of the items of a collection in a table. -/
def itemPieces : List Value → List (List Piece)
  | [] => []
  | .back place :: rest => [.back place] :: itemPieces rest
  | .tuple [a, b] :: rest =>
      ([.text "("] ++ pieceCommas (itemPieces [a, b]) ++ [.text ")"]) ::
        itemPieces rest
  | v :: rest => [.text v.shown] :: itemPieces rest

/- The pieces of the entries of a mapping in a table. -/
def entryPieces : Entries → List (List Piece)
  | [] => []
  | (k, .back place) :: rest =>
      [.text (k.shown ++ ": "), .back place] :: entryPieces rest
  | (k, v) :: rest =>
      [.text (k.shown ++ ": " ++ v.shown)] :: entryPieces rest

end

------------------------------------------------------------
-- The Plain Form
------------------------------------------------------------

/-
  The plain form of a value: text stands for itself, and a
  quantity is an amount, a space, and the symbol of its
  unit.
-/
def plain : Value → Text
  | .text t => t
  | .unit u => "Unit." ++ u.name
  | .ratio q => if q.den = 1 then s!"{q.num}" else s!"{q.num}/{q.den}"
  | .quantity (.unit u) a => a.plain ++ " " ++ u.symbol
  | .quantity u a => a.plain ++ " " ++ u.plain
  | .date d => d.text
  | .moment m => m.text " "
  | v => v.shown

------------------------------------------------------------
-- Integers Without Text
------------------------------------------------------------

mutual

/- A value that holds an integer with too many digits to be written. -/
def unwritable : Value → Bool
  | .int n => Decimal.exceedsLimit n
  | .ratio q => Decimal.exceedsLimit q.num || Decimal.exceedsLimit q.den
  | .quantity u a => u.unwritable || a.unwritable
  | .token name => name.unwritable
  | .list items => anyUnwritable items
  | .tuple items => anyUnwritable items
  | .dict entries => entryUnwritable entries
  | .set items => anyUnwritable items
  | .knot table _ => anyUnwritable table
  | _ => false

/- Some value of a list cannot be written. -/
def anyUnwritable : List Value → Bool
  | [] => false
  | v :: rest => v.unwritable || anyUnwritable rest

/- Some key or value of a mapping cannot be written. -/
def entryUnwritable : Entries → Bool
  | [] => false
  | (k, v) :: rest =>
      k.unwritable || v.unwritable || entryUnwritable rest

end

end Value

end Joinery
