import Joinery.Decimal.Reading
import Joinery.Encoding.Base64
import Joinery.Number.Arithmetic
import Joinery.Text.LowerCase
import Joinery.Yaml.Node.Implicit

/-
  This file makes values of the text of YAML scalars.

  Key definitions include:
    * `integerIn`
    * `integerValue`
    * `floatValue`
    * `namesNan`
    * `Timestamp.value`
    * `scalarValue`
-/

namespace Joinery

namespace Yaml

------------------------------------------------------------
-- Integers
------------------------------------------------------------

/- The value of a digit in bases up to sixteen, in any script. -/
def digitIn?
    (base : Nat)
    (c : Char) : Option Nat :=
  match Text.digitValue? c with
  | some n => if n < base then some n else none
  | none =>
      match Text.hexValue? c with
      | some n => if n < base then some n else none
      | none => none

/- The letter that marks a base after a leading zero. -/
def baseMarks : List (Nat × List Char) :=
  [(2, ['b', 'B']), (8, ['o', 'O']), (16, ['x', 'X'])]

/- Drop the mark of a base, if digits have it. -/
def dropBaseMark
    (base : Nat)
    (cs : List Char) : List Char :=
  match cs with
  | '0' :: c :: rest =>
      if ((baseMarks.lookup base).getD []).contains c then rest else cs
  | _ => cs

/- The characters that code points are read as. -/
def charsOf
    (ls : List Letter) : List Char :=
  ls.map Letter.toChar

/-
  The integer that a text denotes in a base. Integers in
  base ten have a limit on their length, which is checked
  before anything that may follow the digits.
-/
def integerIn
    (base : Nat)
    (ls : List Letter) : Outcome Int :=
  let bare := Text.strip Text.isNumeralBlank (charsOf ls)
  let (negative, unsigned) := Decimal.splitSign bare
  let cs := dropBaseMark base unsigned
  let ds := cs.takeWhile fun c => (digitIn? base c).isSome
  if base = 10 ∧ Decimal.digitLimit < ds.length then
    fail (.numeralTooLong ds.length)
  else if ds = [] ∨ ds ≠ cs then
    fail (.badInteger base (.ofLetters ls))
  else
    let values := ds.filterMap (digitIn? base)
    let n := values.foldl (fun (n d : Nat) => base * n + d) 0
    .ok (if negative then -(n : Int) else n)

/- The number that groups in base sixty denote, the last one least. -/
def sixtyFold
    (groups : List Int) : Int :=
  groups.foldl (fun n group => 60 * n + group) 0

/- The parts of a text between colons. -/
def letterParts : List Letter → List (List Letter)
  | [] => [[]]
  | l :: rest =>
      if l = ':' then [] :: letterParts rest
      else
        match letterParts rest with
        | first :: others => (l :: first) :: others
        | [] => [[l]]

/- An integer without its sign. -/
def unsignedInteger
    (ls : List Letter) : Outcome Int :=
  match ls with
  | [] => fail .emptyNumber
  | [.char '0'] => .ok 0
  | .char '0' :: .char 'b' :: rest => integerIn 2 rest
  | .char '0' :: .char 'x' :: rest => integerIn 16 rest
  | .char '0' :: _ => integerIn 8 ls
  | _ =>
      if ls.contains (.char ':') then
        ((letterParts ls).mapM (integerIn 10)).map sixtyFold
      else integerIn 10 ls

/- Drop the low lines between digits. -/
def withoutLowLines
    (text : Text) : List Letter :=
  text.letters.filter (· ≠ .char '_')

/- The integer that a scalar denotes. -/
def integerValue
    (text : Text) : Outcome Value :=
  match withoutLowLines text with
  | [] => fail .emptyNumber
  | .char '-' :: rest => (unsignedInteger rest).map fun n => .int (-n)
  | .char '+' :: rest => (unsignedInteger rest).map .int
  | ls => (unsignedInteger ls).map .int

------------------------------------------------------------
-- Doubles
------------------------------------------------------------

/- The double that a numeral or a word denotes. -/
def doubleIn
    (ls : List Letter) : Outcome Float :=
  match Decimal.readDouble? (charsOf ls) with
  | some x => .ok x
  | none => fail (.badNumeral (.text (.ofLetters ls)))

/- The sum of groups in base sixty, the least group first. -/
def sixtySum
    (base : Int)
    (sum : Number) : List Float → Outcome Number
  | [] => .ok sum
  | group :: rest => do
      let part ← (Number.float group).mul (.int base)
      sixtySum (60 * base) (← sum.add part) rest

/- A double in small letters: whether it is negative, and its size. -/
def signedDouble
    (text : Text) : Bool × List Letter :=
  match Text.lowerLetters (withoutLowLines text) with
  | .char '-' :: rest => (true, rest)
  | .char '+' :: rest => (false, rest)
  | ls => (false, ls)

/- The word for a double that is no number, without its sign. -/
def nanWord : List Letter :=
  ".nan".toList.map .char

/- The word for a double beyond all others, without its sign. -/
def infinityWord : List Letter :=
  ".inf".toList.map .char

/- A scalar that names the double that is no number. -/
def namesNan
    (text : Text) : Bool :=
  (signedDouble text).2 = nanWord

/- The size of a double. -/
def unsignedDouble
    (ls : List Letter) : Outcome Number :=
  if ls = infinityWord then .ok (.float (1.0 / 0.0))
  else if ls = nanWord then .ok (.float (0.0 / 0.0))
  else if ls.contains (.char ':') then do
    let groups ← (letterParts ls).mapM doubleIn
    sixtySum 1 (.float 0.0) groups.reverse
  else (doubleIn ls).map .float

/- The double that a scalar denotes. -/
def floatValue
    (text : Text) : Outcome Value :=
  if (withoutLowLines text).isEmpty then fail .emptyNumber
  else
    let (negative, size) := signedDouble text
    (unsignedDouble size).map fun n =>
      (if negative then n.neg else n).toValue

------------------------------------------------------------
-- Timestamps
------------------------------------------------------------

namespace Timestamp

/- The seconds of an offset, which must be less than a day. -/
def offsetSeconds
    (t : Timestamp) : Outcome (Option Int) :=
  match t.offset with
  | none => .ok (if t.utc then some 0 else none)
  | some (negative, hours, minutes) =>
      let size : Int :=
        Decimal.naturalOf hours * 3600 + Decimal.naturalOf minutes * 60
      let seconds := if negative then -size else size
      if -86400 < seconds ∧ seconds < 86400 then .ok (some seconds)
      else fail (.offsetTooLarge seconds)

/- The day of a timestamp, which must exist. -/
def calendarDay
    (t : Timestamp) : Outcome Day :=
  let year : Int := Decimal.naturalOf t.year
  let month := Decimal.naturalOf t.month
  let day := Decimal.naturalOf t.day
  if year = 0 then fail (.yearOutOfRange 0)
  else if month = 0 ∨ 12 < month then fail (.badClock .month)
  else if day = 0 ∨ monthLength year month < day then
    fail (.badClock .day)
  else .ok ⟨year, month, day⟩

/- The microseconds that the digits of a fraction denote. -/
def microseconds
    (t : Timestamp) : Nat :=
  let ds := t.fraction.take 6
  Decimal.naturalOf (ds ++ Decimal.zeros (6 - ds.length))

/- The value of a timestamp: a day, or a moment. -/
def value
    (t : Timestamp) : Outcome Value :=
  match t.time with
  | none => t.calendarDay.map .date
  | some (h, m, s) => do
      let offset ← t.offsetSeconds
      let day ← t.calendarDay
      let hour := Decimal.naturalOf h
      let minute := Decimal.naturalOf m
      let second := Decimal.naturalOf s
      if 23 < hour then fail (.badClock .hour)
      if 59 < minute then fail (.badClock .minute)
      if 59 < second then fail (.badClock .second)
      return .moment ⟨day, hour, minute, second, t.microseconds, offset⟩

end Timestamp

------------------------------------------------------------
-- Scalars
------------------------------------------------------------

/- The truth value that a scalar denotes. -/
def boolValue
    (text : Text) : Outcome Value :=
  let word := Text.lowerCase text
  match truthWords.find? fun e => word = e.1 with
  | some (_, b) => .ok (.bool b)
  | none => fail (.unknownWord word)

/- The bytes that a scalar denotes. -/
def binaryValue
    (text : Text) : Outcome Value :=
  if text.letters.any fun l => 0x80 ≤ l.code then
    fail (.markup "failed to convert base64 data into ascii")
  else
    match Encoding.decodeBase64? text.chars with
    | some bs => .ok (.bytes bs)
    | none => fail (.markup "failed to decode base64 data")

/- The day or moment that a scalar denotes. -/
def timestampValue
    (text : Text) : Outcome Value :=
  match Timestamp.parse? (withoutLastBreak text.chars) with
  | some t => t.value
  | none => fail (.noAttribute "NoneType" "groupdict")

/- The value of a scalar of a given kind. -/
def scalarValue
    (tag : Tag)
    (text : Text) : Outcome Value :=
  match tag with
  | .null => .ok .null
  | .bool => boolValue text
  | .int => integerValue text
  | .float => floatValue text
  | .binary => binaryValue text
  | .timestamp => timestampValue text
  | .str => .ok (.text text)
  | _ => fail (.markup "could not determine a constructor for the tag")

end Yaml

end Joinery
