import Joinery.Decimal.Written

/-
  This file defines calendar days and moments, their text,
  and the count of days since 1970.

  Key definitions include:
    * `Day`
    * `Day.ofEpoch`
    * `Day.toEpoch`
    * `Moment`
    * `Moment.instant`
-/

namespace Joinery

/- A number in decimal digits, with zeros up to a width. -/
def padded
    (width : Nat)
    (n : Nat) : String :=
  String.ofList (Decimal.padLeft width (Decimal.digits n))

------------------------------------------------------------
-- Days
------------------------------------------------------------

/- A day of the Gregorian calendar. -/
structure Day where
  year : Int
  month : Nat
  day : Nat
  deriving DecidableEq, Repr

/- Leap years: every fourth, of the centuries every fourth. -/
def isLeapYear
    (year : Int) : Bool :=
  year % 4 == 0 && (year % 100 != 0 || year % 400 == 0)

/- The length of a month. -/
def monthLength
    (year : Int)
    (month : Nat) : Nat :=
  if month = 2 then
    if isLeapYear year then 29 else 28
  else if month = 4 ∨ month = 6 ∨ month = 9 ∨ month = 11 then 30
  else 31

namespace Day

/-
  The day that lies `n` days after the first of January
  1970. Years are counted from March, so that the leap day
  comes last, in eras of four hundred years.
-/
def ofEpoch
    (n : Int) : Day :=
  let shifted := n + 719468
  let era := shifted.fdiv 146097
  let dayOfEra := (shifted - era * 146097).toNat
  let yearOfEra :=
    (dayOfEra - dayOfEra / 1460 + dayOfEra / 36524 -
      dayOfEra / 146096) / 365
  let dayOfYear :=
    dayOfEra - (365 * yearOfEra + yearOfEra / 4 - yearOfEra / 100)
  let shiftedMonth := (5 * dayOfYear + 2) / 153
  let day := dayOfYear - (153 * shiftedMonth + 2) / 5 + 1
  let month :=
    if shiftedMonth < 10 then shiftedMonth + 3 else shiftedMonth - 9
  let year := (yearOfEra : Int) + era * 400
  { year := if month ≤ 2 then year + 1 else year
    month := month
    day := day }

/- How many days a day lies after the first of January 1970. -/
def toEpoch
    (d : Day) : Int :=
  let year := if d.month ≤ 2 then d.year - 1 else d.year
  let era := year.fdiv 400
  let yearOfEra := (year - era * 400).toNat
  let shiftedMonth := if d.month > 2 then d.month - 3 else d.month + 9
  let dayOfYear := (153 * shiftedMonth + 2) / 5 + d.day - 1
  let dayOfEra :=
    yearOfEra * 365 + yearOfEra / 4 - yearOfEra / 100 + dayOfYear
  era * 146097 + dayOfEra - 719468

/- Year, month and day with dashes between them. -/
def text
    (d : Day) : String :=
  padded 4 d.year.toNat ++ "-" ++ padded 2 d.month ++ "-" ++
    padded 2 d.day

end Day

------------------------------------------------------------
-- Moments
------------------------------------------------------------

/- A time of day on a calendar day, perhaps with an offset in seconds. -/
structure Moment where
  day : Day
  hour : Nat
  minute : Nat
  second : Nat
  microsecond : Nat
  offset : Option Int
  deriving DecidableEq, Repr

namespace Moment

/- Microseconds since 1970, by the clock of the moment's offset. -/
def clock
    (m : Moment) : Int :=
  (m.day.toEpoch * 86400 +
      ((m.hour * 60 + m.minute) * 60 + m.second : Nat)) * 1000000 +
    m.microsecond

/- Microseconds since 1970, by the clock without an offset. -/
def instant
    (m : Moment) : Int :=
  m.clock - m.offset.getD 0 * 1000000

/- The moment at a count of microseconds since 1970. -/
def ofInstant
    (n : Int) : Moment :=
  let seconds := n.fdiv 1000000
  let days := seconds.fdiv 86400
  let rest := (seconds - days * 86400).toNat
  { day := Day.ofEpoch days
    hour := rest / 3600
    minute := rest / 60 % 60
    second := rest % 60
    microsecond := (n - seconds * 1000000).toNat
    offset := none }

/-
  Two moments are the same when their instants agree; one
  with an offset never equals one without.
-/
def sameAs
    (a b : Moment) : Bool :=
  a.offset.isSome == b.offset.isSome && a.instant == b.instant

/- An offset with a sign, hours, minutes, and seconds where there are any. -/
def offsetText
    (offset : Int) : String :=
  let n := offset.natAbs
  let seconds :=
    if n % 60 = 0 then "" else ":" ++ padded 2 (n % 60)
  (if offset < 0 then "-" else "+") ++ padded 2 (n / 3600) ++ ":" ++
    padded 2 (n / 60 % 60) ++ seconds

/-
  Day and time of day around a separator. Microseconds are
  written when there are any, the offset when it is known.
-/
def text
    (separator : String)
    (m : Moment) : String :=
  let fraction :=
    if m.microsecond = 0 then "" else "." ++ padded 6 m.microsecond
  m.day.text ++ separator ++ padded 2 m.hour ++ ":" ++
    padded 2 m.minute ++ ":" ++ padded 2 m.second ++ fraction ++
    (m.offset.map offsetText).getD ""

end Moment

end Joinery
