import Joinery.Fault

/-
  This file tells the moment at a number of seconds since
  1970.

  Key definitions include:
    * `Clock.microseconds`
    * `Clock.moment`
    * `Clock.humanText`
    * `Clock.machineText`
-/

namespace Joinery

namespace Clock

/- The seconds that fit the clock, in either direction. -/
def reach : Int := 0x8000000000000000

/- The first year that the calendar of the clock can name. -/
def firstYear : Int := 1900 - 0x80000000

/- The last year that the calendar of the clock can name. -/
def lastYear : Int := 1899 + 0x80000000

/-
  A double rounded to the nearest integer, a half going to
  the even one.
-/
def roundHalfEven
    (q : Rat) : Int :=
  let below := q.floor
  let rest := q - below
  if rest < 1 / 2 then below
  else if 1 / 2 < rest then below + 1
  else below + below % 2

/-
  The microseconds since 1970 at a number of seconds. The
  fraction is scaled as a double and then rounded.
-/
def microseconds
    (seconds : Float) : Outcome Int :=
  match Decimal.exactValue? seconds with
  | none => if seconds.isNaN then fail .nanTime else fail .timeBeyondClock
  | some q =>
      let whole := if q < 0 then q.ceil else q.floor
      let fraction := Decimal.nearestDouble (q - whole)
      let scaled := (Decimal.exactValue? (fraction * 1000000.0)).getD 0
      let n := whole * 1000000 + roundHalfEven scaled
      let full := n.fdiv 1000000
      if -reach ≤ full ∧ full < reach then .ok n
      else fail .timeBeyondClock

/- The moment at a number of seconds since 1970. -/
def moment
    (seconds : Float) : Outcome Moment := do
  let m := Moment.ofInstant (← microseconds seconds)
  if m.day.year < firstYear ∨ lastYear < m.day.year then
    fail .timeBeyondCalendar
  else if m.day.year < 1 ∨ 9999 < m.day.year then
    fail (.yearOutOfRange m.day.year)
  else return { m with offset := some 0 }

/- A moment for people: the year as it is, and milliseconds. -/
def humanText
    (m : Moment) : String :=
  s!"{m.day.year}-" ++ padded 2 m.day.month ++ "-" ++
    padded 2 m.day.day ++ "T" ++ padded 2 m.hour ++ ":" ++
    padded 2 m.minute ++ ":" ++ padded 2 m.second ++ "." ++
    padded 3 (m.microsecond / 1000) ++ "Z"

/- A moment for machines, with the offset. -/
def machineText
    (m : Moment) : String :=
  m.text "T"

end Clock

end Joinery
