/-!
# `PromptGraph.Time.Timestamp` — dates with a time of day

A timestamp is what a wall clock shows, with the clock's offset from universal time where that is known.

## Contents
- **Calendar.** `dayNumber` and `civilDate`: the days of the proleptic Gregorian calendar, counted from 1970.
- **The type.** `Timestamp`: wall time in microseconds and an offset in seconds; `Timestamp.instant`.
- **Hours.** `Timestamp.hourStart`: the beginning of the hour that the clock shows.
- **Elapsed time.** `Timestamp.elapsedMicros`: values without offset are read as universal time where only one of
  the two lacks it.
-/

namespace PromptGraph

/-! ## Calendar -/

namespace Calendar

/-- The days from 1970-01-01 to a date; years begin in March, so that the leap day is their last. -/
def dayNumber (year : Int) (month day : Nat) : Int :=
  let y := if month ≤ 2 then year - 1 else year
  let era := Int.fdiv y 400
  let yearOfEra := y - era * 400
  let monthFromMarch : Int := ((month + 9) % 12 : Nat)
  let dayOfYear := (153 * monthFromMarch + 2) / 5 + (day : Int) - 1
  let dayOfEra := yearOfEra * 365 + yearOfEra / 4 - yearOfEra / 100 + dayOfYear
  era * 146097 + dayOfEra - 719468

/-- The year, month and day of a day number. -/
def civilDate (n : Int) : Int × Nat × Nat :=
  let z := n + 719468
  let era := Int.fdiv z 146097
  let dayOfEra := z - era * 146097
  let yearOfEra := (dayOfEra - dayOfEra / 1460 + dayOfEra / 36524 - dayOfEra / 146096) / 365
  let dayOfYear := dayOfEra - (365 * yearOfEra + yearOfEra / 4 - yearOfEra / 100)
  let monthFromMarch := (5 * dayOfYear + 2) / 153
  let day := dayOfYear - (153 * monthFromMarch + 2) / 5 + 1
  let month := if monthFromMarch < 10 then monthFromMarch + 3 else monthFromMarch - 9
  let year := yearOfEra + era * 400 + (if month ≤ 2 then 1 else 0)
  (year, month.toNat, day.toNat)

def isLeap (year : Nat) : Bool := year % 4 == 0 && (year % 100 != 0 || year % 400 == 0)

/-- The number of days of a month; none for a month that does not exist. -/
def monthLength (year month : Nat) : Nat :=
  match month with
  | 1 | 3 | 5 | 7 | 8 | 10 | 12 => 31
  | 4 | 6 | 9 | 11 => 30
  | 2 => if isLeap year then 29 else 28
  | _ => 0

end Calendar

/-! ## The type -/

/-- A date with a time of day. -/
structure Timestamp where
  /-- Microseconds of the clock's time since 1970-01-01T00:00:00 of the clock. -/
  wall : Int
  /-- Seconds by which the clock is ahead of universal time. -/
  offset : Option Int
  deriving DecidableEq, Repr

namespace Timestamp

def microsPerSecond : Int := 1000000

def microsPerHour : Int := 3600 * microsPerSecond

def microsPerDay : Int := 24 * microsPerHour

/-- The clock's time from its fields. -/
def ofFields (year : Int) (month day hour minute second micro : Nat) (offset : Option Int) : Timestamp :=
  ⟨Calendar.dayNumber year month day * microsPerDay
    + (((hour * 60 + minute) * 60 + second : Nat) : Int) * microsPerSecond + micro, offset⟩

/-- The first moment of the year 1 on the clock. -/
def firstWall : Int := Calendar.dayNumber 1 1 1 * microsPerDay

/-- Whether the clock shows a year of the calendar, which begins with the year 1. -/
def isInCalendar (t : Timestamp) : Bool := firstWall ≤ t.wall

/-- The microseconds of universal time since 1970, a missing offset meaning universal time. -/
def instant (t : Timestamp) : Int := t.wall - t.offset.getD 0 * microsPerSecond

/-- The beginning of the hour that the clock shows. -/
def hourStart (t : Timestamp) : Timestamp := ⟨t.wall - t.wall % microsPerHour, some (t.offset.getD 0)⟩

/-- The microseconds from `start` to `finish`. Two clocks without offset are compared by what they show, which is
    the same as reading both as universal time. -/
def elapsedMicros (start finish : Timestamp) : Int := finish.instant - start.instant

end Timestamp

end PromptGraph
