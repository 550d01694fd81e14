import SessionSync.Number.Power

/-!
# The proleptic Gregorian calendar

Days are counted from 1 January 1970.  A year of the calendar starts in March
for the count, so the leap day is the last day of a year and four hundred years
have the same number of days wherever they start.
-/

set_option autoImplicit false

namespace SessionSync.Calendar

/-- A date of the calendar. -/
structure Date where
  year : Int
  month : Nat
  day : Nat
  deriving DecidableEq, Repr

/-- A time of day.  The second may be the sixtieth, a leap second; it then
counts as the first second of the next minute. -/
structure Clock where
  hour : Nat
  minute : Nat
  second : Nat
  nanosecond : Nat
  deriving DecidableEq, Repr

/-- Whether a year has a leap day. -/
def isLeap (year : Int) : Bool :=
  year % 4 == 0 && (year % 100 != 0 || year % 400 == 0)

/-- The number of days of a month. -/
def monthLength (year : Int) (month : Nat) : Nat :=
  if month = 2 then (if isLeap year then 29 else 28)
  else if month = 4 ∨ month = 6 ∨ month = 9 ∨ month = 11 then 30
  else 31

/-- The years that can be represented. -/
def yearInRange (year : Int) : Bool := decide (-262143 ≤ year ∧ year ≤ 262142)

namespace Date

/-- Whether the date exists. -/
def valid (date : Date) : Bool :=
  yearInRange date.year && decide (1 ≤ date.month ∧ date.month ≤ 12 ∧ 1 ≤ date.day ∧
    date.day ≤ monthLength date.year date.month)

/-- Days since 1 January 1970. -/
def dayNumber (date : Date) : Int :=
  let year := if date.month ≤ 2 then date.year - 1 else date.year
  let era := year.fdiv 400
  let yearOfEra := year - 400 * era
  let monthFromMarch : Int := ((date.month + 9) % 12 : Nat)
  let dayOfYear := (153 * monthFromMarch + 2).fdiv 5 + date.day - 1
  let dayOfEra := 365 * yearOfEra + yearOfEra.fdiv 4 - yearOfEra.fdiv 100 + dayOfYear
  146097 * era + dayOfEra - 719468

end Date

namespace Clock

/-- Whether the time of day exists. -/
def valid (clock : Clock) : Bool :=
  decide (clock.hour ≤ 23 ∧ clock.minute ≤ 59 ∧ clock.second ≤ 60 ∧ clock.nanosecond < tenTo 9)

/-- Milliseconds since midnight; a fraction of a millisecond is dropped. -/
def millisecond (clock : Clock) : Nat :=
  ((clock.hour * 60 + clock.minute) * 60 + clock.second) * 1000 + clock.nanosecond / tenTo 6

end Clock

/-- Unix milliseconds of a date and a time of day that is `offset` seconds ahead
of universal time. -/
def unixMillis (date : Date) (clock : Clock) (offset : Int) : Int :=
  (date.dayNumber * 86400 - offset) * 1000 + clock.millisecond

example : (Date.dayNumber ⟨1970, 1, 1⟩, Date.dayNumber ⟨2000, 3, 1⟩, Date.dayNumber ⟨1969, 12, 31⟩)
    = (0, 11017, -1) := by decide

end SessionSync.Calendar
