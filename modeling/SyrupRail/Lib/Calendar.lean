import Mathlib.Data.Int.Notation

/-!
# The proleptic Gregorian calendar

Days are counted from 1970-01-01. `civilFromDays` and `daysFromCivil` convert between a day and its
year, month, and day of month, over years that start in March, so that a leap day is the last day of
its year. `addMonths` moves a date by calendar months and clips the day of month to the length of
the month it lands in, as calendar libraries do.
-/

namespace Calendar

/-- A date of the proleptic Gregorian calendar. -/
structure Date where
  year : ℤ
  month : ℤ
  day : ℤ
  deriving DecidableEq, Repr

/-- Whether a year has a leap day. -/
def isLeapYear (year : ℤ) : Bool := year % 4 == 0 && (year % 100 != 0 || year % 400 == 0)

/-- The number of days of a month. -/
def daysInMonth (year month : ℤ) : ℤ :=
  if month = 2 then (if isLeapYear year then 29 else 28)
  else if month = 4 ∨ month = 6 ∨ month = 9 ∨ month = 11 then 30
  else 31

/-- The day number of a date. -/
def daysFromCivil (d : Date) : ℤ :=
  let y := if d.month ≤ 2 then d.year - 1 else d.year
  let era := y / 400
  let yoe := y - era * 400
  let doy := (153 * (if d.month > 2 then d.month - 3 else d.month + 9) + 2) / 5 + d.day - 1
  let doe := yoe * 365 + yoe / 4 - yoe / 100 + doy
  era * 146097 + doe - 719468

/-- The date of a day number. -/
def civilFromDays (days : ℤ) : Date :=
  let z := days + 719468
  let era := z / 146097
  let doe := z - era * 146097
  let yoe := (doe - doe / 1460 + doe / 36524 - doe / 146096) / 365
  let doy := doe - (365 * yoe + yoe / 4 - yoe / 100)
  let mp := (5 * doy + 2) / 153
  let month := if mp < 10 then mp + 3 else mp - 9
  { year := (if month ≤ 2 then 1 else 0) + yoe + era * 400
    month
    day := doy - (153 * mp + 2) / 5 + 1 }

/-- The date `months` calendar months later, with the day of month clipped. -/
def addMonths (d : Date) (months : ℤ) : Date :=
  let total := d.year * 12 + (d.month - 1) + months
  let year := total / 12
  let month := total % 12 + 1
  { year, month, day := min d.day (daysInMonth year month) }

end Calendar
