/-!
# Calendar days

Days of the proleptic Gregorian calendar, counted from the first of January 1970. A year is taken to
begin in March, so that the leap day comes last.

* `Date`: year, month and day; `isLeapYear`, `daysInMonth`, `Date.isValid`;
* `Date.dayNumber`: the day's number; `Date.ofDayNumber`: the day of a number.
-/

namespace WorkflowEngine

/-- **A day of the calendar.** -/
structure Date where
  year : Int
  month : Nat
  day : Nat
  deriving DecidableEq, Repr, Inhabited

/-- Years with a leap day. -/
def isLeapYear (year : Int) : Bool := year % 4 = 0 && (year % 100 ≠ 0 || year % 400 = 0)

/-- The number of days of a month. -/
def daysInMonth (year : Int) (month : Nat) : Nat :=
  if month = 2 then (if isLeapYear year then 29 else 28)
  else if month = 4 ∨ month = 6 ∨ month = 9 ∨ month = 11 then 30 else 31

namespace Date

/-- True of days that the calendar has. -/
def isValid (d : Date) : Bool :=
  1 ≤ d.month && d.month ≤ 12 && 1 ≤ d.day && d.day ≤ daysInMonth d.year d.month

/-- **The number of a day.** -/
def dayNumber (d : Date) : Int :=
  let year := if d.month ≤ 2 then d.year - 1 else d.year
  let era := year / 400
  let yearOfEra := year - era * 400
  let dayOfYear : Int := ((153 * ((d.month + 9) % 12) + 2) / 5 + d.day : Nat) - 1
  era * 146097 + (yearOfEra * 365 + yearOfEra / 4 - yearOfEra / 100 + dayOfYear) - 719468

/-- **The day of a number.** -/
def ofDayNumber (n : Int) : Date :=
  let n := n + 719468
  let era := n / 146097
  let dayOfEra := n - era * 146097
  let yearOfEra := (dayOfEra - dayOfEra / 1460 + dayOfEra / 36524 - dayOfEra / 146096) / 365
  let dayOfYear := dayOfEra - (365 * yearOfEra + yearOfEra / 4 - yearOfEra / 100)
  let shifted := (5 * dayOfYear + 2) / 153
  let month := if shifted < 10 then shifted + 3 else shifted - 9
  let year := yearOfEra + era * 400 + (if month ≤ 2 then 1 else 0)
  ⟨year, month.toNat, (dayOfYear - (153 * shifted + 2) / 5 + 1).toNat⟩

end Date

end WorkflowEngine
