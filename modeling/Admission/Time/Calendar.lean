/-!
# The civil calendar

Dates of the proleptic Gregorian calendar, and their number counted in days from the first day
of year 1.

* `Date.dayNumber`, `Date.ofDayNumber`: a date as a number of days, and back.
* `Date.weekday`, `Date.dayOfYear`: positions inside the week and the year.
-/

namespace Admission.Time

/-- Whether a year has a 29th of February. -/
def isLeap (year : Nat) : Bool := year % 4 == 0 && (year % 100 != 0 || year % 400 == 0)

/-- The number of days of a month (1 to 12) of a year. -/
def daysInMonth (year month : Nat) : Nat :=
  if month = 2 then (if isLeap year then 29 else 28)
  else if month = 4 ∨ month = 6 ∨ month = 9 ∨ month = 11 then 30
  else 31

/-- A date of the civil calendar. -/
structure Date where
  year : Nat
  month : Nat
  day : Nat
  deriving DecidableEq, Repr

/-- Whether a date exists, in the years 1 to 9999. -/
def Date.Exists (d : Date) : Prop :=
  (1 ≤ d.year ∧ d.year ≤ 9999) ∧ (1 ≤ d.month ∧ d.month ≤ 12) ∧
    1 ≤ d.day ∧ d.day ≤ daysInMonth d.year d.month

instance (d : Date) : Decidable d.Exists := by unfold Date.Exists; infer_instance

/-- The number of days before the first of January of a year. -/
def daysBeforeYear (year : Nat) : Nat :=
  let y := year - 1
  365 * y + y / 4 - y / 100 + y / 400

/-- The number of days of a year before the first of a month. -/
def daysBeforeMonth (year : Nat) : Nat → Nat
  | 0 | 1 => 0
  | month + 2 => daysBeforeMonth year (month + 1) + daysInMonth year (month + 1)

/-- The zero-based position of a date in its year. -/
def Date.dayOfYear (d : Date) : Nat := daysBeforeMonth d.year d.month + d.day - 1

/-- The number of days from the first day of year 1. -/
def Date.dayNumber (d : Date) : Nat := daysBeforeYear d.year + d.dayOfYear

/-- The day of the week, counted from Sunday. -/
def Date.weekday (d : Date) : Nat := (d.dayNumber + 1) % 7

/-- The month and day at a zero-based position in a year, looking from a month on. -/
def monthAndDay (year : Nat) : Nat → Nat → Nat → Nat × Nat
  | 0, month, day => (month, day + 1)
  | more + 1, month, day =>
    if day < daysInMonth year month then (month, day + 1)
    else monthAndDay year more (month + 1) (day - daysInMonth year month)

/-- The date with a given day number. Four centuries have 146097 days; the last century of the
four and the last year of each four are a day longer than the others. -/
def Date.ofDayNumber (n : Nat) : Date :=
  let inEra := n % 146097
  let century := min (inEra / 36524) 3
  let inCentury := inEra - century * 36524
  let inFour := inCentury % 1461
  let yearOfFour := min (inFour / 365) 3
  let year := n / 146097 * 400 + century * 100 + inCentury / 1461 * 4 + yearOfFour + 1
  let (month, day) := monthAndDay year 11 1 (inFour - yearOfFour * 365)
  ⟨year, month, day⟩

end Admission.Time
