import Admission.Decimal.Binary64
import Admission.Time.Timestamp
import Admission.Value.Function

/-!
# Parts of timestamps and durations

What the accessors of timestamps and durations give: calendar parts of a timestamp, and the length
of a duration in a unit, cut to a whole number.

* `Timestamp.part`, `Duration.total?`: the parts.
-/

namespace Admission.Time

/-- A part of a timestamp in its own offset. Months, days of the month and days of the year are
counted from zero, but the date from one; days of the week start with Sunday. -/
def Timestamp.part (t : Timestamp) : Part → Nat
  | .fullYear => t.year
  | .month => t.month - 1
  | .date => t.day
  | .dayOfMonth => t.day - 1
  | .dayOfWeek => t.weekday
  | .dayOfYear => t.dayOfYear
  | .hours => t.hour
  | .minutes => t.minute
  | .seconds => t.second
  | .milliseconds => t.microsecond / 1000

/-- The total of a length of time in microseconds as a float of seconds. -/
def Duration.seconds (micros : Int) : Float :=
  Decimal.ofQuotient (micros < 0) micros.natAbs 1000000

/-- The total of a length of time in a unit, if the part names one. -/
def Duration.total? (micros : Int) : Part → Option Int
  | .hours => Decimal.truncate? (Duration.seconds micros / 60 / 60)
  | .minutes => Decimal.truncate? (Duration.seconds micros / 60)
  | .seconds => Decimal.truncate? (Duration.seconds micros)
  | .milliseconds => Decimal.truncate? (Duration.seconds micros * 1000)
  | _ => none

end Admission.Time
