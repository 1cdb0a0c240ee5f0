import Admission.Value.Basic

/-!
# Why an operation has no result

The reasons for which operators, conversions and built-in functions fail, and results that have to
fit a type.
-/

namespace Admission.Value

open Time

/-- Why an operation has no result. -/
inductive Fault where
  /-- The operation is not defined for values of these kinds. -/
  | mismatch
  /-- The result does not fit its type, or contents do not write a value. -/
  | outOfRange
  | zeroDivision
  /-- An intermediate number is beyond every float, date or size. -/
  | overflow
  /-- A map does not have the key that a format asks for. -/
  | missingKey
  /-- The receiver has no such part. -/
  | noPart
  /-- The receiver has the part, but not in a zone. -/
  | noZone
  deriving DecidableEq, Repr

/-- The signed integer `n` as a result. -/
def signed (n : Int) : Except Fault Value := (int? n).elim (.error .outOfRange) .ok

/-- The unsigned integer `n` as a result. -/
def unsigned (n : Int) : Except Fault Value := (uint? n).elim (.error .outOfRange) .ok

/-- The typed duration of `n` microseconds as a result. -/
def length (n : Int) : Except Fault Value := (duration? n).elim (.error .outOfRange) .ok

/-- The bare duration of `n` microseconds as a result. -/
def bareLength (n : Int) : Except Fault Value := (bareDuration? n).elim (.error .overflow) .ok

/-- A timestamp moved by microseconds. -/
def move (t : Timestamp) (micros : Int) : Except Fault Value :=
  match Timestamp.ofInstant? (t.instant + micros) t.offset with
  | some t => .ok (.timestamp t)
  | none => .error .overflow

/-- A part that has to be there. -/
def orMismatch {α : Type} : Option α → Except Fault α
  | some a => .ok a
  | none => .error .mismatch

end Admission.Value
