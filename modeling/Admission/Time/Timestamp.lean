import Admission.Text.Digit
import Admission.Text.Quoted
import Admission.Time.Calendar

/-!
# Timestamps

A point in time, held as the civil date and time of day in its own offset from UTC, and the
date-times of RFC 3339 that write one.

* `Timestamp.parse`: the timestamp that an RFC 3339 date-time writes.
* `Timestamp.Fault`: why a text writes none.
* `Timestamp.instant`, `Timestamp.ofInstant?`: microseconds from the first moment of year 1.
-/

namespace Admission.Time

open Admission.Text

/-- Civil fields and the offset from UTC in seconds. -/
structure Timestamp extends Date where
  hour : Nat
  minute : Nat
  second : Nat
  microsecond : Nat
  offset : Int
  deriving DecidableEq, Repr

namespace Timestamp

/-- Microseconds in a second and seconds in a day. -/
def microsPerSecond : Nat := 1000000

/-- Seconds in a day. -/
def secondsPerDay : Nat := 86400

/-- Microseconds from midnight, in the timestamp's own offset. -/
def timeOfDay (t : Timestamp) : Nat :=
  ((t.hour * 60 + t.minute) * 60 + t.second) * microsPerSecond + t.microsecond

/-- Microseconds from the first moment of year 1 in UTC. Two timestamps are the same point in
time when they have the same instant. -/
def instant (t : Timestamp) : Int :=
  ((t.dayNumber * secondsPerDay : Nat) - t.offset) * microsPerSecond + t.timeOfDay

/-- The timestamp of an instant in a given offset, unless its year is not within 1 to 9999. -/
def ofInstant? (instant offset : Int) : Option Timestamp :=
  let micros := instant + offset * microsPerSecond
  let perDay : Int := secondsPerDay * microsPerSecond
  let day := Int.fdiv micros perDay
  let time := (Int.fmod micros perDay).toNat
  if day < 0 then none
  else
    let date := Date.ofDayNumber day.toNat
    if date.year > 9999 then none
    else
      let seconds := time / microsPerSecond
      some { date with
        hour := seconds / 3600
        minute := seconds / 60 % 60
        second := seconds % 60
        microsecond := time % microsPerSecond
        offset := offset }

/-- Whether the fields name a moment that exists. -/
def Exists (t : Timestamp) : Prop := t.toDate.Exists ∧ t.hour ≤ 23 ∧ t.minute ≤ 59 ∧ t.second ≤ 59

instance (t : Timestamp) : Decidable t.Exists := by unfold Exists; infer_instance

/-- Why a text is not a timestamp. -/
inductive Fault where
  /-- The text does not have the shape of a date-time. -/
  | shape (text : Text)
  /-- The offset names an hour or minute that does not exist. -/
  | offset (text : Text)
  /-- A field of the date or time is out of its range. -/
  | field
  deriving DecidableEq, Repr

/-- What is said about a fault; nothing more is said about a field out of range. -/
def Fault.message? : Fault → Option Text
  | .shape text => some ("not an RFC 3339 date-time: " ++ quoted text)
  | .offset text => some ("invalid UTC offset: " ++ quoted text)
  | .field => none

/-- The values of exactly `n` decimal digits at the front, and the rest. -/
def digits? : Nat → List Point → Option (List Nat × List Point)
  | 0, cs => some ([], cs)
  | _ + 1, [] => none
  | n + 1, c :: cs => do
    let d ← decimalDigit? c
    let (ds, rest) ← digits? n cs
    some (d :: ds, rest)

/-- The number of exactly `n` decimal digits at the front, and the rest. -/
def number? (n : Nat) (cs : List Point) : Option (Nat × List Point) :=
  (digits? n cs).map fun (ds, rest) => (natOfDigits ds, rest)

/-- The rest after one character of a set. -/
def oneOf? (set : List Point) : List Point → Option (List Point)
  | [] => none
  | c :: cs => if set.contains c then some cs else none

/-- A fraction of a second in whole microseconds: six digits, padded or cut. -/
def micros (ds : List Nat) : Nat := natOfDigits ((ds ++ List.replicate 6 0).take 6)

/-- The optional fraction of a second at the front, in microseconds, and the rest. -/
def fraction? : List Point → Option (Nat × List Point)
  | '.' :: cs =>
    let ds := cs.takeWhile isDecimalDigit
    if ds.isEmpty then none
    else (digitValues? ds).map fun values => (micros values, cs.dropWhile isDecimalDigit)
  | cs => some (0, cs)

/-- An offset from UTC as it is written: `Z`, or a sign with hours and minutes. -/
structure WrittenOffset where
  negative : Bool
  hours : Nat
  minutes : Nat
  text : List Point
  deriving DecidableEq, Repr

/-- The offset at the front, and the rest. -/
def offset? : List Point → Option (WrittenOffset × List Point)
  | [] => none
  | c :: cs =>
    if c = 'Z' ∨ c = 'z' then some (⟨false, 0, 0, [c]⟩, cs)
    else if c = '+' ∨ c = '-' then do
      let (hours, cs') ← number? 2 cs
      let cs' ← oneOf? [':'] cs'
      let (minutes, rest) ← number? 2 cs'
      some (⟨c = '-', hours, minutes, c :: cs.take 5⟩, rest)
    else none

/-- A date-time taken apart by its shape alone. -/
structure Written where
  fields : Timestamp
  writtenOffset : WrittenOffset
  deriving DecidableEq, Repr

/-- A text of the shape `YYYY-MM-DDThh:mm:ss[.f]offset`, taken apart. One final line break is
passed over. -/
def written? (cs : List Point) : Option Written := do
  let (year, cs) ← number? 4 cs
  let cs ← oneOf? ['-'] cs
  let (month, cs) ← number? 2 cs
  let cs ← oneOf? ['-'] cs
  let (day, cs) ← number? 2 cs
  let cs ← oneOf? ['T', 't'] cs
  let (hour, cs) ← number? 2 cs
  let cs ← oneOf? [':'] cs
  let (minute, cs) ← number? 2 cs
  let cs ← oneOf? [':'] cs
  let (second, cs) ← number? 2 cs
  let (microsecond, cs) ← fraction? cs
  let (o, cs) ← offset? cs
  if cs = [] ∨ cs = [.char '\n'] then
    let seconds : Int := (o.hours * 60 + o.minutes) * 60
    some ⟨⟨⟨year, month, day⟩, hour, minute, second, microsecond,
      if o.negative then -seconds else seconds⟩, o⟩
  else none

/-- **The timestamp that an RFC 3339 date-time writes.** The digits may be of any script. -/
def parse (text : Text) : Except Fault Timestamp :=
  match written? text.toList with
  | none => .error (.shape text)
  | some w =>
    if w.writtenOffset.hours > 23 ∨ w.writtenOffset.minutes > 59 then
      .error (.offset (Text.ofList w.writtenOffset.text))
    else if w.fields.Exists then .ok w.fields
    else .error .field

end Timestamp

end Admission.Time
