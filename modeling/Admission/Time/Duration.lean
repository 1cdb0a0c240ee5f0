import Admission.Text.Digit
import Admission.Text.Quoted

/-!
# Durations

Signed lengths of time in nanoseconds, and the texts that write one: a sign, then the single
digit 0 or a row of segments, each a decimal number and a unit (`1h30m`, `-1.5s`, `2us`).

* `Duration.parse`: the nanoseconds that a text writes.
* `Duration.Fault`: why a text writes none.
* `Duration.split`: whole seconds and the nanoseconds beyond them.
-/

namespace Admission.Time.Duration

open Admission.Text

/-- Nanoseconds in a second. -/
def nanosPerSecond : Nat := 1000000000

/-- The units and their lengths in nanoseconds; micro is written with the Latin letter, the
micro sign or the Greek letter. -/
def units : List (Text × Nat) :=
  [("ns", 1), ("us", 1000), ("µs", 1000), ("μs", 1000), ("ms", 1000000), ("s", nanosPerSecond),
    ("m", 60 * nanosPerSecond), ("h", 3600 * nanosPerSecond)]

/-- The longest positive duration, in nanoseconds. -/
def longest : Nat := 9223372036854775807

/-- Why a text is not a duration. -/
inductive Fault where
  /-- The text is not a row of numbers with units. -/
  | malformed (text : Text)
  | unknownUnit (unit text : Text)
  /-- The duration does not fit 64 bits of nanoseconds. -/
  | outOfRange (text : Text)
  /-- A number has more digits than are read. -/
  | tooManyDigits
  deriving DecidableEq, Repr

/-- What is said about a fault; nothing more is said about a number that is too long. -/
def Fault.message? : Fault → Option Text
  | .malformed text => some ("invalid duration: " ++ quoted text)
  | .unknownUnit unit text =>
    some ("unknown unit " ++ quoted unit ++ " in duration " ++ quoted text)
  | .outOfRange text => some ("duration out of range: " ++ quoted text)
  | .tooManyDigits => none

/-- The characters that units are written with. -/
def isUnitChar (c : Point) : Bool := ('a' ≤ c && c ≤ 'z') || c == 'µ' || c == 'μ'

/-- One segment as it is written: whole digits, digits after a point, and a unit. -/
structure Segment where
  whole : List Point
  fraction : List Point
  unit : List Point
  deriving DecidableEq, Repr

/-- The segment at the front of a text, and the rest. The unit is as long as it can be. -/
def Segment.read (cs : List Point) : Segment × List Point :=
  let whole := cs.takeWhile isDecimalDigit
  let cs := cs.dropWhile isDecimalDigit
  match cs with
  | '.' :: cs =>
    let afterPoint := cs.dropWhile isDecimalDigit
    (⟨whole, cs.takeWhile isDecimalDigit, afterPoint.takeWhile isUnitChar⟩,
      afterPoint.dropWhile isUnitChar)
  | _ => (⟨whole, [], cs.takeWhile isUnitChar⟩, cs.dropWhile isUnitChar)

/-- The number that a row of digits writes, unless the row is too long. -/
def digitsValue (ds : List Point) : Except Fault Nat :=
  if ds.length > digitLimit then .error .tooManyDigits
  else .ok (natOfDigits ((digitValues? ds).getD []))

/-- The nanoseconds of a segment in a unit of `scale` nanoseconds. A fraction is cut to whole
nanoseconds. -/
def Segment.nanos (s : Segment) (scale : Nat) : Except Fault Nat := do
  let whole ← digitsValue s.whole
  let fraction ← digitsValue s.fraction
  return whole * scale + fraction * scale / Nat.pow 10 s.fraction.length

/-- The sum of the segments of `cs` and of the `total` before them, at most `most`. The text is
the one that faults name; the first argument bounds the number of segments. -/
def sum (text : Text) (most : Nat) : Nat → Nat → List Point → Except Fault Nat
  | _, total, [] => .ok total
  | 0, _, _ :: _ => .error (.malformed text)
  | more + 1, total, c :: cs =>
    let (segment, rest) := Segment.read (c :: cs)
    if segment.unit = [] ∨ (segment.whole = [] ∧ segment.fraction = []) then
      .error (.malformed text)
    else
      match units.lookup (Text.ofList segment.unit) with
      | none => .error (.unknownUnit (Text.ofList segment.unit) text)
      | some scale => do
        let total := total + (← segment.nanos scale)
        if total > most then .error (.outOfRange text)
        else sum text most more total rest

/-- The sign at the front, as "is negative", and the rest. -/
def sign : List Point → Bool × List Point
  | '-' :: cs => (true, cs)
  | '+' :: cs => (false, cs)
  | cs => (false, cs)

/-- **The nanoseconds that a text writes.** -/
def parse (text : Text) : Except Fault Int :=
  let (negative, cs) := sign text.toList
  if cs = [.char '0'] then .ok 0
  else if cs = [] then .error (.malformed text)
  else do
    let total ← sum text (if negative then longest + 1 else longest) cs.length 0 cs
    return if negative then -(total : Int) else total

/-- Whole seconds, rounded down, and the nanoseconds beyond them. -/
def split (nanos : Int) : Int × Int :=
  (Int.fdiv nanos nanosPerSecond, Int.fmod nanos nanosPerSecond)

end Admission.Time.Duration
