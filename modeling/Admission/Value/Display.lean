import Admission.Decimal.Layout
import Admission.Text.Octets
import Admission.Value.Basic

/-!
# Texts of values

How a value is written as a text. Inside a list or a map every typed part shows its kind.

* `Value.plainText?`: the text of a value on its own.
* `Value.shown?`: the text of a value inside another one. Functions have none.
-/

namespace Admission

open Text Time

/-- Two digits, the first one a zero if need be. -/
def twoDigits (n : Nat) : String := if n < 10 then "0" ++ toString n else toString n

/-- The text of a timestamp: its fields to the second, and `Z` or the offset. -/
def Time.Timestamp.text (t : Timestamp) : String :=
  let minutes := t.offset.natAbs / 60
  let zone :=
    if t.offset = 0 then "Z"
    else
      (if t.offset < 0 then "-" else "+") ++ twoDigits (minutes / 60) ++ ":" ++
        twoDigits (minutes % 60)
  toString t.year ++ "-" ++ twoDigits t.month ++ "-" ++ twoDigits t.day ++ "T" ++ twoDigits t.hour
    ++ ":" ++ twoDigits t.minute ++ ":" ++ twoDigits t.second ++ zone

namespace Value

/-- The format of floats in texts. -/
def doubleLayout : Decimal.Layout where
  infinity := "inf"
  notANumber := "nan"

/-- The text of a boolean. -/
def boolText (n : Int) : String := if n != 0 then "True" else "False"

/-- The text of a kind: typed kinds are shown with the family that they belong to. -/
def kindText (k : Kind) : Text :=
  let name : Text := if k = .duration .bare then "datetime.timedelta"
    else if k.isTyped then "celpy.celtypes." ++ k.name
    else k.name
  "<class '" ++ name ++ "'>"

/-- The text of a typed duration: whole seconds, cut toward zero. -/
def secondsText (micros : Int) : String := toString (Int.tdiv micros 1000000) ++ "s"

/-- The text of a bare duration: days if there are any, and the time of a clock. -/
def clockText (micros : Int) : String :=
  let perDay : Int := 86400 * 1000000
  let days := Int.fdiv micros perDay
  let rest := (Int.fmod micros perDay).toNat
  let seconds := rest / 1000000
  let fraction := Nat.toDigits 10 (rest % 1000000)
  let clock := toString (seconds / 3600) ++ ":" ++ twoDigits (seconds / 60 % 60) ++ ":" ++
    twoDigits (seconds % 60)
  (if days = 0 then "" else toString days ++ (if days.natAbs = 1 then " day, " else " days, ")) ++
    clock ++
    (if rest % 1000000 = 0 then ""
     else "." ++ String.ofList (List.replicate (6 - fraction.length) '0' ++ fraction))

/-- The text of a bare duration inside another value: its days, seconds and microseconds, those
that are not zero. -/
def partsText (micros : Int) : String :=
  let perDay : Int := 86400 * 1000000
  let rest := Int.fmod micros perDay
  let parts := [("days", Int.fdiv micros perDay), ("seconds", rest / 1000000),
    ("microseconds", rest % 1000000)].filter fun (_, n) => n != 0
  let texts := parts.map fun (name, n) => name ++ "=" ++ toString n
  "datetime.timedelta(" ++ (if texts.isEmpty then "0" else ", ".intercalate texts) ++ ")"

/-- A text in the shell of a kind, which only typed values have. -/
def inShell (k : Kind) (origin : Origin) (s : Text) : Text :=
  match origin with
  | .typed => k.name ++ "(" ++ s ++ ")"
  | .bare => s

mutual

/-- The text of a value inside another one. -/
def shown? : Value → Option Text
  | .null => some "None"
  | .bool n => some (inShell .bool .typed (boolText n))
  | .truth b => some (inShell .truth .bare (boolText b.toInt))
  | .int o n => some (inShell (.int o) o (toString n))
  | .uint n => some (inShell .uint .typed (toString n))
  | .double o x _ => some (inShell (.double o) o (doubleLayout.render x))
  | .text o s => some (inShell (.text o) o (quoted s))
  | .bytes o bs => some (inShell (.bytes o) o (quotedOctets bs))
  | .list o xs =>
    (shownItems? xs).map fun ts => inShell (.list o) o ("[" ++ Text.intercalate ", " ts ++ "]")
  | .map s es =>
    (shownEntries? es).map fun ts =>
      inShell (.map s) .typed ("\x7b" ++ Text.intercalate ", " ts ++ "\x7d")
  | .timestamp t => some (inShell .timestamp .typed (quoted t.text))
  | .duration .typed d => some (inShell (.duration .typed) .typed (quoted (secondsText d)))
  | .duration .bare d => some (partsText d)
  | .kind k => some (kindText k)
  | .function _ | .scope _ | .error => none

/-- The texts of the items of a list. -/
def shownItems? : List Value → Option (List Text)
  | [] => some []
  | x :: xs => do return (← shown? x) :: (← shownItems? xs)

/-- The texts of the entries of a map. -/
def shownEntries? : List (Value × Value) → Option (List Text)
  | [] => some []
  | (k, v) :: es => do return ((← shown? k) ++ ": " ++ (← shown? v)) :: (← shownEntries? es)

end

/-- **The text of a value on its own.** Bytes are read as UTF-8. -/
def plainText? : Value → Option Text
  | .null => some "None"
  | .bool n => some (boolText n)
  | .truth b => some (boolText b.toInt)
  | .int _ n => some (toString n)
  | .uint n => some (toString n)
  | .double _ x _ => some (doubleLayout.render x)
  | .text _ s => some s
  | .bytes _ bs => decode? bs
  | .timestamp t => some t.text
  | .duration .typed d => some (secondsText d)
  | .duration .bare d => some (clockText d)
  | v => shown? v

end Value

end Admission
