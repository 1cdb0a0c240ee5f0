import Admission.Text.Numeral
import Admission.Time.Iso
import Admission.Value.Arithmetic
import Admission.Value.Display

/-!
# Conversions

A kind called as a function converts its argument to that kind. Numbers are cut toward zero when
they become integers; texts are read as numerals.

* `Kind.convert`: the value of a kind for given arguments.
* `Value.durationOfText`: the durations that expressions write, in decimal numbers with units.
-/

namespace Admission

open Text Time

namespace Value

/-- The integer that a text writes: hexadecimal behind `0x` or `-0x`, else decimal. -/
def intOfText? (s : Text) : Option Int :=
  match s.toList with
  | '0' :: 'x' :: cs | '0' :: 'X' :: cs => readInt? 16 cs
  | '-' :: '0' :: 'x' :: cs | '-' :: '0' :: 'X' :: cs => (readInt? 16 cs).map (-·)
  | cs => readInt? 10 cs

/-- The integer that a text writes without a sign before the mark of hexadecimal digits. -/
def uintOfText? (s : Text) : Option Int :=
  match s.toList with
  | '0' :: 'x' :: cs | '0' :: 'X' :: cs => readInt? 16 cs
  | cs => readInt? 10 cs

/-- The characters of a row of bytes that are all in ASCII. -/
def asciiOf? (bs : List UInt8) : Option (List Point) :=
  if bs.all (· < 128) then some (bs.map fun b => Point.ofNat b.toNat) else none

/-- The value that a message holds under the name `value`, null if it has none. -/
def held (entries : List (Value × Value)) : Value :=
  (get? (.text .bare "value") entries).getD .null

/-- Contents that write a value. -/
def orUnreadable {α : Type} : Option α → Except Fault α
  | some a => .ok a
  | none => .error .outOfRange

/-- The integer in a number, which is cut toward zero, or that a decimal numeral writes. -/
def plainInteger : Value → Except Fault Int
  | .text _ s => orUnreadable (readInt? 10 s.toList)
  | .bytes _ bs => orUnreadable ((asciiOf? bs).bind (readInt? 10))
  | v => cutInteger v

/-- The seconds of a timestamp from the first moment of 1970. -/
def secondsOf (t : Timestamp) : Except Fault Int :=
  let micros := t.instant - Timestamp.instant ⟨⟨1970, 1, 1⟩, 0, 0, 0, 0, 0⟩
  orUnreadable (Decimal.truncate? (Decimal.ofQuotient (micros < 0) micros.natAbs 1000000))

/-- The integer in a value, where texts are read by `ofText`; null is zero. -/
def toInteger (ofText : Text → Option Int) : Value → Except Fault Int
  | .null => .ok 0
  | .text _ s => orUnreadable (ofText s)
  | .timestamp t => secondsOf t
  | v => plainInteger v

/-- The float in a number, or that a decimal numeral writes. -/
def plainReal : Value → Except Fault Float
  | .text _ s => orUnreadable (readFloat? s.toList)
  | .bytes _ bs => orUnreadable ((asciiOf? bs).bind readFloat?)
  | v => realNumber v

/-- The float in a value; null is zero. -/
def toReal : Value → Except Fault Float
  | .null => .ok 0
  | .map .message entries => plainReal (held entries)
  | v => plainReal v

/-- The words for the two booleans, with their numbers. -/
def booleanWords : List (Text × Int) :=
  [("true", 1), ("True", 1), ("TRUE", 1), ("t", 1), ("false", 0), ("False", 0), ("FALSE", 0),
    ("f", 0)]

/-- The number of the boolean in a value: that of a word or numeral, or of a number cut to an
integer; null is false. -/
def toBoolean : Value → Except Fault Int
  | .null => .ok 0
  | .text o s =>
    match booleanWords.lookup s with
    | some n => .ok n
    | none => plainInteger (.text o s)
  | .map .message entries => plainInteger (held entries)
  | v => plainInteger v

/-- The octet that an element of a row stands for. -/
def toOctet (v : Value) : Except Fault UInt8 :=
  match v.whole? with
  | some n => if 0 ≤ n ∧ n < 256 then .ok (UInt8.ofNat n.toNat) else .error .outOfRange
  | none => .error .mismatch

/-- The octets of the elements of a row. -/
def octetsOfElements (v : Value) : Except Fault (List UInt8) := do
  (← orMismatch v.elements?).mapM toOctet

/-- The octets that a message holds: bytes, a row of octets, or so many zeros. -/
def heldOctets : Value → Except Fault (List UInt8)
  | .bytes _ bs => .ok bs
  | .text _ _ => .error .mismatch
  | v =>
    match v.whole? with
    | some n =>
      if n < 0 then .error .outOfRange
      else if n > greatestLength then .error .overflow
      else .ok (List.replicate n.toNat 0)
    | none => octetsOfElements v

/-- The octets in a value: a text in UTF-8, or a row of octets; null has none. -/
def toOctets : Value → Except Fault (List UInt8)
  | .null => .ok []
  | .bytes _ bs => .ok bs
  | .text _ s => orUnreadable (encode? s)
  | .map .message entries => heldOctets (held entries)
  | v => octetsOfElements v

/-- The units of durations in expressions, in seconds. -/
def durationUnits : List (Text × Float) :=
  [("ns", 1e-9), ("us", 1e-6), ("ms", 1e-3), ("s", 1.0), ("m", 60.0), ("h", 3600.0), ("d", 86400.0)]

/-- The seconds of each number with a unit in a row of them: ASCII digits with an optional point,
and lower-case letters. The first argument bounds the length of the row. -/
def durationSegments? : Nat → List Point → Option (List Float)
  | _, [] => some []
  | 0, _ => none
  | more + 1, cs => do
    let (whole, rest) := Decimal.digitsOf cs
    let (fraction, rest) := afterPoint rest
    let isLetter := fun c : Point => 'a' ≤ c && c ≤ 'z'
    if whole.isEmpty && fraction.isEmpty then none
    else
      let scale ← durationUnits.lookup (Text.ofList (rest.takeWhile isLetter))
      let number := Decimal.Scientific.toFloat false ⟨whole, fraction, 0⟩
      let segments ← durationSegments? more (rest.dropWhile isLetter)
      some (number * scale :: segments)

/-- The exact sum of finite floats as a quotient. -/
def sumQuotient? : List Float → Option (Int × Nat)
  | [] => some (0, 1)
  | x :: xs => do
    let (a, b) ← Decimal.quotient? x
    let (c, d) ← sumQuotient? xs
    some (a * d + c * b, b * d)

/-- The microseconds of a float of seconds: the whole seconds, and the rest rounded to the
nearest microsecond, a half to the even one. -/
def microsOfSeconds? (x : Float) : Option Int := do
  let whole ← Decimal.truncate? x
  let whole' ← Decimal.ofInt? whole
  let (a, b) ← Decimal.quotient? ((x - whole') * 1e6)
  some (whole * 1000000 + roundQuotient a b)

/-- The duration that a text writes in an expression: a sign, and a row of decimal numbers with
units, computed in floats. -/
def durationOfText (s : Text) : Except Fault Value :=
  let (negative, cs) := takeSign s.toList
  let cs := if cs.getLast? = some (.char '\n') then cs.dropLast else cs
  match durationSegments? cs.length cs with
  | none | some [] => .error .outOfRange
  | some segments =>
    match sumQuotient? segments with
    | none => .error .outOfRange
    | some (a, b) =>
      let x := Decimal.ofQuotient negative a.natAbs b
      if x < -315576000000 ∨ 315576000000 < x then .error .outOfRange
      else (microsOfSeconds? x).elim (.error .outOfRange) length

/-- The greatest number of seconds that a duration is made of. -/
def greatestSeconds : Int := 315576000000

/-- Whole microseconds in a number of nanoseconds. A signed integer is cut toward zero, other
numbers are rounded down. -/
def microsOfNanos : Value → Except Fault Int
  | .int .typed n => .ok (Int.tdiv n 1000)
  | .double _ x _ => do cutInteger (ofFloat .bare (Decimal.floorQuotient x 1000.0))
  | v => do return Int.fdiv (← orMismatch v.whole?) 1000

/-- The duration in a value: a duration, a text, or whole seconds with nanoseconds beside them. The
sum of the two is not bounded. -/
def toDuration (v nanos : Value) : Except Fault Value :=
  match v with
  | .duration _ d => length d
  | .text _ s => durationOfText s
  | v => do
    let seconds ← orMismatch v.whole?
    if seconds < -greatestSeconds ∨ greatestSeconds < seconds then throw .outOfRange
    match ← bareLength (seconds * 1000000 + (← microsOfNanos nanos)) with
    | .duration _ d => return .duration .typed d
    | v => return v

/-- The timestamp in a value. -/
def toTimestamp : Value → Except Fault Value
  | .timestamp t => .ok (.timestamp t)
  | .text _ s => do return .timestamp (← orUnreadable (Timestamp.ofIso? s))
  | _ => .error .mismatch

/-- The timestamp in UTC with given fields, those after the day may be left out. -/
def timestampOfFields (fields : List Value) : Except Fault Value :=
  match fields.mapM Value.whole? with
  | none => .error .mismatch
  | some ns =>
    let field (i default : Nat) : Int := ns[i]?.getD default
    if ns.any (· < 0) then .error .outOfRange
    else
      let t : Timestamp := ⟨⟨(field 0 0).toNat, (field 1 0).toNat, (field 2 0).toNat⟩,
        (field 3 0).toNat, (field 4 0).toNat, (field 5 0).toNat, (field 6 0).toNat, 0⟩
      if t.Exists ∧ t.microsecond < 1000000 then .ok (.timestamp t) else .error .outOfRange

/-- The pair that an item of a list stands for. -/
def toPair (v : Value) : Except Fault (Value × Value) := do
  match ← orMismatch v.elements? with
  | [k, w] => return (k, w)
  | _ => throw .outOfRange

/-- Entries with one more at the end, whose key must be new. -/
def appendEntry (entries : List (Value × Value)) (key value : Value) :
    Except Fault (List (Value × Value)) :=
  if key.isHashable then
    match lookup key entries with
    | none => .error .mismatch
    | some none => .ok (entries ++ [(key, value)])
    | some (some _) => .error .outOfRange
  else .error .mismatch

/-- The map that pairs make. -/
def mapOfPairs (items : List Value) : Except Fault Value := do
  let entries ← items.foldlM (fun entries v => do
    let (k, w) ← toPair v
    appendEntry entries k w) []
  return .map .plain entries

/-- The map in a value: the entries of a map, or the pairs of a row; null has none. -/
def toMap : Value → Except Fault Value
  | .null => .ok (.map .plain [])
  | .map _ es => .ok (.map .plain es)
  | .list _ xs => mapOfPairs xs
  | .text _ s => mapOfPairs (characters s)
  | .bytes _ [] => .ok (.map .plain [])
  | _ => .error .mismatch

/-- The signed integer that a message holds, which need not fit 64 bits. -/
def heldInteger (entries : List (Value × Value)) : Except Fault Value := do
  return .int .typed (← plainInteger (held entries))

end Value

open Value in
/-- **The value of a kind** for given arguments. Arguments that a kind has no use for are passed
over. Of the bare kinds only texts and lists can be made. -/
def Kind.convert : Kind → List Value → Except Fault Value
  | .int .typed, .map .message es :: _ => heldInteger es
  | .int .typed, v :: _ => do signed (← toInteger intOfText? v)
  | .uint, .map .message es :: _ => do unsigned (← plainInteger (held es))
  | .uint, v :: _ => do unsigned (← toInteger uintOfText? v)
  | .double .typed, [v] => do return ofFloat .typed (← toReal v)
  | .text o, v :: _ => do return .text o (← orUnreadable v.plainText?)
  | .bool, [v] => do return .bool (← toBoolean v)
  | .bytes .typed, v :: _ => do return .bytes .typed (← toOctets v)
  | .list _, [] => .ok (.list .typed [])
  | .list o, [v] => do return .list o (← orMismatch v.elements?)
  | .map .plain, [] => .ok (.map .plain [])
  | .map .plain, [v] => toMap v
  | .map .message, [.null] => .ok (.map .message [])
  | .map .message, [.map _ es] => .ok (.map .message es)
  | .timestamp, v :: rest =>
    match v.whole?, rest with
    | none, _ => toTimestamp v
    | some _, m :: d :: more =>
      if more.length ≤ 4 then timestampOfFields (v :: m :: d :: more) else .error .mismatch
    | some _, _ => .error .mismatch
  | .duration .typed, [v] => toDuration v (.int .typed 0)
  | .duration .typed, [v, nanos] => toDuration v nanos
  | .null, [] => .ok .null
  | .kind, [v] => .ok (.kind v.kindOf)
  | _, _ => .error .mismatch

end Admission
