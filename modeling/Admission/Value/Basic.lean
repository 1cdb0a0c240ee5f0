import Admission.Time.Timestamp
import Admission.Value.Function

/-!
# Values

The values of expressions. Integers are typed as signed or unsigned and both fit 64 bits; a bare
integer is unbounded. A map keeps the order in which its keys were written.

* `Value.kind`: the kind of a value.
* `Value.number?`, `Value.isIndex`: the numbers among the values.
* `Value.elements?`: what an iteration goes through.
* `Value.isTrue`: whether a value counts as true where no boolean is asked for.
-/

namespace Admission

open Time

/-- The place of an evaluation inside the evaluation of a whole: the way to it, the last step
first. -/
abbrev Site := List Nat

/-- A value of an expression. -/
inductive Value where
  | null
  /-- A boolean, false if its number is zero. A conversion keeps the number that it was made
  of. -/
  | bool (n : Int)
  /-- A boolean without a type. No operation gives one, but a function of the host may. -/
  | truth (b : Bool)
  | int (origin : Origin) (n : Int)
  | uint (n : Nat)
  /-- A float. One that is not a number is told from all others by the place where it arose. -/
  | double (origin : Origin) (x : Float) (site : Site)
  | text (origin : Origin) (s : Text)
  | bytes (origin : Origin) (octets : List UInt8)
  | list (origin : Origin) (items : List Value)
  | map (shape : Shape) (entries : List (Value × Value))
  | timestamp (t : Timestamp)
  /-- A length of time in microseconds. -/
  | duration (origin : Origin) (micros : Int)
  | kind (k : Kind)
  | function (f : Function)
  /-- What the first part of a long name stands for. -/
  | scope (name : Text)
  /-- The failure of a part, which a map holds in the place of a value. -/
  | error
  deriving Inhabited

/-- A number without its type. -/
inductive Number where
  | whole (n : Int)
  | real (x : Float)

namespace Value

/-- A truth value. -/
def ofBool (b : Bool) : Value := .bool (if b then 1 else 0)

/-- A float that has not been given a place. -/
def ofFloat (origin : Origin) (x : Float) : Value := .double origin x []

/-- A value with its place, which only a new float that is not a number needs. -/
def placed (site : Site) : Value → Value
  | .double o x [] => .double o x (if x.isNaN then site else [])
  | v => v

/-- The kind of a value. -/
def kindOf : Value → Kind
  | .null => .null
  | .bool _ => .bool
  | .truth _ => .truth
  | .int o _ => .int o
  | .uint _ => .uint
  | .double o _ _ => .double o
  | .text o _ => .text o
  | .bytes o _ => .bytes o
  | .list o _ => .list o
  | .map s _ => .map s
  | .timestamp _ => .timestamp
  | .duration o _ => .duration o
  | .kind _ => .kind
  | .function _ => .function
  | .scope _ => .scope
  | .error => .function

/-- The integer in a value that may stand for one: integers of every kind, and the numbers of
booleans. -/
def whole? : Value → Option Int
  | .bool n => some n
  | .truth b => some b.toInt
  | .int _ n => some n
  | .uint n => some n
  | _ => none

/-- The number in a value that may stand for one. -/
def number? : Value → Option Number
  | .double _ x _ => some (.real x)
  | v => v.whole?.map .whole

/-- A typed text of one character or more. -/
def ofString (s : Text) : Value := .text .typed s

/-- The characters of a text, each a bare text. -/
def characters (s : Text) : List Value := s.toList.map fun c => .text .bare (Text.ofList [c])

/-- What an iteration goes through: the items of a list, the keys of a map, the characters of a
text, the octets of a row of bytes. -/
def elements? : Value → Option (List Value)
  | .list _ xs => some xs
  | .map _ es => some (es.map Prod.fst)
  | .text _ s => some (characters s)
  | .bytes _ bs => some (bs.map fun b => .int .bare b.toNat)
  | _ => none

/-- The number of elements of a value that has some; null has none. -/
def size? : Value → Option Nat
  | .null => some 0
  | .list _ xs => some xs.length
  | .map _ es => some es.length
  | .text _ s => some s.length
  | .bytes _ bs => some bs.length
  | _ => none

/-- Whether a value counts as true where no boolean is asked for: numbers other than zero,
durations other than zero, and texts, bytes, lists and maps that are not empty. -/
def isTrue : Value → Bool
  | .null => false
  | .bool n => n != 0
  | .truth b => b
  | .int _ n => n != 0
  | .uint n => n != 0
  | .double _ x _ => x != 0
  | .text _ s => !s.isEmpty
  | .bytes _ bs => !bs.isEmpty
  | .list _ xs => !xs.isEmpty
  | .map _ es => !es.isEmpty
  | .duration _ d => d != 0
  | _ => true

/-- Whether a value is a boolean that says yes. -/
def isYes : Value → Bool
  | .bool n => n != 0
  | .truth b => b
  | _ => false

/-- Whether a value is the failure of a part. -/
def isError : Value → Bool
  | .error => true
  | _ => false

/-- The least signed integer of 64 bits. -/
def leastInt : Int := -9223372036854775808

/-- The greatest signed integer of 64 bits. -/
def greatestInt : Int := 9223372036854775807

/-- The greatest unsigned integer of 64 bits. -/
def greatestUint : Int := 18446744073709551615

/-- The signed integer `n`, if it fits 64 bits. -/
def int? (n : Int) : Option Value :=
  if leastInt ≤ n ∧ n ≤ greatestInt then some (.int .typed n) else none

/-- The unsigned integer `n`, if it fits 64 bits. -/
def uint? (n : Int) : Option Value :=
  if 0 ≤ n ∧ n ≤ greatestUint then some (.uint n.toNat) else none

/-- The longest typed duration, in microseconds: ten thousand years of 365.25 days and some. -/
def longestDuration : Int := 315576000000 * 1000000

/-- The typed duration of `n` microseconds, if it is not too long. -/
def duration? (n : Int) : Option Value :=
  if -longestDuration ≤ n ∧ n ≤ longestDuration then some (.duration .typed n) else none

/-- The bare duration of `n` microseconds, if it is shorter than a milliard days. -/
def bareDuration? (n : Int) : Option Value :=
  let day : Int := 86400 * 1000000
  if -999999999 * day ≤ n ∧ n < 1000000000 * day then some (.duration .bare n) else none

end Value

end Admission
