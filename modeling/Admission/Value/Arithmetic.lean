import Admission.Decimal.Remainder
import Admission.Value.Format
import Admission.Value.Order

/-!
# Arithmetic

The operators of numbers, durations and timestamps, the joining and repetition of texts, bytes and
lists, and the formats among texts and bytes. Signed and unsigned results fit 64 bits or fail.
Division of integers cuts toward zero and the remainder has the sign of the dividend. Joining and
most operations on floats and durations give bare values.

* `Value.add`, `Value.sub`, `Value.mul`, `Value.div`, `Value.mod`, `Value.negate`.
-/

namespace Admission

open Time

/-- The float of a number, unless it is an integer beyond every float. -/
def Number.toFloat? : Number → Option Float
  | .whole n => Decimal.ofInt? n
  | .real x => some x

namespace Value

/-- What kind of integer an operation on two integers gives, if both are: the kind of the left
side, but a bare integer takes on the type of the right side. -/
inductive Whole where
  | signed | unsigned | bare
  deriving DecidableEq, Repr

/-- The kind of integer that two sides give. -/
def wholeKind? : Value → Value → Option Whole
  | .int .typed _, r => r.whole?.map fun _ => .signed
  | .uint _, r => r.whole?.map fun _ => .unsigned
  | .int .bare _, .int .typed _ => some .signed
  | .int .bare _, .uint _ => some .unsigned
  | .int .bare _, r => r.whole?.map fun _ => .bare
  | .bool _, r | .truth _, r => r.whole?.map fun _ => .bare
  | _, _ => none

/-- An integer of a kind as a result. -/
def ofWhole : Whole → Int → Except Fault Value
  | .signed, n => signed n
  | .unsigned, n => unsigned n
  | .bare, n => .ok (.int .bare n)

/-- Whether a value is a float, typed or bare. -/
def isReal : Value → Bool
  | .double _ _ _ => true
  | _ => false

/-- Whether a typed integer stands on the left, which does not mix with floats. -/
def isTypedWhole : Value → Bool
  | .int .typed _ => true
  | .uint _ => true
  | _ => false

/-- The floats of two sides of which one is a float and the left one no typed integer. -/
def reals (l r : Value) : Except Fault (Float × Float) :=
  if l.isTypedWhole || !(l.isReal || r.isReal) then .error .mismatch
  else
    match l.number?, r.number? with
    | some m, some n =>
      match m.toFloat?, n.toFloat? with
      | some x, some y => .ok (x, y)
      | _, _ => .error .overflow
    | _, _ => .error .mismatch

/-- An operation that integers and floats share, on two numbers. -/
def arithmetic (onWhole : Int → Int → Int) (onReal : Float → Float → Float) (l r : Value) :
    Except Fault Value :=
  match wholeKind? l r, l.whole?, r.whole? with
  | some k, some a, some b => ofWhole k (onWhole a b)
  | _, _, _ => (reals l r).map fun (x, y) => ofFloat .bare (onReal x y)

/-- The sum of two values, or the first followed by the second. -/
def add : Value → Value → Except Fault Value
  | .text _ a, .text _ b => .ok (.text .bare (a ++ b))
  | .bytes _ a, .bytes _ b => .ok (.bytes .bare (a ++ b))
  | .list _ a, .list _ b => .ok (.list .bare (a ++ b))
  | .timestamp t, .duration _ d => move t d
  | .duration _ d, .timestamp t => move t d
  | .duration .bare a, .duration .bare b => bareLength (a + b)
  | .duration _ a, .duration _ b => length (a + b)
  | l, r => arithmetic (· + ·) (· + ·) l r

/-- The difference of two values. -/
def sub : Value → Value → Except Fault Value
  | .timestamp t, .timestamp u => length (t.instant - u.instant)
  | .timestamp t, .duration _ d => move t (-d)
  | .duration _ a, .duration _ b => bareLength (a - b)
  | l, r => arithmetic (· - ·) (· - ·) l r

/-- An integer quotient rounded to the nearest integer, a half to the even one. -/
def roundQuotient (num : Int) (den : Nat) : Int :=
  let magnitude : Int := Decimal.roundHalfEven num.natAbs den
  if num < 0 then -magnitude else magnitude

/-- A duration times a number. Under a typed integer the microseconds of the product have to fit
the type of the integer, too. -/
def durationTimes (d : Int) (factor : Value) : Except Fault Value :=
  match factor.number? with
  | some (.whole n) =>
    match factor with
    | .int .typed _ => signed (d * n) *> bareLength (d * n)
    | .uint _ => unsigned (d * n) *> bareLength (d * n)
    | _ => bareLength (d * n)
  | some (.real x) =>
    match Decimal.quotient? x with
    | some (num, den) => bareLength (roundQuotient (d * num) den)
    | none => .error .outOfRange
  | none => .error .mismatch

/-- A duration divided by a number. -/
def durationOver (d : Int) : Number → Except Fault Value
  | .whole n =>
    if n = 0 then .error .zeroDivision else bareLength (roundQuotient (d * n.sign) n.natAbs)
  | .real x =>
    match Decimal.quotient? x with
    | some (num, den) =>
      if num = 0 then .error .zeroDivision
      else bareLength (roundQuotient (d * den * num.sign) num.natAbs)
    | none => .error .outOfRange

/-- How often a value asks for the repetition of another one: booleans and bare integers do. -/
def repetitions? : Value → Option Int
  | .bool n => some n
  | .truth b => some b.toInt
  | .int .bare n => some n
  | _ => none

/-- The greatest length of a repeated value. -/
def greatestLength : Nat := 1000000000

/-- Whether a value can be repeated: a text, a row of bytes or a list. -/
def isRow : Value → Bool
  | .text _ _ | .bytes _ _ | .list _ _ => true
  | _ => false

/-- A text, row of bytes or list as often as a value asks for, never under a negative number. -/
def repeated (row times : Value) : Except Fault Value := do
  let n ← orMismatch times.repetitions?
  if n < leastInt ∨ n > greatestInt ∨ n * (row.size?.getD 0 : Nat) > greatestLength then
    .error .overflow
  else
    match row with
    | .text _ s => .ok (.text .bare (Text.join (List.replicate n.toNat s)))
    | .bytes _ bs => .ok (.bytes .bare (List.replicate n.toNat bs).flatten)
    | .list _ xs => .ok (.list .bare (List.replicate n.toNat xs).flatten)
    | _ => .error .mismatch

/-- The product of two values. -/
def mul (l r : Value) : Except Fault Value :=
  match l, r with
  | .duration _ d, _ => durationTimes d r
  | _, .duration _ d => if l.isTypedWhole then .error .mismatch else durationTimes d l
  | _, _ =>
    if l.isRow then repeated l r
    else if r.isRow then repeated r l
    else arithmetic (· * ·) (· * ·) l r

/-- The integer part of a float as a signed integer. -/
def signedPart (x : Float) : Except Fault Value := do
  signed (← (Decimal.truncate? x).elim (.error .outOfRange) .ok)

/-- A signed integer divided by a float: the whole quotient of the magnitudes, computed in floats,
with its sign. -/
def divByReal (a : Int) (x : Float) : Except Fault Value :=
  if x == 0 then .error .zeroDivision
  else
    let quotient := Decimal.floorQuotient (Decimal.ofInt a.natAbs) x.abs
    signedPart (if decide (a < 0) != decide (x < 0) then -quotient else quotient)

/-- The remainder of a signed integer by a float, computed in floats and cut to an integer with the
sign of the dividend. -/
def modByReal (a : Int) (x : Float) : Except Fault Value :=
  if x == 0 then .error .zeroDivision
  else
    let rest := Decimal.floorRemainder (Decimal.ofInt a.natAbs) x.abs
    signedPart (if a < 0 then -rest else rest)

/-- Division of two integers of a kind, the second one not zero. Signed quotients cut toward
zero, unsigned ones round down, and bare ones are floats. -/
def divWhole : Whole → Int → Int → Except Fault Value
  | .signed, a, b => signed (Int.tdiv a b)
  | .unsigned, a, b => unsigned (Int.fdiv a b)
  | .bare, a, b =>
    let x := Decimal.ofQuotient ((a < 0) != (b < 0)) a.natAbs b.natAbs
    if x.isFinite then .ok (ofFloat .bare x) else .error .overflow

/-- Whether a value is a typed float. -/
def isTypedReal : Value → Bool
  | .double .typed _ _ => true
  | _ => false

/-- Whether a value is the typed float zero. -/
def isTypedZero : Value → Bool
  | .double .typed x _ => x == 0
  | _ => false

/-- Positive infinity as a typed float. -/
def infinity : Value := ofFloat .typed (1.0 / 0.0)

/-- Division of floats, of which a typed one on the left divides by zero into infinity. -/
def divReal (l r : Value) : Except Fault Value := do
  let (x, y) ← reals l r
  if y == 0 then
    if l.isTypedReal then return infinity else throw .zeroDivision
  return ofFloat (if l.isTypedReal || r.isTypedReal then .typed else .bare) (x / y)

/-- The quotient of two values. Over the typed float zero it is infinity, whatever stands on the
left; only integers with a type and durations divide by their own rules. -/
def div (l r : Value) : Except Fault Value :=
  match l, r with
  | .duration _ a, .duration _ b =>
    if b = 0 then .error .zeroDivision
    else .ok (ofFloat .bare (Decimal.ofQuotient ((a < 0) != (b < 0)) a.natAbs b.natAbs))
  | .duration _ d, _ => (r.number?.map (durationOver d)).getD (.error .mismatch)
  | .int .typed a, .double _ x _ => divByReal a x
  | .double .typed _ _, .int .typed _ | .double .typed _ _, .uint _ => .error .mismatch
  | _, _ =>
    match wholeKind? l r, l.whole?, r.whole? with
    | some k, some a, some b => if b = 0 then .error .zeroDivision else divWhole k a b
    | _, _, _ =>
      if r.isTypedZero && !l.isTypedWhole then .ok infinity else divReal l r

/-- The remainder of two integers of a kind, the second one not zero: signed remainders have the
sign of the dividend, the others that of the divisor. -/
def modWhole : Whole → Int → Int → Except Fault Value
  | .signed, a, b => signed (Int.tmod a b)
  | .unsigned, a, b => unsigned (Int.fmod a b)
  | .bare, a, b => .ok (.int .bare (Int.fmod a b))

/-- The remainder of floats, which bare ones have beside bare ones, integers and booleans; it has
the sign of the divisor. -/
def modReal (l r : Value) : Except Fault Value := do
  if l.isTypedReal || r.isTypedReal then throw .mismatch
  let (x, y) ← reals l r
  if y == 0 then throw .zeroDivision
  return ofFloat .bare (Decimal.floorRemainder x y)

/-- The remainder of two values. A text or row of bytes on the left is a format. -/
def mod (l r : Value) : Except Fault Value :=
  match l, r with
  | .text o s, _ => format o s r
  | .bytes _ bs, _ => formatOctets bs r
  | .duration _ a, .duration _ b =>
    if b = 0 then .error .zeroDivision else bareLength (Int.fmod a b)
  | .int .typed a, .double _ x _ => modByReal a x
  | _, _ =>
    match wholeKind? l r, l.whole?, r.whole? with
    | some k, some a, some b => if b = 0 then .error .zeroDivision else modWhole k a b
    | _, _, _ => modReal l r

/-- The opposite of a value. -/
def negate : Value → Except Fault Value
  | .int .typed n => signed (-n)
  | .int .bare n => .ok (.int .bare (-n))
  | .truth b => .ok (.int .bare (-b.toInt))
  | .double o x _ => .ok (ofFloat o (-x))
  | .duration _ d => bareLength (-d)
  | _ => .error .mismatch

end Value

end Admission
