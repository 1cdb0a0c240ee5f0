/-!
# Binary floating point, exactly

A finite 64-bit float is `± m · 2 ^ q`. This module takes a float apart into that form and
rounds a quotient of naturals to the nearest float, ties to the even mantissa, so that every
conversion between numbers and text is exact arithmetic on naturals.

* `parts?`: sign, mantissa and exponent of a finite float.
* `ofQuotient`: the float nearest to a quotient; infinite beyond the largest float.
* `ofInt`, `compareInt`, `truncate?`: floats beside integers.
-/

namespace Admission.Decimal

/-- A finite float as `± mantissa · 2 ^ exponent`. -/
structure Parts where
  negative : Bool
  mantissa : Nat
  exponent : Int
  deriving DecidableEq, Repr

/-- The sign, mantissa and exponent of a finite float; `none` for the infinities and for a
float that is not a number. -/
def parts? (x : Float) : Option Parts :=
  let bits := x.toBits.toNat
  let negative := decide (Nat.pow 2 63 ≤ bits)
  let biased : Nat := bits / Nat.pow 2 52 % 2048
  let fraction : Nat := bits % Nat.pow 2 52
  if biased = 2047 then none
  else if biased = 0 then some ⟨negative, fraction, -1074⟩
  else some ⟨negative, Nat.pow 2 52 + fraction, biased - 1075⟩

/-- The quotient of two naturals rounded to the nearest natural, a half to the even one. -/
def roundHalfEven (num den : Nat) : Nat :=
  let q := num / den
  let twice := 2 * (num % den)
  if twice < den then q else if den < twice then q + 1 else q + q % 2

/-- The float with a given sign and the value `mantissa · 2 ^ exponent`, where the mantissa is
at most `2 ^ 53`, and at least `2 ^ 52` unless the exponent is the least one. -/
def assemble (negative : Bool) (mantissa : Nat) (exponent : Int) : Float :=
  let magnitude :=
    if mantissa < Nat.pow 2 52 then mantissa
    else
      min ((exponent + 1075).toNat * Nat.pow 2 52 + (mantissa - Nat.pow 2 52))
        (2047 * Nat.pow 2 52)
  Float.ofBits (UInt64.ofNat (magnitude + if negative then Nat.pow 2 63 else 0))

/-- **The float nearest to `± num / den`**, a tie going to the even mantissa. The denominator is
positive; a quotient that rounds beyond the largest float gives infinity. -/
def ofQuotient (negative : Bool) (num den : Nat) : Float :=
  if num = 0 then assemble negative 0 (-1074)
  else
    let guess : Int := (num.log2 : Int) - den.log2 - 52
    -- the quotient lies between 2 ^ (guess + 51) and 2 ^ (guess + 53)
    let low := if guess ≥ 0 then num < Nat.pow 2 (52 + guess.toNat) * den
      else num * Nat.pow 2 (-guess).toNat < Nat.pow 2 52 * den
    let exponent := max (if low then guess - 1 else guess) (-1074)
    let mantissa :=
      if exponent ≥ 0 then roundHalfEven num (den * Nat.pow 2 exponent.toNat)
      else roundHalfEven (num * Nat.pow 2 (-exponent).toNat) den
    assemble negative mantissa exponent

/-- The float nearest to `± coefficient · 10 ^ exponent`. -/
def ofScientific (negative : Bool) (coefficient : Nat) (exponent : Int) : Float :=
  let size : Int := coefficient.log2 * 3 / 10 + exponent
  if coefficient = 0 ∨ size < -400 then ofQuotient negative 0 1
  else if size > 400 then assemble negative (Nat.pow 2 52) 2000
  else if exponent ≥ 0 then ofQuotient negative (coefficient * Nat.pow 10 exponent.toNat) 1
  else ofQuotient negative coefficient (Nat.pow 10 (-exponent).toNat)

/-- The float nearest to an integer. -/
def ofInt (n : Int) : Float := ofQuotient (n < 0) n.natAbs 1

/-- The float nearest to an integer, unless the integer is beyond every float. -/
def ofInt? (n : Int) : Option Float :=
  let x := ofInt n
  if x.isFinite then some x else none

/-- The finite float `p` compared with an integer, without rounding either. -/
def Parts.compareInt (p : Parts) (n : Int) : Ordering :=
  let m : Int := if p.negative then -p.mantissa else p.mantissa
  if p.exponent ≥ 0 then compare (m * Nat.pow 2 p.exponent.toNat) n
  else compare m (n * Nat.pow 2 (-p.exponent).toNat)

/-- A float compared with an integer; `none` if the float is not a number. -/
def compareInt (x : Float) (n : Int) : Option Ordering :=
  match parts? x with
  | some p => some (p.compareInt n)
  | none => if x.isNaN then none else some (if x < 0 then .lt else .gt)

/-- The integer part of a finite float. -/
def truncate? (x : Float) : Option Int :=
  (parts? x).map fun p =>
    let n : Nat := if p.exponent ≥ 0 then p.mantissa * Nat.pow 2 p.exponent.toNat
      else p.mantissa / Nat.pow 2 (-p.exponent).toNat
    if p.negative then -(n : Int) else n

/-- A finite float as a quotient of an integer and a positive natural. -/
def quotient? (x : Float) : Option (Int × Nat) :=
  (parts? x).map fun p =>
    let m : Int := if p.negative then -p.mantissa else p.mantissa
    if p.exponent ≥ 0 then (m * Nat.pow 2 p.exponent.toNat, 1)
    else (m, Nat.pow 2 (-p.exponent).toNat)

end Admission.Decimal
