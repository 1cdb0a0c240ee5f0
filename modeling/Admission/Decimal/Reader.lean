import Admission.Decimal.Binary64
import Admission.Text.Digit

/-!
# Reading decimal numbers

Decimal numbers with ASCII digits: whole digits, an optional fraction and an optional exponent.

* `digitsOf`: the row of ASCII digits at the front of a text.
* `Scientific`: a decimal number as it is written, and the float nearest to it.
-/

namespace Admission.Decimal

/-- The row of ASCII digits at the front, and the rest. -/
def digitsOf (cs : List Point) : List Point × List Point :=
  (cs.takeWhile Point.isDigit, cs.dropWhile Point.isDigit)

/-- The number that a row of ASCII digits writes. -/
def natOf (ds : List Point) : Nat := Text.natOfDigits (ds.map fun c => c.toNat - 48)

/-- A decimal number as it is written: digits before the point, digits after it, and an
exponent. -/
structure Scientific where
  whole : List Point
  fraction : List Point := []
  exponent : Int := 0

/-- The float nearest to a written number. -/
def Scientific.toFloat (negative : Bool) (s : Scientific) : Float :=
  ofScientific negative (natOf (s.whole ++ s.fraction)) (s.exponent - s.fraction.length)

/-- An exponent at the front: `e` or `E`, an optional sign and at least one digit. -/
def exponent? : List Point → Option (Int × List Point)
  | [] => none
  | e :: cs =>
    if e = 'e' ∨ e = 'E' then
      let (negative, cs) := match cs with
        | '-' :: cs => (true, cs)
        | '+' :: cs => (false, cs)
        | cs => (false, cs)
      let (ds, rest) := digitsOf cs
      if ds.isEmpty then none
      else some (if negative then -(natOf ds : Int) else natOf ds, rest)
    else none

end Admission.Decimal
