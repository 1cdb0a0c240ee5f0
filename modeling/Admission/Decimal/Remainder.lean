import Admission.Decimal.Binary64

/-!
# Quotients and remainders of floats

The remainder of two floats is exact, since it is a multiple of the smaller of the two last
places. The quotient that goes with it is rounded.

* `truncRemainder`: the remainder with the sign of the dividend.
* `floorRemainder`, `floorQuotient`: the remainder with the sign of the divisor, and the whole
  quotient beside it.
-/

namespace Admission.Decimal

/-- The float that is not a number. -/
def notANumber : Float := 0.0 / 0.0

/-- The exact remainder of two finite floats, the second one not zero, with the sign of the
first. -/
def Parts.remainder (p q : Parts) : Float :=
  let unit := min p.exponent q.exponent
  let scaled (r : Parts) : Nat := r.mantissa * Nat.pow 2 (r.exponent - unit).toNat
  let rest := scaled p % scaled q
  if unit ≥ 0 then ofQuotient p.negative (rest * Nat.pow 2 unit.toNat) 1
  else ofQuotient p.negative rest (Nat.pow 2 (-unit).toNat)

/-- The remainder with the sign of the dividend. By an infinity it is the dividend; an infinity,
or division by zero, leaves no number. -/
def truncRemainder (x y : Float) : Float :=
  match parts? x, parts? y with
  | some p, some q => if q.mantissa = 0 then notANumber else p.remainder q
  | some _, none => if y.isNaN then notANumber else x
  | none, _ => notANumber

/-- A zero with the sign of a float. -/
def zeroLike (x : Float) : Float := if x < 0 then -0.0 else 0.0

/-- Whether a remainder has the other sign than the divisor. -/
def isOpposite (rest divisor : Float) : Bool :=
  !(rest == 0) && decide (divisor < 0) != decide (rest < 0)

/-- The remainder with the sign of the divisor, which is not zero. -/
def floorRemainder (x y : Float) : Float :=
  let rest := truncRemainder x y
  if rest == 0 then zeroLike y else if isOpposite rest y then rest + y else rest

/-- The whole quotient that goes with `floorRemainder`: the quotient of what the remainder leaves,
rounded to the nearest whole number. -/
def floorQuotient (x y : Float) : Float :=
  let rest := truncRemainder x y
  let quotient := (x - rest) / y
  let quotient := if isOpposite rest y then quotient - 1.0 else quotient
  if quotient == 0 then zeroLike (x / y)
  else
    let whole := quotient.floor
    if quotient - whole > 0.5 then whole + 1.0 else whole

end Admission.Decimal
