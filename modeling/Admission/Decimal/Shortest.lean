import Admission.Decimal.Binary64

/-!
# The fewest digits that read back

The decimal digits of a float: as few as still read back to the same float, and of those the
nearest to its value. The search goes through the decimal grids from coarse to fine and stops at
the first one with a point among the reals that round to the float. If any point of a grid lies
there, so does one of the two neighbours of the value on that grid, so only these are tried.

* `Interval.ofParts`: the reals that round to a float.
* `shortest`: the digits and their decimal exponent.
-/

namespace Admission.Decimal

/-- The number `coefficient · 10 ^ exponent`. -/
structure Digits where
  coefficient : Nat
  exponent : Int
  deriving DecidableEq, Repr

/-- The reals that round to a float: its value and the bounds on both sides in units of
`2 ^ unit`, and whether the bounds belong to it. -/
structure Interval where
  low : Nat
  value : Nat
  high : Nat
  closed : Bool
  unit : Int

/-- The interval of a positive float. The neighbour below a power of two is half as far. -/
def Interval.ofParts (p : Parts) : Interval where
  low := 4 * p.mantissa - if p.mantissa = Nat.pow 2 52 ∧ p.exponent > -1074 then 1 else 2
  value := 4 * p.mantissa
  high := 4 * p.mantissa + 2
  closed := p.mantissa % 2 = 0
  unit := p.exponent - 2

/-- The interval seen from the decimal grid of exponent `e`: the factor that brings its numbers
to a common denominator, and that denominator. -/
def Interval.scale (i : Interval) (e : Int) : Nat × Nat :=
  (Nat.pow 2 i.unit.toNat * Nat.pow 10 (-e).toNat, Nat.pow 2 (-i.unit).toNat * Nat.pow 10 e.toNat)

/-- Whether the grid point `c · 10 ^ e` lies in the interval. -/
def Interval.contains (i : Interval) (c : Nat) (e : Int) : Bool :=
  let (factor, den) := i.scale e
  if i.closed then i.low * factor ≤ c * den && c * den ≤ i.high * factor
  else i.low * factor < c * den && c * den < i.high * factor

/-- The point of the grid of exponent `e` in the interval that is nearest to the value, a tie
going to the even coefficient. -/
def Interval.nearest? (i : Interval) (e : Int) : Option Nat :=
  let (factor, den) := i.scale e
  let below := i.value * factor / den
  let above := below + 1
  match i.contains below e, i.contains above e with
  | false, false => none
  | true, false => some below
  | false, true => some above
  | true, true =>
    let down := i.value * factor - below * den
    let up := above * den - i.value * factor
    some (if down < up then below else if up < down then above else below + below % 2)

/-- A decimal exponent above the leading digit of the float. -/
def coarsest (p : Parts) : Int := Int.fdiv ((p.mantissa.log2 + 1 + p.exponent) * 30103) 100000 + 1

/-- **The fewest digits that read back**, for a finite float other than zero. Twenty grids are
enough: the seventeenth digit always separates a float from its neighbours. -/
def shortest (p : Parts) : Digits :=
  let i := Interval.ofParts p
  let grid (k : Nat) : Int := coarsest p - k
  ((List.range 20).findSome? fun k => (i.nearest? (grid k)).map fun c => ⟨c, grid k⟩).getD ⟨0, 0⟩

end Admission.Decimal
