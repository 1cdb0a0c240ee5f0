import Admission.Decimal.Layout

/-!
# Decimal numbers of a given precision

A float with a chosen number of digits: so many places after the point, so many digits behind the
leading one, or so many digits in all. The digits are those of the float's exact value, rounded to
nearest, a half to the even digit.

* `Precise.render`: the text of the magnitude of a finite float.
-/

namespace Admission.Decimal

/-- How a magnitude is written. -/
inductive Style where
  /-- With so many places after the point. -/
  | fixed
  /-- With so many places after the leading digit, and an exponent. -/
  | exponent
  /-- With so many digits in all, in the shorter of the two ways and without zeros at the end. -/
  | general
  deriving DecidableEq, Repr

/-- A way to write magnitudes. -/
structure Precise where
  style : Style
  precision : Nat
  /-- The point and the zeros at the end are always written. -/
  full : Bool := false

/-- The magnitude of a float times a power of ten, as a quotient. -/
def Parts.timesTen (p : Parts) (k : Int) : Nat × Nat :=
  (p.mantissa * Nat.pow 2 p.exponent.toNat * Nat.pow 10 k.toNat,
    Nat.pow 2 (-p.exponent).toNat * Nat.pow 10 (-k).toNat)

/-- The magnitude of a float times a power of ten, rounded. -/
def Parts.roundTen (p : Parts) (k : Int) : Nat :=
  let (num, den) := p.timesTen k
  roundHalfEven num den

/-- The decimal exponent of the leading digit of a float other than zero. The first guess is off
by one at most. -/
def Parts.leading (p : Parts) : Int :=
  let guess := Int.fdiv ((p.mantissa.log2 + p.exponent) * 30103) 100000
  let reaches (k : Int) : Bool :=
    let (num, den) := p.timesTen (-k)
    den ≤ num
  if reaches (guess + 1) then guess + 1 else if reaches guess then guess else guess - 1

/-- The first digits of a float, as a number of `places + 1` digits, and the exponent of the
leading one. -/
def Parts.firstDigits (p : Parts) (places : Nat) : Nat × Int :=
  if p.mantissa = 0 then (0, 0)
  else
    let k := p.leading
    let n := p.roundTen (places - k)
    if n = Nat.pow 10 (places + 1) then (n / 10, k + 1) else (n, k)

/-- The decimal digits of a number, at least `width` of them. -/
def paddedDigits (width n : Nat) : List Char :=
  let digits := Nat.toDigits 10 n
  zeros (width - digits.length) ++ digits

/-- Digits with a point in front of the last `places` ones. -/
def pointed (full : Bool) (places : Nat) (digits : List Char) : List Char :=
  let whole := digits.length - places
  digits.take whole ++ (if places = 0 && !full then [] else '.' :: digits.drop whole)

/-- The exponent at the end of a number: a sign and at least two digits. -/
def exponentMark (k : Int) : List Char :=
  'e' :: (if k < 0 then '-' else '+') :: paddedDigits 2 k.natAbs

/-- A number without the zeros at the end of its fraction. -/
def trimmed (cs : List Char) : List Char :=
  if cs.contains '.' then
    let rest := cs.reverse.dropWhile (· == '0')
    (match rest with
      | '.' :: rest => rest
      | rest => rest).reverse
  else cs

/-- **The text of the magnitude** of a finite float. -/
def Precise.render (w : Precise) (p : Parts) : List Char :=
  match w.style with
  | .fixed => pointed w.full w.precision (paddedDigits (w.precision + 1) (p.roundTen w.precision))
  | .exponent =>
    let (n, k) := p.firstDigits w.precision
    pointed w.full w.precision (paddedDigits (w.precision + 1) n) ++ exponentMark k
  | .general =>
    let places := w.precision - 1
    let (n, k) := p.firstDigits places
    let digits := paddedDigits (places + 1) n
    let ending (cs : List Char) : List Char := if w.full then cs else trimmed cs
    if -4 ≤ k ∧ k ≤ places then
      let places := (places - k).toNat
      ending (pointed w.full places (zeros (places + 1 - digits.length) ++ digits))
    else ending (pointed w.full places digits) ++ exponentMark k

end Admission.Decimal
