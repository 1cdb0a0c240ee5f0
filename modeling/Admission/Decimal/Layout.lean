import Admission.Decimal.Shortest

/-!
# Writing a float

The text of a float is its shortest digits laid out by a format: positional between two decimal
exponents, with an exponent beyond them. What formats disagree on is one record, `Layout`.

* `Layout.render`: the text of a float in a layout.
-/

namespace Admission.Decimal

/-- What a float format decides for itself. -/
structure Layout where
  /-- The least exponent of the leading digit that is written positionally. -/
  positionalFrom : Int := -4
  /-- The least exponent of the leading digit that is written with an exponent again. -/
  positionalBelow : Int := 16
  /-- How many digits an exponent has at least. -/
  exponentWidth : Nat := 2
  infinity : String
  notANumber : String

/-- A row of zeros. -/
def zeros (n : Nat) : List Char := List.replicate n '0'

/-- Digits in positional form, with at least one digit on either side of the point. -/
def positional (digits : List Char) (exponent : Int) : List Char :=
  if exponent ≥ 0 then digits ++ zeros exponent.toNat ++ ['.', '0']
  else
    let places := (-exponent).toNat
    let padded := zeros (places + 1 - digits.length) ++ digits
    let whole := padded.length - places
    padded.take whole ++ '.' :: padded.drop whole

/-- Digits with one digit before the point and a signed exponent; no point stands alone. -/
def withExponent (width : Nat) (digits : List Char) (leading : Int) : List Char :=
  let point := match digits with
    | [] => []
    | [d] => [d]
    | d :: rest => d :: '.' :: rest
  let magnitude := Nat.toDigits 10 leading.natAbs
  point ++ ['e', if leading < 0 then '-' else '+'] ++ zeros (width - magnitude.length) ++ magnitude

/-- **The text of a float in a layout.** -/
def Layout.render (l : Layout) (x : Float) : String :=
  match parts? x with
  | none => if x.isNaN then l.notANumber else if x < 0 then "-" ++ l.infinity else l.infinity
  | some p =>
    let d := if p.mantissa = 0 then ⟨0, 0⟩ else shortest p
    let digits := Nat.toDigits 10 d.coefficient
    let leading := d.exponent + digits.length - 1
    let body := if l.positionalFrom ≤ leading ∧ leading < l.positionalBelow
      then positional digits d.exponent
      else withExponent l.exponentWidth digits leading
    String.ofList (if p.negative then '-' :: body else body)

end Admission.Decimal
