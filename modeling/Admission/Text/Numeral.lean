import Admission.Decimal.Reader
import Admission.Text.Blank
import Admission.Text.Digit

/-!
# Numerals

Numbers as people write them in texts: blanks around them are passed over, a sign may stand in
front, digits may be of any script and single underscores may stand between them.

* `readInt?`: an integer in base 10 or 16.
* `readFloat?`: a decimal number, an infinity or not-a-number.
-/

namespace Admission.Text

/-- Whether a character is passed over around a number: all blanks are but the information
separators. -/
def isMargin (c : Point) : Bool := isBlank c && !(0x1C ≤ c.toNat && c.toNat ≤ 0x1F)

/-- A text without the blanks around it. -/
def stripped (cs : List Point) : List Point := trim isMargin cs

/-- A sign at the front, as "is negative", and the rest. -/
def takeSign : List Point → Bool × List Point
  | '-' :: cs => (true, cs)
  | '+' :: cs => (false, cs)
  | cs => (false, cs)

/-- The value of a digit in a base up to 16: a decimal digit of any script or a Latin letter. -/
def digitIn? (base : Nat) (c : Point) : Option Nat :=
  let value? :=
    if 'a' ≤ c ∧ c ≤ 'z' then some (c.toNat - 87)
    else if 'A' ≤ c ∧ c ≤ 'Z' then some (c.toNat - 55)
    else decimalDigit? c
  value?.filter (· < base)

/-- A row of digits with single underscores between them: at least one digit, and none but
digits at both ends. -/
def grouped? (base : Nat) : List Point → Option (List Nat)
  | [] => none
  | [c] => (digitIn? base c).map ([·])
  | c :: '_' :: cs => do return (← digitIn? base c) :: (← grouped? base cs)
  | c :: cs => do return (← digitIn? base c) :: (← grouped? base cs)

/-- The mark in front of hexadecimal digits is passed over, with an underscore behind it. -/
def withoutMark : List Point → List Point
  | '0' :: x :: cs =>
    if x = 'x' ∨ x = 'X' then
      match cs with
      | '_' :: cs => cs
      | cs => cs
    else '0' :: x :: cs
  | cs => cs

/-- The integer that a text writes in a base (10 or 16). -/
def readInt? (base : Nat) (cs : List Point) : Option Int := do
  let (negative, cs) := takeSign (stripped cs)
  let ds ← grouped? base (if base = 16 then withoutMark cs else cs)
  if base = 10 ∧ ds.length > digitLimit then none
  else
    let n := ds.foldl (fun n d => base * n + d) 0
    some (if negative then -(n : Int) else n)

/-- Every decimal digit as an ASCII digit. -/
def plainDigits (cs : List Point) : List Point :=
  cs.map fun c =>
    match decimalDigit? c with
    | some d => Point.ofNat (48 + d)
    | none => c

/-- A row of characters without the underscores between its digits; `none` if an underscore
stands elsewhere. -/
def withoutUnderscores? : List Point → Option (List Point)
  | [] => some []
  | '_' :: _ => none
  | c :: '_' :: d :: cs =>
    if c.isDigit && d.isDigit then (withoutUnderscores? (d :: cs)).map (c :: ·) else none
  | c :: cs => (withoutUnderscores? cs).map (c :: ·)

/-- The words for infinity and for not-a-number, in lower case. -/
def specials : List (Text × Float) :=
  [("inf", 1.0 / 0.0), ("infinity", 1.0 / 0.0), ("nan", 0.0 / 0.0)]

/-- The digits after a point, and the rest. -/
def afterPoint : List Point → List Point × List Point
  | '.' :: cs => Decimal.digitsOf cs
  | cs => ([], cs)

/-- The number that a text writes in decimal notation. -/
def readFloat? (cs : List Point) : Option Float := do
  let cs ← withoutUnderscores? (plainDigits (stripped cs))
  let (negative, cs) := takeSign cs
  match specials.lookup (Text.ofList (cs.map Point.toLower)) with
  | some x => some (if negative then -x else x)
  | none => do
    let (whole, rest) := Decimal.digitsOf cs
    let (fraction, rest) := afterPoint rest
    if whole.isEmpty && fraction.isEmpty then none
    else if rest.isEmpty then some (Decimal.Scientific.toFloat negative ⟨whole, fraction, 0⟩)
    else do
      let (e, rest) ← Decimal.exponent? rest
      if rest.isEmpty then some (Decimal.Scientific.toFloat negative ⟨whole, fraction, e⟩) else none

end Admission.Text
