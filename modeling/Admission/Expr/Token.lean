import Admission.Decimal.Reader
import Admission.Text.Digit
import Admission.Text.Octets
import Admission.Value.Basic

/-!
# Tokens of expressions

The smallest parts of an expression's text: blanks and comments, names, numbers and quoted texts.
Each reader takes a part from the front and leaves the rest.

* `skipBlanks`: what stands between tokens.
* `word?`, `number?`, `quotation?`: names, numbers, and texts and bytes between quotes.
-/

namespace Admission.Expr

open Text

/-- Drops white space and comments, inside a comment if the flag says so. A comment goes from
two slashes to the end of the line. -/
def skipBlanksIn : (comment : Bool) → List Point → List Point
  | _, [] => []
  | true, c :: cs => skipBlanksIn (c != '\n') cs
  | false, '/' :: '/' :: cs => skipBlanksIn true cs
  | false, c :: cs =>
    if c = ' ' ∨ c = '\t' ∨ c = '\n' ∨ c = '\r' ∨ c = '\x0c' then skipBlanksIn false cs
    else c :: cs

/-- Drops white space and comments. -/
def skipBlanks (cs : List Point) : List Point := skipBlanksIn false cs

/-- Whether a name may start with a character. -/
def isNameStart (c : Point) : Bool := c == '_' || c.isAlpha

/-- Whether a name may go on with a character. -/
def isNameChar (c : Point) : Bool := isNameStart c || c.isDigit

/-- The name at the front, and the rest. -/
def word? : List Point → Option (Text × List Point)
  | [] => none
  | c :: cs =>
    if isNameStart c then
      some (Text.ofList (c :: cs.takeWhile isNameChar), cs.dropWhile isNameChar)
    else none

/-! ### Numbers -/

/-- A number of a literal that fits its type, and an error else. -/
def fitting : Option Value → Value
  | some v => v
  | none => .error

/-- The exponent at the front, zero if there is none, and the rest. -/
def exponentOr (cs : List Point) : Int × List Point := (Decimal.exponent? cs).getD (0, cs)

/-- The float at the front: digits with a point among them or next to them, or with an
exponent. -/
def float? (negative : Bool) (cs : List Point) : Option (Value × List Point) :=
  let (whole, rest) := Decimal.digitsOf cs
  match rest with
  | '.' :: rest =>
    let (fraction, rest) := Decimal.digitsOf rest
    if whole.isEmpty && fraction.isEmpty then none
    else
      let (e, rest) := exponentOr rest
      some (.ofFloat .typed (Decimal.Scientific.toFloat negative ⟨whole, fraction, e⟩), rest)
  | rest =>
    if whole.isEmpty then none
    else
      (Decimal.exponent? rest).map fun (e, rest) =>
        (.ofFloat .typed (Decimal.Scientific.toFloat negative ⟨whole, [], e⟩), rest)

/-- Whether a character is a hexadecimal digit. -/
def isHex (c : Point) : Bool := c.isDigit || ('a' ≤ c && c ≤ 'f') || ('A' ≤ c && c ≤ 'F')

/-- The number that hexadecimal digits write. -/
def hexNumber (ds : List Point) : Nat :=
  ds.foldl (fun n d => n * 16 + if d.isDigit then d.toNat - 48 else (d.toLower.toNat - 87)) 0

/-- The digits of an integer at the front, as "is hexadecimal", its magnitude, and the rest. -/
def magnitude? (cs : List Point) : Option (Bool × Nat × List Point) :=
  let (ds, rest) := Decimal.digitsOf cs
  let decimal := if ds.isEmpty then none else some (false, Decimal.natOf ds, rest)
  match cs with
  | '0' :: 'x' :: hex =>
    let ds := hex.takeWhile isHex
    if ds.isEmpty then decimal else some (true, hexNumber ds, hex.dropWhile isHex)
  | _ => decimal

/-- The integer at the front, unsigned if a `u` stands behind it. A minus sign in front of an
unsigned integer is an error unless the integer is a decimal zero. -/
def integer? (negative : Bool) (cs : List Point) : Option (Value × List Point) := do
  let (hexadecimal, n, rest) ← magnitude? cs
  let unsigned : Value :=
    if negative ∧ (hexadecimal ∨ n ≠ 0) then .error else fitting (Value.uint? n)
  match rest with
  | 'u' :: rest | 'U' :: rest => some (unsigned, rest)
  | rest => some (fitting (Value.int? (if negative then -(n : Int) else n)), rest)

/-- The number at the front, with its sign. A number that does not fit its type is an error. -/
def number? : List Point → Option (Value × List Point)
  | '-' :: cs => (float? true cs).or (integer? true cs)
  | cs => (float? false cs).or (integer? false cs)

/-! ### Texts and bytes between quotes -/

/-- How many characters stand before a closing row of quotes, from the front and from the second
character on. A quote or backslash behind a backslash belongs to it, unless no row would close
then. -/
def bodyLengths (quote : Point) (close : List Point) (lines : Bool) :
    List Point → Option Nat × Option Nat
  | [] => (none, none)
  | c :: cs =>
    let (next, afterNext) := bodyLengths quote close lines cs
    let here :=
      if c = '\\' then
        let pair := if cs.head? = some quote ∨ cs.head? = some (.char '\\') then afterNext else none
        (pair.map (· + 2)).or (next.map (· + 1))
      else if close.isPrefixOf (c :: cs) then some 0
      else if c = '\n' && !lines then none
      else next.map (· + 1)
    (here, next)

/-- The characters up to a closing row of quotes, and the rest. -/
def quotedBody? (quote : Point) (close : List Point) (lines : Bool) (cs : List Point) :
    Option (List Point × List Point) :=
  (bodyLengths quote close lines cs).1.map fun n => (cs.take n, cs.drop (n + close.length))

/-- The characters between quotes at the front, and the rest: three quotes, between which lines
may end, or one. -/
def quoted? (cs : List Point) : Option (List Point × List Point) :=
  match cs with
  | q :: rest =>
    if q = '\x22' ∨ q = '\x27' then
      let long :=
        if [q, q].isPrefixOf rest then quotedBody? q [q, q, q] true (rest.drop 2) else none
      long.or (quotedBody? q [q] false rest)
    else none
  | [] => none

/-- A character or an escape between quotes. -/
inductive Piece where
  | char (c : Point)
  /-- An escape of up to four digits, or of a letter. -/
  | code (n : Nat)
  /-- An escape of eight digits. -/
  | longCode (n : Nat)
  /-- Three digits that are not all octal. -/
  | broken
  deriving DecidableEq, Repr

/-- The code of an escape of one letter. -/
def escapeCode? (c : Point) : Option Nat :=
  if c = 'a' then some 7
  else if c = 'b' then some 8
  else if c = 'f' then some 12
  else if c = 'n' then some 10
  else if c = 'r' then some 13
  else if c = 't' then some 9
  else if c = 'v' then some 11
  else if c = '\x22' ∨ c = '\x27' ∨ c = '\\' then some c.toNat
  else none

/-- The number of exactly `n` hexadecimal digits at the front. -/
def hexCode? (n : Nat) (cs : List Point) : Option Nat :=
  let ds := cs.take n
  if ds.length = n ∧ ds.all isHex then some (hexNumber ds) else none

/-- The piece of three octal digits at the front. -/
def octalPiece? (cs : List Point) : Option Piece := do
  let ds ← digitValues? (cs.take 3)
  if ds.length ≠ 3 then none
  else if ds.all (· < 8) then some (.code (ds.foldl (fun n d => n * 8 + d) 0))
  else some .broken

/-- The escape behind a backslash, and how many characters it takes. -/
def escape? : List Point → Option (Piece × Nat)
  | [] => none
  | c :: cs =>
    match escapeCode? c with
    | some n => some (.code n, 1)
    | none =>
      if c = 'x' then (hexCode? 2 cs).map fun n => (.code n, 3)
      else if c = 'u' then (hexCode? 4 cs).map fun n => (.code n, 5)
      else if c = 'U' then (hexCode? 8 cs).map fun n => (.longCode n, 9)
      else (octalPiece? (c :: cs)).map fun p => (p, 3)

/-- The pieces of a row of characters, of which the first `skip` belong to an escape. A backslash
in front of anything but an escape stands for itself, and ends of lines are dropped. -/
def pieces : (skip : Nat) → List Point → List Piece
  | _, [] => []
  | skip + 1, _ :: cs => pieces skip cs
  | 0, c :: cs =>
    if c = '\\' then
      match escape? cs with
      | some (p, n) => p :: pieces n cs
      | none => .char c :: pieces 0 cs
    else if c = '\n' then pieces 0 cs
    else .char c :: pieces 0 cs

/-- The code point of a code. -/
def pointOfCode? (n : Nat) : Option Point := if n < 0x110000 then some (Point.ofNat n) else none

/-- The code point of a piece in a text. -/
def Piece.point? : Piece → Option Point
  | .char c => some c
  | .code n | .longCode n => pointOfCode? n
  | .broken => none

/-- The octets of pieces in bytes: an error if a piece has none, and nothing (`none`) if the escape
of eight digits, which bytes do not have, comes before such a piece. -/
def octetsOf : List Piece → Option (Except Unit (List UInt8))
  | [] => some (.ok [])
  | .longCode _ :: _ => none
  | .broken :: _ => some (.error ())
  | .char c :: ps =>
    match encode? (Text.ofList [c]) with
    | some octets => (octetsOf ps).map fun rest => rest.map (octets ++ ·)
    | none => some (.error ())
  | .code n :: ps =>
    if n < 256 then (octetsOf ps).map fun rest => rest.map (UInt8.ofNat n :: ·)
    else some (.error ())

/-- The text between quotes. -/
def textLiteral (raw : Bool) (body : List Point) : Value :=
  if raw then .text .typed (Text.ofList body)
  else fitting (((pieces 0 body).mapM Piece.point?).map fun cs => .text .typed (Text.ofList cs))

/-- The bytes between quotes; `none` if they stop the evaluation. Characters of raw bytes stand for
the octets of their codes. -/
def bytesLiteral (raw : Bool) (body : List Point) : Option Value :=
  if raw then
    let octets := body.mapM fun c => if c.toNat < 256 then some (UInt8.ofNat c.toNat) else none
    some (fitting (octets.map (.bytes .typed)))
  else (octetsOf (pieces 0 body)).map fun octets => fitting (octets.toOption.map (.bytes .typed))

/-- A mark at the front, in either case: whether it is there, and the rest. -/
def mark (lower : Point) : List Point → Bool × List Point
  | c :: cs => if c = lower ∨ c.toLower = lower then (true, cs) else (false, c :: cs)
  | [] => (false, [])

/-- The text or bytes between quotes at the front, with the marks in front of them: `b` for bytes
and `r` for a body without escapes. There is no value if the bytes stop the evaluation. -/
def quotation? (cs : List Point) : Option (Option Value × List Point) := do
  let (bytes, cs) := mark 'b' cs
  let (raw, cs) := mark 'r' cs
  let (body, rest) ← quoted? cs
  some (if bytes then bytesLiteral raw body else some (textLiteral raw body), rest)

end Admission.Expr
