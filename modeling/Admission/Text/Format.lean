import Admission.Text.Basic

/-!
# Formats

A format is a text with places for values, each marked by a percent sign: `%s`, `%-5d`, `%.2f`,
`%(name)s`. Behind the sign stand an optional key in parentheses, flags, a least width, a precision
behind a point, a size mark that means nothing, and a letter that says how the value is written.

* `Format.pieces`: the parts of a format.
* `Format.Spot.lay`: a written value laid out in its place.
-/

namespace Admission.Text.Format

/-- A place for a value. -/
structure Spot where
  /-- The key under which the value is looked up. -/
  key : Option (List Point) := none
  /-- The value stands at the left of its width. -/
  left : Bool := false
  /-- A number that is not negative has a plus sign. -/
  plus : Bool := false
  /-- A number that is not negative has a blank in the place of the sign. -/
  blank : Bool := false
  /-- The alternate form: the mark of a base, or a point in any case. -/
  alternate : Bool := false
  /-- A number is filled up with zeros. -/
  zero : Bool := false
  width : Nat := 0
  precision : Option Nat := none
  /-- How the value is written; `none` if the format is not well formed. -/
  letter : Option Point := none
  deriving DecidableEq, Repr

/-- A part of a format. -/
inductive Piece where
  | char (c : Point)
  | spot (s : Spot)
  deriving DecidableEq, Repr

/-- The key behind an opening parenthesis, in which parentheses come in pairs, and the rest. -/
def key? : (depth : Nat) → List Point → Option (List Point × List Point)
  | _, [] => none
  | depth, c :: cs =>
    if c = ')' then
      match depth with
      | 0 => some ([], cs)
      | depth + 1 => (key? depth cs).map fun (k, rest) => (c :: k, rest)
    else (key? (if c = '(' then depth + 1 else depth) cs).map fun (k, rest) => (c :: k, rest)

/-- A flag turned on. -/
def Spot.flag? (s : Spot) (c : Point) : Option Spot :=
  if c = '-' then some { s with left := true }
  else if c = '+' then some { s with plus := true }
  else if c = ' ' then some { s with blank := true }
  else if c = '#' then some { s with alternate := true }
  else if c = '0' then some { s with zero := true }
  else none

/-- The flags at the front, and the rest. -/
def Spot.flags (s : Spot) : List Point → Spot × List Point
  | [] => (s, [])
  | c :: cs =>
    match s.flag? c with
    | some s => s.flags cs
    | none => (s, c :: cs)

/-- The number at the front, zero if there is none, and the rest. -/
def count (cs : List Point) : Nat × List Point :=
  ((cs.takeWhile Point.isDigit).foldl (fun n c => 10 * n + (c.toNat - 48)) 0,
    cs.dropWhile Point.isDigit)

/-- The greatest width or precision. -/
def greatestCount : Nat := 2147483647

/-- The precision at the front, and the rest. -/
def precision? : List Point → Option Nat × List Point
  | '.' :: cs =>
    let (n, rest) := count cs
    (some n, rest)
  | cs => (none, cs)

/-- The rest behind a size mark. -/
def withoutSize : List Point → List Point
  | c :: cs => if c = 'h' ∨ c = 'l' ∨ c = 'L' then cs else c :: cs
  | [] => []

/-- The place behind a percent sign and a key, and the rest. Numbers that would come from other
values (`*`) are not taken. -/
def spot (key : Option (List Point)) (cs : List Point) : Spot × List Point :=
  let (s, cs) := Spot.flags { key := key } cs
  let (width, cs) := count cs
  let (precision, cs) := precision? cs
  match withoutSize cs with
  | [] => (s, [])
  | c :: rest =>
    if width > greatestCount ∨ precision.getD 0 > greatestCount ∨ c = '*' then (s, rest)
    else ({ s with width := width, precision := precision, letter := some c }, rest)

/-- The place behind a percent sign, and the rest. -/
def keyedSpot : List Point → Spot × List Point
  | '(' :: cs =>
    match key? 0 cs with
    | some (k, rest) => spot (some k) rest
    | none => ({}, [])
  | cs => spot none cs

/-- The parts of a format. Two percent signs are the sign itself, and a place that is not well
formed ends the format. The first argument bounds the number of parts. -/
def piecesFrom : Nat → List Point → List Piece
  | 0, _ | _, [] => []
  | more + 1, '%' :: '%' :: cs => .char '%' :: piecesFrom more cs
  | more + 1, '%' :: cs =>
    let (s, rest) := keyedSpot cs
    if s.letter.isNone then [.spot s] else .spot s :: piecesFrom more rest
  | more + 1, c :: cs => .char c :: piecesFrom more cs

/-- **The parts of a format.** -/
def pieces (cs : List Point) : List Piece := piecesFrom cs.length cs

/-- A row of one character. -/
def fill (c : Point) (n : Nat) : List Point := List.replicate n c

/-- A written text in its place: cut to the precision and filled up with blanks. -/
def Spot.layText (s : Spot) (cs : List Point) : List Point :=
  let cs := match s.precision with
    | some n => cs.take n
    | none => cs
  let blanks := fill ' ' (s.width - cs.length)
  if s.left then cs ++ blanks else blanks ++ cs

/-- A written character in its place. -/
def Spot.layChar (s : Spot) (c : Point) : List Point := { s with precision := none }.layText [c]

/-- A written number in its place: its sign, the mark of its base, and its digits. Zeros go
between the mark and the digits. -/
def Spot.layNumber (s : Spot) (negative : Bool) (mark digits : List Point) : List Point :=
  let sign : List Point :=
    if negative then ['-'] else if s.plus then ['+'] else if s.blank then [' '] else []
  let n := s.width - (sign.length + mark.length + digits.length)
  if s.left then sign ++ mark ++ digits ++ fill ' ' n
  else if s.zero then sign ++ mark ++ fill '0' n ++ digits
  else fill ' ' n ++ sign ++ mark ++ digits

end Admission.Text.Format
