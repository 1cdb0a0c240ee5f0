import Admission.Decimal.Layout
import Admission.Document.Basic
import Admission.Text.Quoted

/-!
# Writing documents

JSON text without white space. Characters are written as themselves except the quote, the
backslash and the controls below U+0020.

* `Document.write`: the text of a document.
-/

namespace Admission.Document

open Admission.Text

/-- Floats are written with their shortest digits; an exponent has a sign and two digits. -/
def floatLayout : Decimal.Layout where
  infinity := "Infinity"
  notANumber := "NaN"

/-- A character of a text between quotes. -/
def writeChar (c : Point) : List Point :=
  if c = '\x22' then ['\\', '\x22']
  else if c = '\\' then ['\\', '\\']
  else if c = '\n' then ['\\', 'n']
  else if c = '\r' then ['\\', 'r']
  else if c = '\t' then ['\\', 't']
  else if c = '\x0c' then ['\\', 'f']
  else if c = '\x08' then ['\\', 'b']
  else if c.toNat < 0x20 then '\\' :: 'u' :: hexPadded 4 c.toNat
  else [c]

/-- A text between quotes. -/
def writeText (s : Text) : List Point :=
  .char '\x22' :: (s.toList.flatMap writeChar ++ [.char '\x22'])

/-- A natural number in decimal digits. -/
def writeNat (n : Nat) : List Point := (Nat.toDigits 10 n).map .char

/-- An integer in decimal digits. -/
def writeInt (n : Int) : List Point :=
  if n < 0 then '-' :: writeNat n.natAbs else writeNat n.natAbs

mutual

/-- The characters of a document. -/
def writeChars : Document → List Point
  | .null => ['n', 'u', 'l', 'l']
  | .bool true => ['t', 'r', 'u', 'e']
  | .bool false => ['f', 'a', 'l', 's', 'e']
  | .int n => writeInt n
  | .float x => (floatLayout.render x).toList.map .char
  | .text s => writeText s
  | .list [] => ['[', ']']
  | .list (x :: xs) => '[' :: (writeChars x ++ writeItems xs)
  | .object [] => ['{', '}']
  | .object ((k, v) :: ms) => '{' :: (writeText k ++ .char ':' :: (writeChars v ++ writeMembers ms))

/-- The items of a list after the first one, with the bracket that closes it. -/
def writeItems : List Document → List Point
  | [] => [']']
  | x :: xs => ',' :: (writeChars x ++ writeItems xs)

/-- The members of an object after the first one, with the brace that closes it. -/
def writeMembers : List (Text × Document) → List Point
  | [] => ['}']
  | (k, v) :: ms => ',' :: (writeText k ++ .char ':' :: (writeChars v ++ writeMembers ms))

end

/-- **The JSON text of a document.** -/
def write (d : Document) : Text := Text.ofList (writeChars d)

end Admission.Document
