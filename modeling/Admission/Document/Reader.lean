import Admission.Decimal.Reader
import Admission.Document.Basic
import Admission.Text.Digit

/-!
# Reading documents

JSON text as it is found in files. Beside the standard's numbers, `NaN` and the infinities are
read. Of several members with one key the last value counts, in the place of the first. An
integer with more digits than are read is a fault of its own.

* `Document.read`: the document that a text writes.
* `Document.ReadFault`: why a text writes none.
-/

namespace Admission.Document

open Admission.Decimal

/-- Why a text is not a document. -/
inductive ReadFault where
  /-- The text is not JSON. -/
  | malformed
  /-- An integer has this many digits, more than are read. -/
  | tooManyDigits (count : Nat)
  deriving DecidableEq, Repr

/-- Drops white space. -/
def skipSpace (cs : List Point) : List Point :=
  cs.dropWhile fun c => c = ' ' || c = '\n' || c = '\t' || c = '\r'

/-- The value of a hexadecimal digit. -/
def hexValue? (c : Point) : Option Nat :=
  if '0' ≤ c ∧ c ≤ '9' then some (c.toNat - 48)
  else if 'a' ≤ c ∧ c ≤ 'f' then some (c.toNat - 87)
  else if 'A' ≤ c ∧ c ≤ 'F' then some (c.toNat - 55)
  else none

/-- The character that an escape of one letter stands for. -/
def escaped? (c : Point) : Option Point :=
  if c = '\x22' ∨ c = '\\' ∨ c = '/' then some c
  else if c = 'b' then some '\x08'
  else if c = 'f' then some '\x0C'
  else if c = 'n' then some '\n'
  else if c = 'r' then some '\r'
  else if c = 't' then some '\t'
  else none

/-- A part of a text as it is written. -/
inductive CodeUnit where
  /-- A code point that is written on its own, or by an escape of one letter. -/
  | point (p : Point)
  /-- A code of 16 bits, which may be that of half of a surrogate pair. -/
  | code (n : Nat)
  deriving DecidableEq, Repr

/-- The parts of a text up to its closing quote, and the rest. An escape of four hexadecimal
digits gives a code. -/
def readUnits : List Point → Option (List CodeUnit × List Point)
  | [] => none
  | '\\' :: 'u' :: a :: b :: c :: d :: rest => do
    let high := (← hexValue? a) * 16 + (← hexValue? b)
    let code := high * 256 + (← hexValue? c) * 16 + (← hexValue? d)
    let (units, rest) ← readUnits rest
    some (.code code :: units, rest)
  | '\\' :: c :: rest => do
    let p ← escaped? c
    let (units, rest) ← readUnits rest
    some (.point p :: units, rest)
  | c :: rest =>
    if c = '\x22' then some ([], rest)
    else if c = '\\' ∨ c.toNat < 0x20 then none
    else do
      let (units, rest) ← readUnits rest
      some (.point c :: units, rest)

/-- Code points from the parts of a text: the codes of both halves of a pair next to each other are
one scalar value. Other halves stay as they are. -/
def joinPairs : List CodeUnit → List Point
  | [] => []
  | .code high :: .code low :: rest =>
    if 0xD800 ≤ high ∧ high < 0xDC00 ∧ 0xDC00 ≤ low ∧ low < 0xE000 then
      .char (Char.ofNat (0x10000 + (high - 0xD800) * 0x400 + (low - 0xDC00))) :: joinPairs rest
    else Point.ofNat high :: joinPairs (.code low :: rest)
  | .code n :: rest => Point.ofNat n :: joinPairs rest
  | .point p :: rest => p :: joinPairs rest

/-- The text up to its closing quote, and the rest. -/
def readText (cs : List Point) : Except ReadFault (Text × List Point) :=
  match readUnits cs with
  | some (units, rest) => .ok (Text.ofList (joinPairs units), rest)
  | none => .error .malformed

/-- A fraction at the front: a point and at least one digit. -/
def fraction? : List Point → Option (List Point × List Point)
  | '.' :: cs =>
    let (ds, rest) := digitsOf cs
    if ds.isEmpty then none else some (ds, rest)
  | _ => none

/-- The number at the front, after its sign. It is a float if it has a fraction or an exponent. -/
def readNumber (negative : Bool) (cs : List Point) : Except ReadFault (Document × List Point) :=
  let (whole, cs) : List Point × List Point := match cs with
    | '0' :: cs => (['0'], cs)
    | cs => digitsOf cs
  if whole.isEmpty then .error .malformed
  else
    match fraction? cs, exponent? cs with
    | none, none =>
      if whole.length > Text.digitLimit then .error (.tooManyDigits whole.length)
      else .ok (.int (if negative then -(natOf whole : Int) else natOf whole), cs)
    | none, some (e, cs) => .ok (.float (Scientific.toFloat negative ⟨whole, [], e⟩), cs)
    | some (f, cs), _ =>
      match exponent? cs with
      | none => .ok (.float (Scientific.toFloat negative ⟨whole, f, 0⟩), cs)
      | some (e, cs) => .ok (.float (Scientific.toFloat negative ⟨whole, f, e⟩), cs)

/-- The words that stand for values. -/
def constants : List (List Point × Document) :=
  [(Text.toList "null", .null), (Text.toList "true", .bool true),
    (Text.toList "false", .bool false), (Text.toList "NaN", .float (0.0 / 0.0)),
    (Text.toList "Infinity", .float (1.0 / 0.0)), (Text.toList "-Infinity", .float (-1.0 / 0.0))]

/-- The word or number at the front. -/
def readPlain (cs : List Point) : Except ReadFault (Document × List Point) :=
  match constants.find? fun (word, _) => word.isPrefixOf cs with
  | some (word, d) => .ok (d, cs.drop word.length)
  | none =>
    match cs with
    | '-' :: cs => readNumber true cs
    | cs => readNumber false cs

/-- The rest after a character that must come next. -/
def expect (c : Point) : List Point → Except ReadFault (List Point)
  | [] => .error .malformed
  | d :: cs => if d = c then .ok cs else .error .malformed

mutual

/-- The value at the front. The first argument bounds how many values are read. -/
def readValue : Nat → List Point → Except ReadFault (Document × List Point)
  | 0, _ => .error .malformed
  | more + 1, cs =>
    match cs with
    | '\x22' :: cs => do
      let (s, rest) ← readText cs
      return (.text s, rest)
    | '[' :: cs =>
      match skipSpace cs with
      | ']' :: rest => .ok (.list [], rest)
      | cs => do
        let (x, rest) ← readValue more cs
        let (xs, rest) ← readItems more (skipSpace rest)
        return (.list (x :: xs), rest)
    | '{' :: cs =>
      match skipSpace cs with
      | '}' :: rest => .ok (.object [], rest)
      | cs => do
        let cs ← expect '\x22' cs
        let (ms, rest) ← readMember more [] cs
        return (.object ms, rest)
    | cs => readPlain cs

/-- The items of a list after one of them, up to the bracket that closes it. -/
def readItems : Nat → List Point → Except ReadFault (List Document × List Point)
  | 0, _ => .error .malformed
  | more + 1, cs =>
    match cs with
    | ']' :: rest => .ok ([], rest)
    | ',' :: cs => do
      let (x, rest) ← readValue more (skipSpace cs)
      let (xs, rest) ← readItems more (skipSpace rest)
      return (x :: xs, rest)
    | _ => .error .malformed

/-- The members of an object from a key on, whose quote is open, up to the brace that closes it;
`before` are the members in front. -/
def readMember : Nat → List (Text × Document) → List Point →
    Except ReadFault (List (Text × Document) × List Point)
  | 0, _, _ => .error .malformed
  | more + 1, before, cs => do
    let (k, cs) ← readText cs
    let cs ← expect ':' (skipSpace cs)
    let (v, cs) ← readValue more (skipSpace cs)
    let members := putMember k v before
    match skipSpace cs with
    | '}' :: rest => .ok (members, rest)
    | ',' :: cs => do
      let cs ← expect '\x22' (skipSpace cs)
      readMember more members cs
    | _ => .error .malformed

end

/-- **The document that a text writes**, with white space around it. -/
def read (text : Text) : Except ReadFault Document := do
  let cs := skipSpace text.toList
  let (d, rest) ← readValue (cs.length + 1) cs
  if skipSpace rest = [] then return d else throw .malformed

end Admission.Document
