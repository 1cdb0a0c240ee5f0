import Admission.Document.Basic
import Admission.Value.Display
import Admission.Value.Equality

/-!
# Data

What a rule is checked on: JSON, and beside it bytes, maps with keys of any kind, and things of
kinds that rules know nothing about.

* `Datum.ofDocument`: JSON as a datum.
* `Datum.sameKey`: whether two keys are one key.
* `Datum.keyText`: how a key is written in paths.
-/

namespace Admission

/-- A thing of a kind that rules know nothing about. -/
structure Foreign where
  /-- The name of its kind. -/
  kind : Text
  /-- The number that tells it from other things: things that count as equal have the same one. -/
  identity : Nat
  /-- How it is written on its own. -/
  written : Text
  /-- How it is written inside a longer text. -/
  shown : Text
  deriving DecidableEq, Repr

/-- A value given by the host of the rules. -/
inductive Datum where
  | null
  | bool (b : Bool)
  | int (n : Int)
  | float (x : Float)
  | text (s : Text)
  | bytes (octets : List UInt8)
  | list (items : List Datum)
  | map (entries : List (Datum × Datum))
  | foreign (thing : Foreign)
  deriving Inhabited

namespace Datum

mutual

/-- JSON as a datum. -/
def ofDocument : Document → Datum
  | .null => .null
  | .bool b => .bool b
  | .int n => .int n
  | .float x => .float x
  | .text s => .text s
  | .list items => .list (ofItems items)
  | .object members => .map (ofMembers members)

/-- The items of a list as data. -/
def ofItems : List Document → List Datum
  | [] => []
  | d :: ds => ofDocument d :: ofItems ds

/-- The members of an object as entries. -/
def ofMembers : List (Text × Document) → List (Datum × Datum)
  | [] => []
  | (k, d) :: ms => (.text k, ofDocument d) :: ofMembers ms

end

/-- The number in a datum that is one; booleans count as 0 and 1. -/
def number? : Datum → Option Number
  | .bool b => some (.whole (if b then 1 else 0))
  | .int n => some (.whole n)
  | .float x => some (.real x)
  | _ => none

mutual

/-- Whether two keys are one key: numbers of one value are, equal contents of one kind, and things
that count as equal. -/
def sameKey : Datum → Datum → Bool
  | .null, .null => true
  | .text s, .text t => s == t
  | .bytes a, .bytes b => a == b
  | .list xs, .list ys => sameKeys xs ys
  | .foreign a, .foreign b => a.identity == b.identity
  | a, b =>
    match a.number?, b.number? with
    | some m, some n => m.equals n
    | _, _ => false
termination_by structural a => a

/-- Whether two rows of keys are the same one by one. -/
def sameKeys : List Datum → List Datum → Bool
  | [], [] => true
  | x :: xs, y :: ys => sameKey x y && sameKeys xs ys
  | _, _ => false
termination_by structural xs => xs

end

/-- The value of a key. -/
def lookup (key : Datum) : List (Datum × Datum) → Option Datum
  | [] => none
  | (k, v) :: rest => if sameKey k key then some v else lookup key rest

/-- Entries with `key` bound to `value`: in the place of the key if it is there, else at the
end. -/
def putEntry (key value : Datum) : List (Datum × Datum) → List (Datum × Datum)
  | [] => [(key, value)]
  | (k, v) :: rest =>
    if sameKey k key then (k, value) :: rest else (k, v) :: putEntry key value rest

/-- The value of a key of a map. -/
def field? (d key : Datum) : Option Datum :=
  match d with
  | .map entries => lookup key entries
  | _ => none

/-- The item of a list. -/
def item? (d : Datum) (i : Nat) : Option Datum :=
  match d with
  | .list items => items[i]?
  | _ => none

mutual

/-- A datum as part of a longer text. -/
def shown : Datum → Text
  | .null => "None"
  | .bool b => if b then "True" else "False"
  | .int n => toString n
  | .float x => Value.doubleLayout.render x
  | .text s => Text.quoted s
  | .bytes bs => Text.quotedOctets bs
  | .list [x] => "(" ++ shown x ++ ",)"
  | .list xs => "(" ++ Text.intercalate ", " (shownAll xs) ++ ")"
  | .map _ => "\x7b\x7d"
  | .foreign thing => thing.shown

/-- Data as parts of a longer text. -/
def shownAll : List Datum → List Text
  | [] => []
  | d :: ds => shown d :: shownAll ds

end

/-- How a key is written in paths. -/
def keyText : Datum → Text
  | .text s => s
  | .foreign thing => thing.written
  | d => d.shown

end Datum

end Admission
