import Admission.Pattern.Basic

/-!
# Parts of written patterns

What the notations of patterns have in common: flags, numbers and escapes, and the items that
repetitions may follow.

* `Flags`: what a pattern turns on and off.
* `Item`: a pattern with what a repetition has to know about it.
-/

namespace Admission.Pattern

/-- The flags that a pattern may turn on. -/
structure Flags where
  ignoreCase : Bool := false
  /-- `^` and `$` hold at every line. -/
  lines : Bool := false
  /-- The point matches line breaks. -/
  breaks : Bool := false
  /-- White space and comments are passed over. -/
  spaced : Bool := false
  /-- Classes and letter case are those of ASCII. -/
  ascii : Bool := false

/-- Which letters count as the same. -/
def Flags.fold (f : Flags) : Fold :=
  if f.ignoreCase then if f.ascii then .ascii else .full else .exact

/-- How far named classes reach. -/
def Flags.reach (f : Flags) : Reach := if f.ascii then .ascii else .full

/-- What a repetition may follow. -/
inductive Item where
  | plain (p : Pattern)
  | anchor (a : Anchor)
  | repeated (p : Pattern)

/-- The pattern of an item. -/
def Item.pattern : Item → Pattern
  | .plain p => p
  | .anchor a => .anchor a
  | .repeated p => p

/-- The items of a sequence, the last one first, as one pattern. -/
def ofItems (items : List Item) : Pattern := ofList (items.reverse.map Item.pattern)

/-- Whether a character is a hexadecimal digit. -/
def isHex (c : Point) : Bool :=
  c.isDigit || ('a' ≤ c && c ≤ 'f') || ('A' ≤ c && c ≤ 'F')

/-- Whether a character is an octal digit. -/
def isOctal (c : Point) : Bool := '0' ≤ c && c ≤ '7'

/-- The number that digits write in a base up to 16. -/
def numberIn (base : Nat) (ds : List Point) : Nat :=
  ds.foldl (fun n c =>
    base * n + if c.isDigit then c.toNat - 48 else c.toLower.toNat - 87) 0

/-- The character that an escape of one letter stands for. -/
def control? (c : Point) : Option Point :=
  if c = 'a' then some '\x07'
  else if c = 'f' then some '\x0c'
  else if c = 'n' then some '\n'
  else if c = 'r' then some '\r'
  else if c = 't' then some '\t'
  else if c = 'v' then some '\x0b'
  else if c = '\\' then some '\\'
  else none

/-- A class with a name of one letter, a capital for its complement. -/
def shorthand? (reach : Reach) (c : Point) : Option SetItem :=
  let item (s : Shorthand) (negated : Bool) : SetItem := .named s reach negated
  if c = 'd' then some (item .digit false)
  else if c = 'D' then some (item .digit true)
  else if c = 's' then some (item .space false)
  else if c = 'S' then some (item .space true)
  else if c = 'w' then some (item .word false)
  else if c = 'W' then some (item .word true)
  else none

end Admission.Pattern
