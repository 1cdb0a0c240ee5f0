import Admission.Library.Fault
import Admission.Pattern.Grammar
import Admission.Pattern.Matcher
import Admission.Text.Search

/-!
# Searching

Matches of patterns, places of parts, and the reverse order. The functions of places know typed
texts and typed lists only.

* `find`, `findAll`: what a pattern matches.
* `indexOf`, `lastIndexOf`: where a part first and last occurs.
* `reverse`: characters or items from the last to the first.
-/

namespace Admission.Library

open Text

/-- The characters of a text, or the octets of a row of bytes as the characters of their codes. -/
def mediumOf : Value → Except Fault (Pattern.Medium × List Point)
  | .text _ s => .ok (.text, s.toList)
  | .bytes _ bs => .ok (.octets, Value.charsOfOctets bs)
  | _ => .error .badCall

/-- Why an argument is no pattern. -/
def Fault.ofPattern : Pattern.Fault → Fault
  | .malformed => .badPattern
  | .tooManyRounds => .overflow
  | .longNumber | .flagClash | .badName => .badContents

/-- The pattern that an argument writes, and what it is for. -/
def patternOf (v : Value) : Except Fault (Pattern.Medium × Pattern) := do
  let (medium, cs) ← mediumOf v
  match Pattern.read medium cs with
  | .ok p => return (medium, p)
  | .error e => throw (.ofPattern e)

/-- What a pattern for a medium is matched against. -/
def subjectOf (medium : Pattern.Medium) (v : Value) : Except Fault (List Point) := do
  let (found, cs) ← mediumOf v
  if found = medium then return cs else throw .badCall

/-- The text of what a pattern has matched. Octets are read as UTF-8. -/
def textOfMatch (medium : Pattern.Medium) (cs : List Point) : Except Fault Value :=
  match medium with
  | .text => .ok (.ofString (Text.ofList cs))
  | .octets => textOf (.bytes .bare (cs.map fun c => UInt8.ofNat c.toNat))

/-- The first stretch of a text or row of bytes that a pattern of its kind matches; the empty text
if there is none. -/
def find (receiver pattern : Value) : Except Fault Value := do
  let (medium, p) ← patternOf pattern
  textOfMatch medium ((p.find? (← subjectOf medium receiver)).getD [])

/-- The stretches of a text or row of bytes that a pattern of its kind matches, the first ones if
the limit is not negative. -/
def findAll (receiver pattern limit : Value) : Except Fault Value := do
  let n ← requireInt ⟨.findAll, .limit⟩ limit
  let (medium, p) ← patternOf pattern
  let found := p.allMatches (← subjectOf medium receiver)
  let wanted := if n < 0 then found else found.take n.toNat
  return .list .typed (← wanted.mapM (textOfMatch medium))

/-- A place that was found, -1 if there was none. -/
def place (i : Option Nat) : Value := .int .typed ((i.map Int.ofNat).getD (-1))

/-- An offset inside a text of a length. -/
def offsetIn (e : Extension) (length : Nat) (offset : Value) : Except Fault Nat := do
  let p : Parameter := ⟨e, .offset⟩
  let i ← requireInt p offset
  if i < 0 ∨ i > length then throw (.outside p i) else return i.toNat

/-- The place of the first item that equals `needle`. Comparing stops there. -/
def firstEqual (needle : Value) (start : Nat) : List Value → Except Fault (Option Nat)
  | [] => .ok none
  | x :: xs => do
    if ← orBadCall (x.equals needle) then return some start else firstEqual needle (start + 1) xs

/-- The place of the first occurrence of a text in a text, not before an offset, or of the first
item of a list that equals `needle`. -/
def indexOf (receiver needle offset : Value) : Except Fault Value := do
  match receiver with
  | .text .typed s =>
    let start ← offsetIn .indexOf s.length offset
    let x ← contentsOf needle
    return place ((firstIndex? x.toList (s.toList.drop start)).map (· + start))
  | .list .typed xs => return place (← firstEqual needle 0 xs)
  | v => throw (.unsupported .indexOf v.kindOf)

/-- The place of the last occurrence of a text in a text, not after an offset if there is one,
or of the last item of a list that equals `needle`. -/
def lastIndexOf (receiver needle offset : Value) : Except Fault Value := do
  match receiver with
  | .text .typed s =>
    match offset with
    | .null => return place (lastIndex? (← contentsOf needle).toList s.toList)
    | offset =>
      let stop ← offsetIn .lastIndexOf s.length offset
      let x := (← contentsOf needle).toList
      return place (lastIndex? x (s.toList.take (stop + x.length)))
  | .list .typed xs =>
    let fromEnd ← firstEqual needle 0 xs.reverse
    return place (fromEnd.map (xs.length - 1 - ·))
  | v => throw (.unsupported .lastIndexOf v.kindOf)

/-- A text or list from its end to its front. -/
def reverse : Value → Except Fault Value
  | .text .typed s => .ok (.ofString (Text.ofList s.toList.reverse))
  | .list .typed xs => .ok (.list .typed xs.reverse)
  | v => .error (.unsupported .reverse v.kindOf)

end Admission.Library
