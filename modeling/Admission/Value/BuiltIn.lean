import Admission.Pattern.RegularGrammar
import Admission.Time.Part
import Admission.Time.Zone
import Admission.Value.Access
import Admission.Value.Arithmetic

/-!
# Built-in functions

The functions that every expression may call: size, parts of texts, patterns that are matched in
linear time, and the accessors of timestamps and durations.

* `BuiltIn.apply`: the result of a call.
-/

namespace Admission

open Time

namespace Value

/-- A part of a timestamp in an offset. A timestamp that leaves the calendar on the way to the
offset has no parts. -/
def partIn (t : Timestamp) (offset : Int) (p : Part) : Except Fault Value :=
  match Timestamp.ofInstant? t.instant offset with
  | some t => .ok (.int .typed (t.part p))
  | none => .error .overflow

/-- The offset of the zone that a value names; what does not count as true names UTC. -/
def zoneOf (zone : Value) (t : Timestamp) : Except Fault Int :=
  if !zone.isTrue then .ok 0
  else
    match zone with
    | .text _ name => (Zone.offset? name t).elim (.error .outOfRange) .ok
    | _ => .error .outOfRange

/-- A part of a timestamp in the zone of the second argument, or the total of a typed duration in a
unit, which has no zone. -/
def partOf (p : Part) : Value → Value → Except Fault Value
  | .timestamp t, zone => do partIn t (← zoneOf zone t) p
  | .duration .typed d, zone =>
    match Duration.total? d p, zone with
    | none, _ => .error .noPart
    | some n, .null => signed n
    | some _, _ => .error .noZone
  | _, _ => .error .noPart

/-- The text in a value as UTF-8 has it, where bytes are read. Octets that are none are replaced;
a text with half of a surrogate pair has no octets. -/
def readText? : Value → Option Text
  | .text _ (.plain s) => some s
  | .text _ (.half _ _ _) => none
  | .bytes _ bs =>
    some ((Text.decode? bs).getD (Text.ofList (bs.map fun b =>
      if b < 128 then Point.ofNat b.toNat else '\uFFFD')))
  | _ => none

/-- Whether a pattern matches somewhere in a text. -/
def matchesPattern (text pattern : Value) : Except Fault Bool := do
  let s ← orMismatch text.readText?
  let p ← orMismatch pattern.readText?
  orMismatch (Pattern.matches? p s)

end Value

open Value in
/-- **The result of a call** of a built-in function. -/
def BuiltIn.apply : BuiltIn → List Value → Except Fault Value
  | .size, [v] => do return .int .typed (← orMismatch v.size?)
  | .contains, [v, item] => do return ofBool (← orMismatch (Value.contains v item))
  | .startsWith, [v, w] => do return ofBool (← orMismatch (Value.startsWith v w))
  | .endsWith, [v, w] => do return ofBool (← orMismatch (Value.endsWith v w))
  | .matches, [v, w] => do return ofBool (← matchesPattern v w)
  | .part p, [v] => partOf p v .null
  | .part p, [v, zone] => partOf p v zone
  | _, _ => .error .mismatch

end Admission
