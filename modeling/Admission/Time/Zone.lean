import Admission.Time.Timestamp
import Admission.Time.ZoneTable

/-!
# Time zones

The offset from UTC that a zone has at a point in time. A zone is named by hours and minutes, as
`UTC`, or by the name of a place; the places follow the rules that are in force now.

* `ZoneRule.offsetAt`: the offset of a rule at a point in time.
* `Zone.offset?`: the offset of a named zone.
-/

namespace Admission.Time

/-- Seconds from the first moment of year 1 to midnight of the day of a change in a year. -/
def Change.midnight (c : Change) (year : Nat) : Int :=
  let first : Date := ⟨year, c.month, 1⟩
  let earliest := 1 + (c.weekday + 7 - first.weekday) % 7 + 7 * (c.week - 1)
  let day := if earliest > daysInMonth year c.month then earliest - 7 else earliest
  ((first.dayNumber + day - 1) * 86400 : Nat)

/-- The offset of a rule at a point in time, in seconds from the first moment of year 1 in UTC. -/
def ZoneRule.offsetAt (r : ZoneRule) (seconds : Int) : Int :=
  match r.daylight with
  | none => r.offset
  | some d =>
    let year := (Date.ofDayNumber ((seconds + r.offset) / 86400).toNat).year
    let begins := d.begins.midnight year + d.begins.clock - r.offset
    let ends := d.ends.midnight year + d.ends.clock - d.offset
    let inDaylight :=
      if begins < ends then decide (begins ≤ seconds) && decide (seconds < ends)
      else !(decide (ends ≤ seconds) && decide (seconds < begins))
    if inDaylight then d.offset else r.offset

namespace Zone

/-- The hours and minutes of a zone: one or two digits, a colon and two digits, and at most one
line break. -/
def clock? (cs : List Point) : Option (Nat × Nat) := do
  let (hours, cs) ← (match cs with
    | h :: ':' :: cs => (Timestamp.number? 1 [h]).map fun (n, _) => (n, ':' :: cs)
    | cs => Timestamp.number? 2 cs)
  let cs ← Timestamp.oneOf? [':'] cs
  let (minutes, rest) ← Timestamp.number? 2 cs
  if rest = [] ∨ rest = [.char '\n'] then some (hours, minutes) else none

/-- The offset in seconds that a sign, hours and minutes write; it is shorter than a day. -/
def written? (name : Text) : Option (Option Int) := do
  let (negative, cs) := match name.toList with
    | '-' :: cs => (true, cs)
    | '+' :: cs => (false, cs)
    | cs => (false, cs)
  let (hours, minutes) ← clock? cs
  let seconds : Int := (hours * 60 + minutes) * 60
  some (if seconds < 86400 then some (if negative then -seconds else seconds) else none)

/-- **The offset of a named zone** at a timestamp, in seconds. -/
def offset? (name : Text) (t : Timestamp) : Option Int :=
  match written? name with
  | some offset => offset
  | none =>
    match name with
    | .half _ _ _ => none
    | .plain s =>
      if s.map Char.toLower = "utc" then some 0
      else
        (ZoneRule.table.find? fun (_, names) => names.contains s).map fun (r, _) =>
          r.offsetAt (t.instant / 1000000)

end Zone

end Admission.Time
