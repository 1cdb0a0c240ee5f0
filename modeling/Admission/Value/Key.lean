import Admission.Decimal.Binary64
import Admission.Value.Basic

/-!
# Keys of maps

Each key has a slot, and a map compares a key that is asked for with the stored keys of its slot
only. Numbers share a slot when they are equal modulo the prime 2 ^ 61 - 1, so equal numbers do,
whatever their types.

* `Number.slot?`: the slot of a number.
* `Value.meets`: whether a stored key is compared with another key at all.
* `Value.isSame`: whether two values are one and the same, though they do not equal themselves.
-/

namespace Admission

/-- The number of slots, a prime. Two to the power 61 is one more. -/
def slotCount : Nat := 2305843009213693951

/-- The slot of `± magnitude`; that of minus one is taken by minus two. -/
def slotOf (negative : Bool) (magnitude : Nat) : Int :=
  let n : Int := (magnitude % slotCount : Nat)
  let slot := if negative then -n else n
  if slot = -1 then -2 else slot

/-- The slot of a number. The infinities have slots of their own, and a float that is not a number
has none. -/
def Number.slot? : Number → Option Int
  | .whole n => some (slotOf (n < 0) n.natAbs)
  | .real x =>
    match Decimal.parts? x with
    | some p =>
      -- dividing by two is multiplying by two sixty times
      let doublings := (p.exponent % 61).toNat
      some (slotOf p.negative (p.mantissa * Nat.pow 2 doublings))
    | none => if x.isNaN then none else some (if x < 0 then -314159 else 314159)

namespace Value

/-- Whether two values are one and the same float that is not a number. -/
def isSame : Value → Value → Bool
  | .double _ x s, .double _ y t => x.isNaN && y.isNaN && !s.isEmpty && s == t
  | _, _ => false

/-- Whether a value can be a key of a map. -/
def isHashable : Value → Bool
  | .list _ _ | .map _ _ | .scope _ | .error => false
  | _ => true

/-- Whether a value can be asked for as a key of a map. -/
def isKey : Value → Bool
  | .bool _ | .int .typed _ | .uint _ | .text _ _ => true
  | _ => false

/-- Whether a key is the empty text or row of bytes, which have the slot of zero. -/
def isEmptyText : Value → Bool
  | .text _ s => s.isEmpty
  | .bytes _ bs => bs.isEmpty
  | _ => false

/-- Whether a stored key is compared with another key at all: numbers of one slot are, and so are
keys that are no numbers. -/
def meets (stored key : Value) : Bool :=
  match stored.number?, key.number? with
  | some m, some n => m.slot?.isSome && m.slot? == n.slot?
  | some m, none => key.isEmptyText && m.slot? == some 0
  | none, some n => stored.isEmptyText && n.slot? == some 0
  | none, none => true

end Value

end Admission
