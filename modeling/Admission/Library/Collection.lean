import Admission.Library.Fault

/-!
# Functions of lists

The order, sum, extremes and stretches of a list. They also take texts, rows of bytes and maps
wherever each step is defined on them.

* `isSorted`, `least`, `greatest`: by the order of values.
* `sum`: of values of one kind.
* `slice`: the items of a stretch.
-/

namespace Admission.Library

/-- Whether no item is greater than the next one. The items are compared from the front, up to
the first pair that is out of order. -/
def sorted : List Value → Except Fault Bool
  | x :: y :: rest => do
    if ← orBadCall (Value.related? .lessEq x y) then sorted (y :: rest) else return false
  | _ => .ok true

/-- Whether the items of a list ascend. -/
def isSorted (items : Value) : Except Fault Value := do
  match items with
  | .map _ es => if es.length ≤ 1 then return .ofBool true else throw .badCall
  | items => return .ofBool (← sorted (← elementsOf items))

/-- The fault of a sum. -/
def Fault.ofArithmetic : Value.Fault → Fault
  | .outOfRange => .badContents
  | .overflow => .overflow
  | _ => .badCall

/-- The sum of a total and the items behind it. Each item has to be of the kind that the total
has by then. -/
def sumFrom (total : Value) : List Value → Except Fault Value
  | [] => .ok total
  | x :: xs =>
    if x.kindOf ≠ total.kindOf then .error (.mixed x.kindOf)
    else
      match total.add x with
      | .ok total => sumFrom total xs
      | .error e => .error (.ofArithmetic e)

/-- The sum of the items of a list, zero if there are none. -/
def sum (items : Value) : Except Fault Value := do
  if !items.isTrue then return .int .typed 0
  else
    match items with
    | .map _ _ => throw .badCall
    | items =>
      match ← elementsOf items with
      | [] => return .int .typed 0
      | x :: xs => sumFrom x xs

/-- The first of the items that stands in a relation to all those before it and to which no
later one stands in that relation. -/
def extreme (q : Relation) (best : Value) : List Value → Except Fault Value
  | [] => .ok best
  | x :: xs => do
    if ← orBadCall (Value.related? q x best) then extreme q x xs else extreme q best xs

/-- The extreme item of a list that is not empty. -/
def extremeOf (e : Extension) (q : Relation) (items : Value) : Except Fault Value := do
  if !items.isTrue then throw (.empty e)
  else
    match ← elementsOf items with
    | [] => throw (.empty e)
    | x :: xs => extreme q x xs

/-- The least item of a list. -/
def least (items : Value) : Except Fault Value := extremeOf .min .less items

/-- The greatest item of a list. -/
def greatest (items : Value) : Except Fault Value := extremeOf .max .greater items

/-- The items from `start` up to `stop`. -/
def slice (items start stop : Value) : Except Fault Value := do
  let s ← requireInt ⟨.slice, .start⟩ start
  let e ← requireInt ⟨.slice, .stop⟩ stop
  if s < 0 then throw (.outsideRange .slice s e)
  else if e > (← lengthOf items) ∨ s > e then throw (.outsideRange .slice s e)
  else
    let part ← orBadCall (items.stretch? s.toNat e.toNat)
    return .list .typed (← elementsOf part)

end Admission.Library
