import Admission.Value.Equality

/-!
# Order of values

Numbers, texts (by code point), bytes, timestamps (by instant) and durations are ordered, each
among their own. A typed signed integer on the left knows integers only. Other values have no
order; two bare lists have the order of their first items that are not equal.

* `Value.compare?`: how two values compare, if they do.
* `Value.Relation`: the four questions that an order answers.
-/

namespace Admission

/-- A question about the order of two values. -/
inductive Relation where
  | less | lessEq | greater | greaterEq
  deriving DecidableEq, Repr

/-- The answer of an ordering. Two numbers that do not compare answer every question with no. -/
def Relation.holds : Relation → Option Ordering → Bool
  | .less, some .lt => true
  | .lessEq, some .lt | .lessEq, some .eq => true
  | .greater, some .gt => true
  | .greaterEq, some .gt | .greaterEq, some .eq => true
  | _, _ => false

namespace Value

/-- How two values that are no lists compare; the outer `none` if they cannot be compared. -/
def leafCompare? (l r : Value) : Option (Option Ordering) :=
  match l, r with
  | .text _ a, .text _ b => some (some (compare a b))
  | .bytes _ a, .bytes _ b => some (some (compare a b))
  | .timestamp a, .timestamp b => some (some (compare a.instant b.instant))
  | .duration _ a, .duration _ b => some (some (compare a b))
  | .int .typed a, .int _ b => some (some (compare a b))
  | .int .typed _, _ => none
  | _, _ => do
    let m ← l.number?
    let n ← r.number?
    some (m.compare n)

mutual

/-- How two values compare; the outer `none` if they cannot be compared. -/
def compare? : Value → Value → Option (Option Ordering)
  | .list .bare xs, .list .bare ys => compareItems? xs ys
  | l, r => leafCompare? l r
termination_by structural l => l

/-- How two rows of items compare: as the first items that are neither the same nor equal,
else by length. -/
def compareItems? : List Value → List Value → Option (Option Ordering)
  | [], [] => some (some .eq)
  | [], _ :: _ => some (some .lt)
  | _ :: _, [] => some (some .gt)
  | x :: xs, y :: ys =>
    match if x.isSame y then some true else equals x y with
    | none => none
    | some true => compareItems? xs ys
    | some false => compare? x y
termination_by structural xs => xs

end

/-- **Whether a relation holds between two values,** if they can be compared. -/
def related? (q : Relation) (l r : Value) : Option Bool := (compare? l r).map q.holds

end Value

end Admission
