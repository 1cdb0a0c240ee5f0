import Admission.Value.Key

/-!
# Equality of values

Some values cannot be compared: a typed number with anything but its own kind, a list or a map
with anything but its like. Comparing them has no answer (`none`). Inside lists and maps a part
without an answer is passed over if another part decides the question; two of them leave it open.

* `Value.equals`, `Value.differs`: `==` and `!=`, which are not always opposites.
* `Value.lookup`: the value of a key of a map.
-/

namespace Admission

/-- How two numbers compare; a float that is not a number compares with none. -/
def Number.compare : Number → Number → Option Ordering
  | .whole a, .whole b => some (Ord.compare a b)
  | .whole a, .real y => (Decimal.compareInt y a).map Ordering.swap
  | .real x, .whole b => Decimal.compareInt x b
  | .real x, .real y =>
    if x < y then some .lt else if y < x then some .gt else if x == y then some .eq else none

/-- Whether two numbers are equal. -/
def Number.equals (a b : Number) : Bool := a.compare b == some .eq

/-- One more answer to a question that a single `decisive` answer settles. The answer so far and
the next one may be missing (`none`); when both are, the question is given up (the outer
`none`). -/
def settle (decisive : Bool) : Option Bool → Option Bool → Option (Option Bool)
  | none, none => none
  | some a, none => some (if a = decisive then some a else none)
  | none, some b => some (if b = decisive then some b else none)
  | some a, some b => some (some (if a = decisive then a else b))

namespace Value

/-- Whether a value is a number that compares with its own kind only. -/
def isTypedNumber : Value → Bool
  | .int .typed _ => true
  | .uint _ => true
  | .double .typed _ _ => true
  | _ => false

/-- Equality of two values that are neither numbers, lists nor maps. -/
def contentEquals : Value → Value → Bool
  | .null, .null => true
  | .text _ a, .text _ b => a == b
  | .bytes _ a, .bytes _ b => a == b
  | .timestamp a, .timestamp b => a.instant == b.instant
  | .duration _ a, .duration _ b => a == b
  | .kind a, .kind b => a == b
  | .function a, .function b => a == b
  | .scope a, .scope b => a == b
  | .error, .error => true
  | _, _ => false

/-- Equality of two values that are not both lists and not both maps. -/
def leafEquals (l r : Value) : Option Bool :=
  match l, r with
  -- a typed number knows its own kind and the bare numbers of its contents
  | .int .typed a, .int _ b => some (a == b)
  | .int .typed _, _ => none
  | .uint a, .uint b => some (a == b)
  | .uint a, .int .bare b => some ((a : Int) == b)
  | .uint _, _ => none
  | .double .typed x _, .double _ y _ => some (x == y)
  | .double .typed _ _, _ => none
  -- lists and maps differ from null and compare with nothing else
  | .list .typed _, .null | .map _ _, .null | .null, .list _ _ | .null, .map _ _ => some false
  | .list .typed _, _ | .map _ _, _ | _, .list .typed _ | _, .map _ _ => none
  -- booleans and bare numbers compare with every number but a typed double
  | .double .bare x _, _ => some ((r.number?.map fun n => Number.equals (.real x) n).getD false)
  | _, .double .typed _ _ => none
  | .bool _, _ | .truth _, _ | .int .bare _, _ =>
    some (((l.number?.bind fun m => r.number?.map fun n => m.equals n)).getD false)
  | _, _ => if r.isTypedNumber then none else some (contentEquals l r)

/-- `!=` of two values that are not both lists and not both maps. To null a list or a map cannot
be said to differ. -/
def leafDiffers (l r : Value) : Option Bool :=
  match l, r with
  | .list .typed _, .null | .map _ _, .null | .null, .list .typed _ | .null, .map _ _ => none
  | _, _ => (leafEquals l r).map (!·)

/-- The value of a key; the outer `none` if the key meets a stored key that it cannot be
compared with. -/
def lookup (key : Value) : List (Value × Value) → Option (Option Value)
  | [] => some none
  | (k, v) :: rest =>
    if k.isSame key then some (some v)
    else if meets k key then
      match leafEquals k key with
      | none => none
      | some true => some (some v)
      | some false => lookup key rest
    else lookup key rest

/-- Whether every key of `keys` is a key of `entries`. -/
def hasKeys (entries : List (Value × Value)) : List Value → Option Bool
  | [] => some true
  | k :: ks =>
    match lookup k entries with
    | none => none
    | some none => some false
    | some (some _) => hasKeys entries ks

/-- Whether two maps have the same keys. -/
def sameKeys (es fs : List (Value × Value)) : Option Bool :=
  if es.length = fs.length then hasKeys fs (es.map Prod.fst) else some false

/-- The value of a key that can be asked for. -/
def get? (key : Value) (entries : List (Value × Value)) : Option Value :=
  if key.isKey then (lookup key entries).join else none

mutual

/-- Whether `a == b`, or `b == a` when the sides are swapped. -/
def equalsIn (swapped : Bool) : Value → Value → Option Bool
  | .list o xs, .list o' ys =>
    if xs.length ≠ ys.length then some false
    else
      match if swapped then (o', o) else (o, o') with
      | (.bare, .bare) => firstItemsEqual swapped xs ys
      -- the typed side asks the questions
      | (.bare, .typed) => itemsEqual (!swapped) (some true) xs ys
      | (.typed, _) => itemsEqual swapped (some true) xs ys
  | .map _ es, .map _ fs =>
    match sameKeys es fs with
    | some true => entriesEqual swapped (some true) fs es
    | answer => answer
  | a, b => if swapped then leafEquals b a else leafEquals a b
termination_by structural a => a

/-- Whether items are the same or equal one by one, up to the first that are not or cannot be
compared. -/
def firstItemsEqual (swapped : Bool) : List Value → List Value → Option Bool
  | x :: xs, y :: ys =>
    match if x.isSame y then some true else equalsIn swapped x y with
    | some true => firstItemsEqual swapped xs ys
    | answer => answer
  | _, _ => some true
termination_by structural xs => xs

/-- Whether all items are equal one by one. -/
def itemsEqual (swapped : Bool) (soFar : Option Bool) : List Value → List Value → Option Bool
  | x :: xs, y :: ys =>
    match settle false soFar (equalsIn swapped x y) with
    | none => none
    | some soFar => itemsEqual swapped soFar xs ys
  | _, _ => soFar
termination_by structural xs => xs

/-- Whether all values of the entries are equal to those of the same keys in `other`. -/
def entriesEqual (swapped : Bool) (soFar : Option Bool) (other : List (Value × Value)) :
    List (Value × Value) → Option Bool
  | [] => soFar
  | (k, v) :: rest =>
    match get? k other with
    | none => none
    | some w =>
      match settle false soFar (equalsIn swapped v w) with
      | none => none
      | some soFar => entriesEqual swapped soFar other rest
termination_by structural es => es

end

mutual

/-- Whether `a != b`, or `b != a` when the sides are swapped. -/
def differsIn (swapped : Bool) : Value → Value → Option Bool
  | .list o xs, .list o' ys =>
    if xs.length ≠ ys.length then some true
    else
      match if swapped then (o', o) else (o, o') with
      | (.bare, .bare) => (firstItemsEqual swapped xs ys).map (!·)
      | (.bare, .typed) => itemsDiffer (!swapped) (some false) xs ys
      | (.typed, _) => itemsDiffer swapped (some false) xs ys
  | .map _ [(k, v)], .map _ [(l, w)] =>
    -- two maps of one entry differ as their values do
    match sameKeys [(k, v)] [(l, w)] with
    | some true => if k.isKey then differsIn swapped v w else none
    | answer => answer.map (!·)
  | .map _ es, .map _ fs =>
    match sameKeys es fs with
    | some true => entriesDiffer swapped (some false) fs es
    | answer => answer.map (!·)
  | a, b => if swapped then leafDiffers b a else leafDiffers a b
termination_by structural a => a

/-- Whether some items differ. -/
def itemsDiffer (swapped : Bool) (soFar : Option Bool) : List Value → List Value → Option Bool
  | x :: xs, y :: ys =>
    match settle true soFar (differsIn swapped x y) with
    | none => none
    | some soFar => itemsDiffer swapped soFar xs ys
  | _, _ => soFar
termination_by structural xs => xs

/-- Whether some value of the entries differs from that of the same key in `other`. -/
def entriesDiffer (swapped : Bool) (soFar : Option Bool) (other : List (Value × Value)) :
    List (Value × Value) → Option Bool
  | [] => soFar
  | (k, v) :: rest =>
    match get? k other with
    | none => none
    | some w =>
      match settle true soFar (differsIn swapped v w) with
      | none => none
      | some soFar => entriesDiffer swapped soFar other rest
termination_by structural es => es

end

/-- **Whether two values are equal,** if they can be compared. -/
def equals (a b : Value) : Option Bool := equalsIn false a b

/-- **Whether two values differ,** if they can be compared. -/
def differs (a b : Value) : Option Bool := differsIn false a b

end Value

end Admission
