import Admission.Value.Equality

/-!
# Parts of values

Items by index, values by key, and whether something is contained.

* `Value.index?`: `container[key]`.
* `Value.memberOf`: `item in container`.
* `Value.contains`: the method of the same name.
-/

namespace Admission.Value

/-- The element at an index; a negative index counts from the end. -/
def at? {α : Type} (xs : List α) (i : Int) : Option α :=
  if i < 0 then if -i ≤ xs.length then xs[(xs.length + i).toNat]? else none else xs[i.toNat]?

/-- The part of a container that a key names. Lists, texts and bytes take integers and booleans,
maps the keys that can be asked for. -/
def index? (container key : Value) : Option Value :=
  match container with
  | .map _ entries => get? key entries
  | .list _ xs => key.whole?.bind (at? xs)
  | .text _ s => (key.whole?.bind (at? s.toList)).map fun c => .text .bare (Text.ofList [c])
  | .bytes _ bs => (key.whole?.bind (at? bs)).map fun b => .int .bare b.toNat
  | _ => none

/-- The elements of a text, row of bytes or list from `start` up to `stop`. -/
def stretch? (start stop : Nat) : Value → Option Value
  | .text _ s => some (.text .bare (Text.ofList (s.toList.extract start stop)))
  | .bytes _ bs => some (.bytes .bare (bs.extract start stop))
  | .list _ xs => some (.list .bare (xs.extract start stop))
  | _ => none

/-- What a long name stands for: a kind, or the scope of longer names. -/
def ofLongName? (name : Text) : Option Value :=
  match Kind.qualified.lookup name with
  | some k => some (.kind k)
  | none =>
    let lead := (name ++ ".").toList
    if Kind.qualified.any fun (n, _) => lead.isPrefixOf n.toList then some (.scope name) else none

/-- The value of a field. A field that a message does not have is null. -/
def field? (name : Text) : Value → Option Value
  | .map .plain entries => get? (.text .bare name) entries
  | .map .message entries => some ((get? (.text .bare name) entries).getD .null)
  | .scope outer => ofLongName? (outer ++ "." ++ name)
  | _ => none

/-- Whether an element of a row equals `item`. An element that cannot be compared is passed over
if another one is equal, and leaves the question open else. -/
def someEqual (item : Value) : List Value → Option Bool
  | [] => some false
  | x :: xs =>
    match equals x item with
    | some true => some true
    | some false => someEqual item xs
    | none => if someEqual item xs = some true then some true else none

/-- Whether `item` is an element of a container. -/
def memberOf (item container : Value) : Option Bool :=
  container.elements?.bind (someEqual item)

/-- Whether an element of a row is `item` or equals it, where the first element that cannot be
compared leaves the question open. -/
def hasItem (item : Value) : List Value → Option Bool
  | [] => some false
  | x :: xs =>
    if x.isSame item then some true
    else
      match equals x item with
      | some true => some true
      | some false => hasItem item xs
      | none => none

/-- Whether one list occurs in another. -/
def occursIn {α : Type} [BEq α] (x : List α) : List α → Bool
  | [] => x.isEmpty
  | c :: s => x.isPrefixOf (c :: s) || occursIn x s

/-- Whether a typed text, row of bytes, list or map contains `item`: as a part, as an element,
as a key. -/
def contains (container item : Value) : Option Bool :=
  match container, item with
  | .text .typed s, .text _ t => some (occursIn t.toList s.toList)
  | .bytes .typed bs, .bytes _ cs => some (occursIn cs bs)
  | .bytes .typed bs, _ =>
    item.whole?.bind fun n =>
      if 0 ≤ n ∧ n < 256 then some (bs.contains (UInt8.ofNat n.toNat)) else none
  | .list .typed xs, _ => hasItem item xs
  | .map _ entries, _ => if item.isHashable then (lookup item entries).map Option.isSome else none
  | _, _ => none

/-- Whether a text or row of bytes starts with another. -/
def startsWith : Value → Value → Option Bool
  | .text _ s, .text _ t => some (t.toList.isPrefixOf s.toList)
  | .bytes _ a, .bytes _ b => some (b.isPrefixOf a)
  | _, _ => none

/-- Whether a text or row of bytes ends with another. -/
def endsWith : Value → Value → Option Bool
  | .text _ s, .text _ t => some (t.toList.isSuffixOf s.toList)
  | .bytes _ a, .bytes _ b => some (b.isSuffixOf a)
  | _, _ => none

end Admission.Value
