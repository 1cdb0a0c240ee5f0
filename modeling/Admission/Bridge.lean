import Admission.Datum
import Admission.Schema.Basic
import Admission.Time.Duration
import Admission.Value.Conversion

/-!
# From data to values

The value that a datum is in expressions. A schema node may give texts a format: those that
write a date-time or a duration in the format of their node become timestamps and durations, all
others stay texts.

* `Bridge.plain`: the value of a datum on its own.
* `Bridge.ofText`: the value of a text in a format.
* `Bridge.convert`: the value of a datum under a schema node.
* `Bridge.nodeOf?`: the node for the value under a key.
* `Bridge.withSchema`, `Bridge.withCompiled`: the values under a given schema, compiled or not.
* `Bridge.Fault`: why a datum has no value.
-/

namespace Admission.Bridge

open Time

/-- Why a datum has no value. -/
inductive Fault where
  /-- A thing of this kind has no value. -/
  | unsupported (kind : Text)
  /-- A value stands where a key has to be, but cannot be one. -/
  | badKey
  /-- An integer is beyond every float. -/
  | tooLarge
  deriving DecidableEq, Repr

/-- What is said about a fault; the others are not described. -/
def Fault.message? : Fault → Option Text
  | .unsupported kind => some ("Cannot convert " ++ kind ++ " to a CEL value")
  | .badKey | .tooLarge => none

/-- The number of an integer: signed if it fits 64 bits, else unsigned if it fits them, else the
float nearest to it. -/
def ofInt (n : Int) : Except Fault Value :=
  match (Value.int? n).or (Value.uint? n) with
  | some v => .ok v
  | none =>
    match Decimal.ofInt? n with
    | some x => .ok (.ofFloat .typed x)
    | none => .error .tooLarge

/-- Entries with `key` bound to `value`: in the place of the key if it is there, else at the
end. -/
def putEntry (key value : Value) : List (Value × Value) → Except Fault (List (Value × Value))
  | [] => if key.isHashable then .ok [(key, value)] else .error .badKey
  | (k, v) :: rest =>
    if !key.isHashable then .error .badKey
    else if !Value.meets k key then (putEntry key value rest).map ((k, v) :: ·)
    else
      match Value.leafEquals k key with
      | none => .error .badKey
      | some true => .ok ((k, value) :: rest)
      | some false => (putEntry key value rest).map ((k, v) :: ·)

mutual

/-- **The value of a datum on its own.** -/
def plain : Datum → Except Fault Value
  | .null => .ok .null
  | .bool b => .ok (.ofBool b)
  | .int n => ofInt n
  | .float x => .ok (.ofFloat .typed x)
  | .text s => .ok (.text .typed s)
  | .bytes bs => .ok (.bytes .typed bs)
  | .list items => (plainItems items).map (.list .typed)
  | .map entries => (plainEntries [] entries).map (.map .plain)
  | .foreign thing => .error (.unsupported thing.kind)

/-- The values of the items of a list. -/
def plainItems : List Datum → Except Fault (List Value)
  | [] => .ok []
  | d :: ds => do return (← plain d) :: (← plainItems ds)

/-- The values of the entries of a map, behind those that were converted before. -/
def plainEntries (before : List (Value × Value)) :
    List (Datum × Datum) → Except Fault (List (Value × Value))
  | [] => .ok before
  | (k, v) :: rest => do
    let key ← plain k
    let value ← plain v
    plainEntries (← putEntry key value before) rest

end

variable {σ : Type} [SchemaNode σ]

open SchemaNode

/-- Whether a node speaks of values of a JSON type: it has that type or none. -/
def accepts (node : σ) (type : Text) : Bool := type? node = none || type? node = some type

/-- The node for the value under a key: that of the declared property, or that of additional
properties if the key is not declared. -/
def nodeOf? (node : σ) : Datum → Option σ
  | .text name =>
    match child? node name with
    | some child => some child
    | none => if hasProperty node name then none else additional? node
  | _ => additional? node

/-- The duration of a number of nanoseconds, made of whole seconds and the nanoseconds beyond
them. -/
def ofNanos (nanos : Int) : Except Value.Fault Value :=
  let (seconds, rest) := Duration.split nanos
  Value.toDuration (.int .bare seconds) (.int .bare rest)

/-- The value of a text in a format. A text that writes no value of the format stays a text, and so
does one whose value cannot be made. -/
def ofText (format : Option Text) (s : Text) : Value :=
  if format = some (.plain "date-time") then
    match Timestamp.parse s with
    | .ok t => .timestamp t
    | .error _ => .ofString s
  else if format = some (.plain "duration") then
    match Duration.parse s with
    | .ok nanos => (ofNanos nanos).toOption.getD (.ofString s)
    | .error _ => .ofString s
  else .ofString s

mutual

/-- **The value of a datum under a schema node**, or on its own if there is none. -/
def convert (node : Option σ) : Datum → Except Fault Value
  | .text s => .ok (ofText (node.bind format?) s)
  | .map entries =>
    match node with
    | some n =>
      if accepts n "object" then (convertEntries n [] entries).map (.map .plain)
      else plain (.map entries)
    | none => plain (.map entries)
  | .list items =>
    match node with
    | some n =>
      if accepts n "array" then (convertItems (items? n) items).map (.list .typed)
      else plain (.list items)
    | none => plain (.list items)
  | d => plain d
termination_by structural d => d

/-- The values of the items of a list under their node. -/
def convertItems (node : Option σ) : List Datum → Except Fault (List Value)
  | [] => .ok []
  | d :: ds => do
    let v ← convert node d
    return v :: (← convertItems node ds)
termination_by structural ds => ds

/-- The values of the entries of a map under the node of the map, behind those that were
converted before. -/
def convertEntries (node : σ) (before : List (Value × Value)) :
    List (Datum × Datum) → Except Fault (List (Value × Value))
  | [] => .ok before
  | (k, v) :: rest => do
    let value ← convert (nodeOf? node k) v
    let key ← plain k
    convertEntries node (← putEntry key value before) rest
termination_by structural entries => entries

end

/-- **The value of a datum under what is given as a schema**, or on its own if that is none. -/
def withSchema (schema : SchemaSource) (d : Datum) : Except Fault Value := convert schema.node? d

/-- **The value of a datum under a compiled tree**, or on its own if there is none. -/
def withCompiled (tree : Option CompiledSchema) (d : Datum) : Except Fault Value := convert tree d

end Admission.Bridge
