import Admission.Bridge
import Admission.Location

/-!
# Validation

A value is checked against a schema by visiting the value and its parts together with the schema
nodes that govern them: first the rules of the node, then the declared properties that the value
has, the other keys if the node speaks of them, or the items of a list. An old value is taken
apart along the same way.

* `Violation`: a rule that does not hold at a place.
* `Rule.check`: what a rule reports about a value.
* `Validator.walk`: what all rules report about a value and its parts.
* `Validator.validate`, `Validator.validateCompiled`: the reports for a document.
-/

namespace Admission

/-- A rule that does not hold for the value at a path. -/
structure Violation where
  fieldPath : Text
  message : Text
  reason : Option Text
  rule : Text
  deriving DecidableEq, Repr

/-- A violation in one line: its message, behind its path if that is not the root. -/
def Violation.text (v : Violation) : Text :=
  if v.fieldPath = "" then v.message else v.fieldPath ++ ": " ++ v.message

/-- The values that a rule is checked with. The new value is `self`, the old one `oldSelf`. -/
def bindings (new old : Value) : Bindings := [(selfName, new), (oldSelfName, old)]

namespace Rule

/-- The violation of a rule at a path, or at the part that the rule points to. -/
def violation (r : Rule) (path message : Text) : Violation where
  fieldPath :=
    match r.declaration.fieldPath with
    | some relative => if relative = "" then path else Location.joinRelative path relative
    | none => path
  message := message
  reason := r.declaration.reason
  rule := r.declaration.rule

/-- The message of a violated rule: the text that its expression gives, else the default. -/
def messageUnder (r : Rule) (env : Bindings) : Text :=
  match r.messageExpression? with
  | none => r.defaultMessage
  | some p =>
    match p.evaluate env with
    | .ok (.text _ s) => s
    | _ => r.defaultMessage

/-- Whether a rule compares with an old value that is not there, and minds. -/
def isSkipped (r : Rule) (hasOld : Bool) : Bool := r.isTransition && !hasOld && !r.optionalOldSelf

/-- **What a rule reports at a path.** There are no bindings if a value could not be converted;
then every rule that is not skipped is violated. -/
def check (r : Rule) (env : Option Bindings) (hasOld : Bool) (path : Text) : Option Violation :=
  match r.expression? with
  | none => some (r.violation path r.defaultMessage)
  | some p =>
    if r.isSkipped hasOld then none
    else
      match env with
      | none => some (r.violation path r.defaultMessage)
      | some env =>
        if (p.evaluate env).toOption.any Value.isYes then none
        else some (r.violation path (r.messageUnder env))

end Rule

namespace Validator

open SchemaNode

variable {σ : Type} [SchemaNode σ]

/-- The value of an old datum under a node, null if there is none. -/
def oldValue (node : σ) : Option Datum → Except Bridge.Fault Value
  | some old => Bridge.convert (some node) old
  | none => .ok .null

/-- The bindings for a value and its old value under a node. There are none if one of them has
no value there; an integer beyond every float stops the validation. -/
def activation? (node : σ) (new : Datum) (old : Option Datum) :
    Except Bridge.Fault (Option Bindings) :=
  match Bridge.convert (some node) new with
  | .ok new =>
    match oldValue node old with
    | .ok old => .ok (some (bindings new old))
    | .error .tooLarge => .error .tooLarge
    | .error _ => .ok none
  | .error .tooLarge => .error .tooLarge
  | .error _ => .ok none

/-- What the rules of a node report about a value, in the order of the rules. -/
def checkRules (node : σ) (path : Text) (new : Datum) (old : Option Datum) :
    Except Bridge.Fault (List Violation) :=
  match rules node with
  | [] => .ok []
  | rs => do
    let env ← activation? node new old
    return rs.filterMap fun r => r.check env old.isSome path

/-- Whether the value under a key is governed by the node of additional properties. -/
def isAdditional (node : σ) : Datum → Bool
  | .text name => !hasProperty node name
  | _ => true

mutual

/-- **What a schema reports about a value and its parts.** The violations at the value come
before those of its parts. -/
def walk (node : σ) (path : Text) (old : Option Datum) :
    Datum → Except Bridge.Fault (List Violation)
  | .map entries => do
    let own ← checkRules node path (.map entries) old
    let declared ← (properties node).mapM fun (name, child) => walkField child name path old entries
    let others ← (match additional? node with
      | some child => walkOthers node child path old entries
      | none => .ok [])
    return own ++ declared.flatten ++ others
  | .list items => do
    let own ← checkRules node path (.list items) old
    let parts ← (match items? node with
      | some child => walkItems child path old 0 items
      | none => .ok [])
    return own ++ parts
  | d => checkRules node path d old
termination_by structural d => d

/-- What a node reports about the value of a declared property, if there is one. -/
def walkField (child : σ) (name path : Text) (old : Option Datum) :
    List (Datum × Datum) → Except Bridge.Fault (List Violation)
  | [] => .ok []
  | (k, v) :: rest =>
    if Datum.sameKey k (.text name) then
      walk child (Location.joinField path name) (old.bind (·.field? (.text name))) v
    else walkField child name path old rest
termination_by structural entries => entries

/-- What the node of additional properties reports about the values under keys that are not
declared, in the order of the keys. -/
def walkOthers (node child : σ) (path : Text) (old : Option Datum) :
    List (Datum × Datum) → Except Bridge.Fault (List Violation)
  | [] => .ok []
  | (k, v) :: rest =>
    if isAdditional node k then do
      let here ← walk child (Location.joinField path k.keyText) (old.bind (·.field? k)) v
      return here ++ (← walkOthers node child path old rest)
    else walkOthers node child path old rest
termination_by structural entries => entries

/-- What a node reports about the items of a list from an index on. -/
def walkItems (child : σ) (path : Text) (old : Option Datum) (index : Nat) :
    List Datum → Except Bridge.Fault (List Violation)
  | [] => .ok []
  | d :: ds => do
    let here ← walk child (Location.joinIndex path index) (old.bind (·.item? index)) d
    return here ++ (← walkItems child path old (index + 1) ds)
termination_by structural items => items

end

/-- The old value at the root: null stands for none. -/
def oldRoot : Option Datum → Option Datum
  | some .null => none
  | old => old

/-- **The violations of a schema document.** A document that is no object asks for nothing. -/
def validate (c : Context) (schema : Document) (new : Datum) (old : Option Datum) :
    Except Bridge.Fault (List Violation) :=
  match RawSchema.wrap? c schema with
  | some node => walk node "" (oldRoot old) new
  | none => .ok []

/-- **The violations of a compiled schema.** -/
def validateCompiled (schema : CompiledSchema) (new : Datum) (old : Option Datum) :
    Except Bridge.Fault (List Violation) :=
  walk schema "" (oldRoot old) new

end Validator

end Admission
