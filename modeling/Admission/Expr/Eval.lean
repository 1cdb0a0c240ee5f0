import Admission.Expr.Basic
import Admission.Expr.Context
import Admission.Value.BuiltIn
import Admission.Value.Conversion

/-!
# Evaluation

The value of an expression in a context under bindings. A failure of a part is a value of its
own (`Value.error`) which flows upward, so that `&&` and `||` can pass over it. What no operator
can pass over stops the evaluation (`Abort`).

* `Expr.eval`: the value of an expression.
* `Abort`: why an evaluation stops.
-/

namespace Admission

/-- Why an evaluation stops. -/
inductive Abort where
  /-- The body of a macro failed; `all` and `exists` take it as a failed answer. -/
  | failure
  /-- A macro or message meets a value that it is not defined on; a choice and a map turn this into
  a failed value. -/
  | mismatch
  /-- A field is there twice, or a macro has a wrong number of arguments; a map turns this into a
  failed value. -/
  | badValue
  /-- Nothing can pass over it: a malformed pattern, or a number beyond every bound. -/
  | defect
  deriving DecidableEq, Repr

/-- Names and the values they are bound to; the first binding of a name counts. -/
abbrev Bindings := List (Text × Value)

/-- Bindings at a place of an evaluation. -/
structure Activation where
  bindings : Bindings
  site : Site := []

namespace Activation

/-- The same bindings at the place of a part. Parts of one whole have different numbers. -/
def part (env : Activation) (i : Nat) : Activation := { env with site := i :: env.site }

/-- One more binding. -/
def bind (env : Activation) (name : Text) (v : Value) : Activation :=
  { env with bindings := (name, v) :: env.bindings }

end Activation

namespace Value

/-- Both of two answers. One answer that is no is no, whatever the other one is; beside yes the
other one is the result. Two values that are no booleans have none. -/
def both : Value → Value → Value
  | .bool a, y => if a = 0 then .bool a else y
  | x, .bool b => if b = 0 then .bool b else x
  | _, _ => .error

/-- Either of two answers, as `both` with yes and no exchanged. -/
def either : Value → Value → Value
  | .bool a, y => if a = 0 then y else .bool a
  | x, .bool b => if b = 0 then x else .bool b
  | _, _ => .error

end Value

namespace Expr

open Value

/-- An answer, which a question has if it can be answered. -/
def ofAnswer (b : Option Bool) : Except Fault Value :=
  match b with
  | some b => .ok (ofBool b)
  | none => .error .mismatch

/-- The result of an operator on values. -/
def operate : Operator → List Value → Except Fault Value
  | .and, [a, b] => .ok (a.both b)
  | .or, [a, b] => .ok (a.either b)
  | .add, [a, b] => a.add b
  | .sub, [a, b] => a.sub b
  | .mul, [a, b] => a.mul b
  | .div, [a, b] => a.div b
  | .mod, [a, b] => a.mod b
  | .negate, [a] => a.negate
  | .not, [.bool n] => .ok (ofBool (n == 0))
  | .less, [a, b] => ofAnswer (related? .less a b)
  | .lessEq, [a, b] => ofAnswer (related? .lessEq a b)
  | .greater, [a, b] => ofAnswer (related? .greater a b)
  | .greaterEq, [a, b] => ofAnswer (related? .greaterEq a b)
  | .equal, [a, b] => ofAnswer (a.equals b)
  | .notEqual, [a, b] => ofAnswer (a.differs b)
  | .member, [a, b] => ofAnswer (memberOf a b)
  | .index, [a, b] => orMismatch (index? a b)
  | _, _ => .error .mismatch

/-- Whether an operator looks at the failure of an operand: the connectives pass over it, and it
may be asked for in a container. -/
def takesErrors : Operator → List Value → Bool
  | .and, _ | .or, _ => true
  | .member, [_, container] => !container.isError
  | _, _ => false

/-- The outcome of an operator: an error among the operands is its own result, and a failure is an
error. A format that asks for a missing entry is a defect. -/
def applyOperator (o : Operator) (operands : List Value) : Except Abort Value :=
  if operands.any isError && !takesErrors o operands then .ok .error
  else
    match operate o operands with
    | .ok v => .ok v
    | .error .missingKey => .error .defect
    | .error _ => .ok .error

/-- The outcome of a call: a failure is an error, but beyond every bound it is a defect. -/
def ofCall : Except Value.Fault Value → Except Abort Value
  | .ok v => .ok v
  | .error .mismatch | .error .outOfRange | .error .noPart => .ok .error
  | .error _ => .error .defect

/-- The outcome of a call of a function of a group: a malformed pattern is a defect too. -/
def ofLibrary : Except Library.Fault Value → Except Abort Value
  | .ok v => .ok v
  | .error .badPattern | .error .overflow => .error .defect
  | .error _ => .ok .error

/-- The outcome of a function on arguments in a context. -/
def apply (c : Context) (f : Function) (args : List Value) : Except Abort Value :=
  match f with
  | .operator o => applyOperator o args
  | .builtIn b => ofCall (b.apply args)
  | .conversion k => ofCall (k.convert args)
  | .callable f => ofLibrary (c.call f args)

/-- The outcome of a function of a group in the place of an operator, where what is not defined on
the left operand at all is a defect. -/
def ofCallable (c : Context) (f : Callable) (operands : List Value) : Except Abort Value :=
  match c.call f operands with
  | .error .inapplicable => .error .defect
  | outcome => ofLibrary outcome

/-- The outcome of an operator in a context, where a function of its name may take its place. -/
def operateIn (c : Context) (o : Operator) (operands : List Value) : Except Abort Value :=
  match c.callable? o.name with
  | none => applyOperator o operands
  | some f => if operands.any isError then .ok .error else ofCallable c f operands

/-- The outcome of a named function in a context. -/
def applyIn (c : Context) (f : Text) (args : List Value) : Except Abort Value :=
  if args.any isError then .ok .error
  else
    match c.function? f with
    | some f => apply c f args
    | none => .ok .error

/-- The value of a name: its binding, else the function, kind or scope of that name. -/
def valueOf (c : Context) (env : Activation) (name : Text) : Value :=
  match env.bindings.lookup name with
  | some v => v
  | none =>
    match c.function? name with
    | some (.conversion k) => .kind k
    | some f => .function f
    | none => (ofLongName? name).getD .error

/-- The choice between two outcomes, of which the one that is not chosen is not looked at. Only a
boolean can choose; where no branch was chosen by one there is no value, and a mismatch in a
branch is a failed value. -/
def chosen (c : Context) (condition : Value) (branch : Except Abort Value) : Except Abort Value :=
  match branch with
  | .error .mismatch => .ok .error
  | .error e => .error e
  | .ok v =>
    match c.callable? Operator.choose.name with
    | none =>
      match condition with
      | .bool _ => .ok v
      | _ => .ok .error
    | some f =>
      let no := ofBool false
      let operands := if condition.isTrue then [condition, v, no] else [condition, no, v]
      ofCallable c f operands

/-- A list of values, an error if one of them is. -/
def listOf (vs : List Value) : Value := if vs.any isError then .error else .list .typed vs

/-- A map of entries, an error if a key is an error, cannot be a key or is there already. -/
def mapOf (entries : List (Value × Value)) : Value :=
  match entries.foldlM (fun es (k, v) => appendEntry es k v) [] with
  | .ok es => .map .plain es
  | .error _ => .error

/-- A value that the body of a macro has to have. -/
def strict : Except Abort Value → Except Abort Value
  | .ok .error => .error .failure
  | outcome => outcome

/-- A failed body as a value. -/
def lenient : Except Abort Value → Except Abort Value
  | .error .failure => .ok .error
  | outcome => outcome

/-- The elements that a macro goes through. -/
def elementsOf (v : Value) : Except Abort (List Value) :=
  match v.elements? with
  | some xs => .ok xs
  | none => .error .mismatch

/-- The name that a binder binds. -/
def bound (binder : Expr) : Except Abort Text :=
  match binder.lastName? with
  | some x => .ok x
  | none => .error .defect

/-- The least element of a row; an empty row has none. -/
def leastOf (xs : List Value) : Except Abort Value :=
  match xs with
  | [] => .ok .error
  | x :: xs =>
    match Library.extreme .less x xs with
    | .ok v => .ok v
    | .error _ => .error .mismatch

/-- The outcome of a kind or function that is given a message: what is not defined on messages at
all is a defect. -/
def ofFields (c : Context) (f : Function) (message : Value) : Except Abort Value :=
  match f with
  | .builtIn b =>
    match b.apply [message] with
    | .error .noPart => .error .defect
    | outcome => ofCall outcome
  | .callable f => ofCallable c f [message]
  | f => apply c f [message]

/-- The value of a type with fields. -/
def construct (c : Context) (type : Value) (fields : List (Value × Value)) : Except Abort Value :=
  let message := if fields.isEmpty then .null else .map .message fields
  match type with
  | .kind k => ofFields c (.conversion k) message
  | .function f => ofFields c f message
  | _ => .ok .error

/-- Fields with one more at the end, which must be new. -/
def appendField (fields : List (Value × Value)) (name : Text) (v : Value) :
    Except Abort (List (Value × Value)) :=
  match appendEntry fields (.ofString name) v with
  | .ok fields => .ok fields
  | .error _ => .error .badValue

/-- The result of a macro, where `body` gives the value of the body for an element and its
position. -/
def comprehend (m : Macro) (xs : List Value) (body : Nat → Value → Except Abort Value) :
    Except Abort Value :=
  let holds := fun (x : Value × Nat) => do return (← strict (body x.2 x.1)).isTrue
  match m with
  | .map => do return .list .typed (← xs.zipIdx.mapM fun (x, i) => strict (body i x))
  | .filter => do return .list .typed ((← xs.zipIdx.filterM holds).map Prod.fst)
  | .all =>
    xs.zipIdx.foldlM (fun answer (x, i) => do
      return answer.both (← lenient (strict (body i x)))) (ofBool true)
  | .any =>
    xs.zipIdx.foldlM (fun answer (x, i) => do
      return answer.either (← lenient (strict (body i x)))) (ofBool false)
  | .one => do return ofBool ((← xs.zipIdx.filterM holds).length == 1)

mutual

/-- **The value of an expression** in a context under bindings. -/
def eval (c : Context) (env : Activation) : Expr → Except Abort Value
  | .literal v => .ok v
  | .defective => .error .mismatch
  | .name n => .ok (valueOf c env n)
  | .root n => .ok (valueOf c env n)
  | .rootCall n args => do
    -- the arguments do not count, but their faults do
    let _ ← evalAll c env args
    return valueOf c env n
  | .list items => do return listOf (← evalAll c env items)
  | .map entries =>
    match evalEntries c env entries with
    | .error .mismatch | .error .badValue => .ok .error
    | .error e => .error e
    | .ok es => .ok (mapOf es)
  | .operation o operands => do
    return (← operateIn c o (← evalAll c env operands)).placed env.site
  | .choose condition yes no => do
    let b ← eval c (env.part 0) condition
    chosen c b (if b.isTrue then eval c (env.part 1) yes else eval c (env.part 2) no)
  | .select e field => do return ((← eval c (env.part 0) e).field? field).getD .error
  | .call f args => do return (← applyIn c f (← evalAll c env args)).placed env.site
  | .method receiver f args => do
    let v ← eval c (env.part 0) receiver
    return (← applyIn c f (v :: (← evalAll c env args))).placed env.site
  | .message type fields => do
    let t ← eval c (env.part 0) type
    let fs ← evalFields c env [] fields
    if fields.any fun (f, _) => f == "self" then throw .mismatch
    return (← construct c t fs).placed env.site
  | .has args => do
    match ← evalAll c env args with
    | v :: _ => return ofBool (!v.isError)
    | [] => throw .defect
  | .dyn args => do
    match ← evalAll c env args with
    | v :: _ => return v
    | [] => throw .defect
  | .comprehension m range binder body => do
    let v ← eval c (env.part 0) range
    if v.isError then return .error
    let x ← bound binder
    comprehend m (← elementsOf v) fun i e => eval c ((env.part (i + 1)).bind x e) body
  | .reduce range total item start body => do
    let v ← eval c (env.part 0) range
    if v.isError then return .error
    let r ← bound total
    let x ← bound item
    let first ← eval c (env.part 1) start
    (← elementsOf v).zipIdx.foldlM
      (fun soFar (e, i) => strict (eval c (((env.part (i + 2)).bind r soFar).bind x e) body)) first
  | .minimum range _ => do
    let v ← eval c (env.part 0) range
    if v.isError then return .error
    leastOf (← elementsOf v)
  | .malformed range args => do
    let v ← eval c (env.part 0) range
    if v.isError then return .error
    else if args.isEmpty then throw .defect
    else throw .badValue
termination_by structural e => e

/-- The values of a row of expressions. -/
def evalAll (c : Context) (env : Activation) : List Expr → Except Abort (List Value)
  | [] => .ok []
  | e :: es => do
    let v ← eval c (env.part (es.length + 1)) e
    return v :: (← evalAll c env es)
termination_by structural es => es

/-- The values of the keys and values of a map. -/
def evalEntries (c : Context) (env : Activation) :
    List (Expr × Expr) → Except Abort (List (Value × Value))
  | [] => .ok []
  | (k, v) :: es => do
    let k ← eval c (env.part (2 * es.length)) k
    let v ← eval c (env.part (2 * es.length + 1)) v
    return (k, v) :: (← evalEntries c env es)
termination_by structural es => es

/-- The fields of a message, behind those that were evaluated. The first expression of a field is
its value. -/
def evalFields (c : Context) (env : Activation) (before : List (Value × Value)) :
    List (Text × List Expr) → Except Abort (List (Value × Value))
  | [] => .ok before
  | (f, es) :: fs => do
    let vs ← evalAll c (env.part (fs.length + 1)) es
    evalFields c env (← appendField before f (vs.head?.getD .error)) fs
termination_by structural fs => fs

end

end Expr

end Admission
