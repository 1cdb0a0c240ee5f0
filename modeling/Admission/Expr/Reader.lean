import Admission.Expr.Basic
import Admission.Expr.Token

/-!
# Reading expressions

The grammar of expressions, read from the front of the text. From loose to tight: the choice,
`||`, `&&`, the relations, sums, products, signs, and the parts of a value. Binary operators
group to the left.

* `Expr.read?`: the expression that a text writes.
-/

namespace Admission.Expr

/-- A reader of a part of the text: it takes the part from the front, or fails. -/
abbrev Read := StateT (List Point) Option

/-- The character that comes next behind blanks. -/
def peek? : Read (Option Point) := modifyGet fun cs => let cs := skipBlanks cs; (cs.head?, cs)

/-- Takes one character behind blanks if it comes next. -/
def accept (c : Point) : Read Bool := do
  if (← peek?) = some c then
    modify List.tail
    return true
  else return false

/-- Takes a character that has to come next. -/
def require (c : Point) : Read Unit := do
  if !(← accept c) then failure

/-- Takes a name that has to come next; the words for the two booleans are none. -/
def requireWord : Read Text := do
  let some (w, rest) := word? (skipBlanks (← get)) | failure
  if w = "true" ∨ w = "false" then failure
  set rest
  return w

/-- The binary operators from loose to tight, those of one level with their signs. A sign comes
before the signs that it starts with. -/
def levels : List (List (Text × Operator)) :=
  [[("||", .or)], [("&&", .and)],
    [("<=", .lessEq), (">=", .greaterEq), ("==", .equal), ("!=", .notEqual), ("<", .less),
      (">", .greater), ("in", .member)],
    [("+", .add), ("-", .sub)], [("*", .mul), ("/", .div), ("%", .mod)]]

/-- Takes an operator of a level if one comes next. -/
def operatorOf? (level : Nat) : Read (Option Operator) := do
  let cs := skipBlanks (← get)
  match (levels[level]?.getD []).find? fun (sign, _) => sign.toList.isPrefixOf cs with
  | some (sign, o) =>
    set (cs.drop sign.length)
    return some o
  | none => return none

/-- The names that are values. -/
def constants : List (Text × Value) :=
  [("true", .ofBool true), ("false", .ofBool false), ("null", .null)]

/-- The method or macro of a name. -/
def methodOf (e : Expr) (f : Text) (args : List Expr) : Expr :=
  match Macro.ofName? f, args with
  | some m, [x, body] => .comprehension m e x body
  | some _, args => .malformed e args
  | none, args =>
    if f = "reduce" then
      match args with
      | [r, x, start, body] => .reduce e r x start body
      | args => .malformed e args
    else if f = "min" then .minimum e args
    else .method e f args

/-- The call of a function by its name alone. -/
def callOf (f : Text) (args : List Expr) : Expr :=
  if f = "has" then .has args else if f = "dyn" then .dyn args else .call f args

mutual

/-- An expression, or the three parts of a choice. The first argument of these readers bounds how
deep they call one another. -/
def expressionParts : Nat → Read (Expr × Option (Expr × Expr))
  | 0 => failure
  | more + 1 => do
    let c ← binary more 0
    if ← accept '?' then
      let a ← binary more 0
      require ':'
      let b ← expression more
      return (c, some (a, b))
    else return (c, none)

/-- An expression. -/
def expression : Nat → Read Expr
  | 0 => failure
  | more + 1 => do
    match ← expressionParts more with
    | (c, some (a, b)) => return .choose c a b
    | (e, none) => return e

/-- Operands of operators of a level or of tighter ones. -/
def binary : Nat → (level : Nat) → Read Expr
  | 0, _ => failure
  | more + 1, level => do
    if level < levels.length then
      let e ← binary more (level + 1)
      binaryRest more level e
    else unary more

/-- The operators of a level and their right operands behind a left operand. -/
def binaryRest : Nat → (level : Nat) → Expr → Read Expr
  | 0, _, _ => failure
  | more + 1, level, left => do
    match ← operatorOf? level with
    | some o =>
      let right ← binary more (level + 1)
      binaryRest more level (.operation o [left, right])
    | none => return left

/-- A value with signs in front. A minus sign directly in front of a number belongs to it. -/
def unary : Nat → Read Expr
  | 0 => failure
  | more + 1 => do
    let cs := skipBlanks (← get)
    match number? cs with
    | some (v, rest) =>
      set rest
      member more (.literal v)
    | none =>
      if ← accept '!' then return .operation .not [← unary more]
      else if ← accept '-' then return .operation .negate [← unary more]
      else member more (← primary more)

/-- The parts, methods and fields behind a value. -/
def member : Nat → Expr → Read Expr
  | 0, _ => failure
  | more + 1, e => do
    if ← accept '.' then
      let f ← requireWord
      if ← accept '(' then member more (methodOf e f (← arguments more ')'))
      else member more (.select e f)
    else if ← accept '[' then
      let i ← expression more
      require ']'
      member more (.operation .index [e, i])
    else if ← accept '{' then member more (.message e (← fields more))
    else return e

/-- A literal, name, call, list, map, or an expression in parentheses. -/
def primary : Nat → Read Expr
  | 0 => failure
  | more + 1 => do
    let cs := skipBlanks (← get)
    match quotation? cs with
    | some (v, rest) =>
      set rest
      return (v.map .literal).getD .defective
    | none =>
      match word? cs with
      | some (w, rest) =>
        set rest
        match constants.lookup w with
        | some v => return .literal v
        | none =>
          if ← accept '(' then return callOf w (← arguments more ')') else return .name w
      | none =>
        if ← accept '.' then
          let w ← requireWord
          if ← accept '(' then return .rootCall w (← arguments more ')') else return .root w
        else if ← accept '(' then
          let e ← expression more
          require ')'
          return e
        else if ← accept '[' then return .list (← arguments more ']')
        else if ← accept '{' then return .map (← entries more)
        else failure

/-- Expressions between commas up to a closing bracket. -/
def arguments : Nat → (close : Point) → Read (List Expr)
  | 0, _ => failure
  | more + 1, close => do
    if ← accept close then return []
    else
      let e ← expression more
      argumentsRest more close [e]

/-- Further expressions behind commas up to a closing bracket, behind those that were read. -/
def argumentsRest : Nat → (close : Point) → List Expr → Read (List Expr)
  | 0, _, _ => failure
  | more + 1, close, es => do
    if ← accept close then return es
    else
      require ','
      let e ← expression more
      argumentsRest more close (es ++ [e])

/-- The entries of a map up to its closing brace. -/
def entries : Nat → Read (List (Expr × Expr))
  | 0 => failure
  | more + 1 => do
    if ← accept '}' then return []
    else entriesRest more []

/-- One entry of a map and those behind it, behind those that were read. -/
def entriesRest : Nat → List (Expr × Expr) → Read (List (Expr × Expr))
  | 0, _ => failure
  | more + 1, es => do
    let k ← expression more
    require ':'
    let v ← expression more
    if ← accept '}' then return es ++ [(k, v)]
    else
      require ','
      entriesRest more (es ++ [(k, v)])

/-- The fields of a message up to its closing brace. -/
def fields : Nat → Read (List (Text × List Expr))
  | 0 => failure
  | more + 1 => do
    if ← accept '}' then return []
    else fieldsRest more []

/-- One field of a message and those behind it, behind those that were read. -/
def fieldsRest : Nat → List (Text × List Expr) → Read (List (Text × List Expr))
  | 0, _ => failure
  | more + 1, fs => do
    let f ← requireWord
    require ':'
    let es ← (match ← expressionParts more with
      | (c, some (a, b)) => return [c, a, b]
      | (e, none) => return [e])
    if ← accept '}' then return fs ++ [(f, es)]
    else
      require ','
      fieldsRest more (fs ++ [(f, es)])

end

/-- **The expression that a text writes.** Each character is at the front of at most thirteen
nested readers. -/
def read? (text : Text) : Option Expr := do
  let cs := text.toList
  let (e, rest) ← (expression (13 * cs.length + 13)).run cs
  if skipBlanks rest = [] then some e else none

end Admission.Expr
