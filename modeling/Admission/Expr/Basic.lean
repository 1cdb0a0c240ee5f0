import Admission.Value.Basic

/-!
# Expressions

The syntax of expressions. A macro looks like a method, but evaluates its last argument once for
every element of the receiver, with a name bound to the element.

* `Expr`: expressions.
* `Expr.occurrences`: the places in an expression where names stand that are looked up.
* `Expr.names`: the names that stand for variables in an expression.
* `Expr.lastName?`: the name that a macro with this binder binds.
-/

namespace Admission

/-- The macros that go through the elements of their receiver with one bound name. -/
inductive Macro where
  /-- The values of the body. -/
  | map
  /-- The elements for which the body holds. -/
  | filter
  /-- Whether the body holds for all elements. -/
  | all
  /-- Whether the body holds for some element. -/
  | any
  /-- Whether the body holds for exactly one element. -/
  | one
  deriving DecidableEq, Repr

/-- The macro that a method name stands for. -/
def Macro.ofName? (name : Text) : Option Macro :=
  List.lookup name [("map", .map), ("filter", .filter), ("all", .all), ("exists", .any),
    ("exists_one", .one)]

/-- An expression. -/
inductive Expr where
  | literal (v : Value)
  /-- A literal that stops the evaluation. -/
  | defective
  | name (n : Text)
  /-- A name behind a point, which no macro binds. -/
  | root (n : Text)
  /-- Such a name with arguments, which are evaluated and mean nothing. -/
  | rootCall (n : Text) (args : List Expr)
  | list (items : List Expr)
  | map (entries : List (Expr × Expr))
  /-- An operator with its operands; an index is an operator too. -/
  | operation (o : Operator) (operands : List Expr)
  | choose (condition yes no : Expr)
  /-- A field of a map. -/
  | select (e : Expr) (field : Text)
  | call (f : Text) (args : List Expr)
  | method (receiver : Expr) (f : Text) (args : List Expr)
  /-- A value of a type, given by its fields. All expressions of a field are evaluated, and the
  first one is its value. -/
  | message (type : Expr) (fields : List (Text × List Expr))
  /-- Whether the first argument has a value. -/
  | has (args : List Expr)
  /-- The first argument. -/
  | dyn (args : List Expr)
  /-- A macro over a range; the binder is an expression that names the element. -/
  | comprehension (m : Macro) (range binder body : Expr)
  /-- The body folded over a range, with one binder for the value so far and one for the
  element. -/
  | reduce (range total item start body : Expr)
  /-- The least element; arguments mean nothing. -/
  | minimum (range : Expr) (args : List Expr)
  /-- A macro with a number of arguments that it does not have. -/
  | malformed (range : Expr) (args : List Expr)
  deriving Inhabited

namespace Expr

/-- A place in an expression where a name stands that is looked up. -/
structure Occurrence where
  name : Text
  /-- Whether arguments follow the name, which then looks like that of a function. -/
  called : Bool := false
  deriving DecidableEq, Repr

mutual

/-- **The names in an expression that are looked up,** with those that macros bind. -/
def occurrences : Expr → List Occurrence
  | .literal _ | .defective => []
  | .name n => [{ name := n }]
  | .root n => [{ name := n }]
  | .rootCall n args => { name := n, called := true } :: occurrencesInAll args
  | .list items => occurrencesInAll items
  | .map entries => occurrencesInEntries entries
  | .operation _ operands => occurrencesInAll operands
  | .choose c a b => occurrences c ++ occurrences a ++ occurrences b
  | .select e _ => occurrences e
  | .call _ args => occurrencesInAll args
  | .method e _ args => occurrences e ++ occurrencesInAll args
  | .message e fields => occurrences e ++ occurrencesInFields fields
  | .has args => occurrencesInAll args
  | .dyn args => occurrencesInAll args
  | .comprehension _ range x body => occurrences range ++ occurrences x ++ occurrences body
  | .reduce range r x start body =>
    occurrences range ++ occurrences r ++ occurrences x ++ occurrences start ++ occurrences body
  | .minimum range args => occurrences range ++ occurrencesInAll args
  | .malformed range args => occurrences range ++ occurrencesInAll args

/-- The names in a row of expressions. -/
def occurrencesInAll : List Expr → List Occurrence
  | [] => []
  | e :: es => occurrences e ++ occurrencesInAll es

/-- The names in the keys and values of a map. -/
def occurrencesInEntries : List (Expr × Expr) → List Occurrence
  | [] => []
  | (k, v) :: es => occurrences k ++ occurrences v ++ occurrencesInEntries es

/-- The names in the values of fields. -/
def occurrencesInFields : List (Text × List Expr) → List Occurrence
  | [] => []
  | (_, es) :: fs => occurrencesInAll es ++ occurrencesInFields fs

end

/-- The names that stand for variables or types in an expression, with those that macros bind. A
name with arguments counts as that of a function, also behind a point. -/
def names (e : Expr) : List Text :=
  (e.occurrences.filter fun o => !o.called).map Occurrence.name

mutual

/-- The last name in an expression that stands without a point in front. -/
def lastName? : Expr → Option Text
  | .literal _ | .defective | .root _ => none
  | .name n => some n
  | .rootCall _ args => lastOfAll? args
  | .list items => lastOfAll? items
  | .map entries => lastOfEntries? entries
  | .operation _ operands => lastOfAll? operands
  | .choose c a b => ((lastName? b).or (lastName? a)).or (lastName? c)
  | .select e _ => lastName? e
  | .call _ args => lastOfAll? args
  | .method e _ args => (lastOfAll? args).or (lastName? e)
  | .message e fields => (lastOfFields? fields).or (lastName? e)
  | .has args => lastOfAll? args
  | .dyn args => lastOfAll? args
  | .comprehension _ range x body =>
    ((lastName? body).or (lastName? x)).or (lastName? range)
  | .reduce range r x start body =>
    ((((lastName? body).or (lastName? start)).or (lastName? x)).or (lastName? r)).or
      (lastName? range)
  | .minimum range args => (lastOfAll? args).or (lastName? range)
  | .malformed range args => (lastOfAll? args).or (lastName? range)

/-- The last such name in a row of expressions. -/
def lastOfAll? : List Expr → Option Text
  | [] => none
  | e :: es => (lastOfAll? es).or (lastName? e)

/-- The last such name in the keys and values of a map. -/
def lastOfEntries? : List (Expr × Expr) → Option Text
  | [] => none
  | (k, v) :: es => ((lastOfEntries? es).or (lastName? v)).or (lastName? k)

/-- The last such name in the values of fields. -/
def lastOfFields? : List (Text × List Expr) → Option Text
  | [] => none
  | (_, es) :: fs => (lastOfFields? fs).or (lastOfAll? es)

end

end Expr

end Admission
