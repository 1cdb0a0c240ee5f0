import Admission.Text.Basic

/-!
# Kinds and functions

The kinds of values and the functions that expressions may name. A value is typed when it
carries a type of the expression language, and bare when an operation gave back only its
contents; the two have different kinds.

* `Kind.name`: the name a kind is shown under.
* `Operator.name`: the name under which an operator is looked up, so that a function of that
  name may take its place.
* `Callable`: the functions that a caller may put under names of its own.
* `Function`: everything that a name may stand for beside a variable.
-/

namespace Admission

/-- Whether a value carries a type of the language or only its contents. -/
inductive Origin where
  | typed
  | bare
  deriving DecidableEq, Repr

/-- What the keys of a map are for. -/
inductive Shape where
  /-- Keys of any kind. -/
  | plain
  /-- The names of the fields of a message. -/
  | message
  deriving DecidableEq, Repr

/-- What kind of thing a value is. -/
inductive Kind where
  | null
  | bool
  /-- Booleans without a type of the language. -/
  | truth
  | int (origin : Origin)
  | uint
  | double (origin : Origin)
  | text (origin : Origin)
  | bytes (origin : Origin)
  | list (origin : Origin)
  | map (shape : Shape)
  | timestamp
  | duration (origin : Origin)
  /-- The kind of a kind. -/
  | kind
  | function
  /-- The kind of what holds further names. -/
  | scope
  deriving DecidableEq, Repr

/-- The name a kind is shown under. -/
def Kind.name : Kind → Text
  | .null => "NoneType"
  | .bool => "BoolType"
  | .truth => "bool"
  | .int .typed => "IntType"
  | .int .bare => "int"
  | .uint => "UintType"
  | .double .typed => "DoubleType"
  | .double .bare => "float"
  | .text .typed => "StringType"
  | .text .bare => "str"
  | .bytes .typed => "BytesType"
  | .bytes .bare => "bytes"
  | .list .typed => "ListType"
  | .list .bare => "list"
  | .map .plain => "MapType"
  | .map .message => "MessageType"
  | .timestamp => "TimestampType"
  | .duration .typed => "DurationType"
  | .duration .bare => "timedelta"
  | .kind => "TypeType"
  | .function => "function"
  | .scope => "NameContainer"

/-- Whether values of a kind carry a type of the language. -/
def Kind.isTyped : Kind → Bool
  | .null | .truth | .function | .scope => false
  | .int o | .double o | .text o | .bytes o | .list o | .duration o => o = .typed
  | _ => true

/-- The operators of the language. -/
inductive Operator where
  | add | sub | mul | div | mod | negate
  | not | and | or | choose
  | less | lessEq | greater | greaterEq | equal | notEqual | member
  | index
  deriving DecidableEq, Repr

/-- The name under which an operator is looked up. -/
def Operator.name : Operator → Text
  | .add => "_+_"
  | .sub => "_-_"
  | .mul => "_*_"
  | .div => "_/_"
  | .mod => "_%_"
  | .negate => "-_"
  | .not => "!_"
  | .and => "_&&_"
  | .or => "_||_"
  | .choose => "_?_:_"
  | .less => "_<_"
  | .lessEq => "_<=_"
  | .greater => "_>_"
  | .greaterEq => "_>=_"
  | .equal => "_==_"
  | .notEqual => "_!=_"
  | .member => "_in_"
  | .index => "_[_]"

/-- All operators. -/
def Operator.all : List Operator :=
  [.add, .sub, .mul, .div, .mod, .negate, .not, .and, .or, .choose, .less, .lessEq, .greater,
    .greaterEq, .equal, .notEqual, .member, .index]

/-- A part of a timestamp, or a total of a duration. -/
inductive Part where
  | fullYear | month | date | dayOfMonth | dayOfWeek | dayOfYear
  | hours | minutes | seconds | milliseconds
  deriving DecidableEq, Repr

/-- The functions that every expression may call. -/
inductive BuiltIn where
  | size | contains | startsWith | endsWith | matches
  | part (p : Part)
  deriving DecidableEq, Repr

/-- All built-in functions under their names. -/
def BuiltIn.all : List (Text × BuiltIn) :=
  [("size", .size), ("contains", .contains), ("startsWith", .startsWith),
    ("endsWith", .endsWith), ("matches", .matches), ("getFullYear", .part .fullYear),
    ("getMonth", .part .month), ("getDate", .part .date), ("getDayOfMonth", .part .dayOfMonth),
    ("getDayOfWeek", .part .dayOfWeek), ("getDayOfYear", .part .dayOfYear),
    ("getHours", .part .hours), ("getMinutes", .part .minutes), ("getSeconds", .part .seconds),
    ("getMilliseconds", .part .milliseconds)]

/-- The kinds that a name stands for; calling one converts to it. -/
def Kind.named : List (Text × Kind) :=
  [("bool", .bool), ("bytes", .bytes .typed), ("double", .double .typed),
    ("duration", .duration .typed), ("int", .int .typed), ("list", .list .typed),
    ("map", .map .plain),
    ("null_type", .null), ("string", .text .typed), ("timestamp", .timestamp), ("uint", .uint),
    ("type", .kind)]

/-- The kinds that have a name inside a scope. -/
def Kind.qualified : List (Text × Kind) :=
  [("google.protobuf.Int32Value", .int .typed), ("google.protobuf.UInt32Value", .uint),
    ("google.protobuf.Int64Value", .int .typed), ("google.protobuf.UInt64Value", .uint),
    ("google.protobuf.FloatValue", .double .typed),
    ("google.protobuf.DoubleValue", .double .typed), ("google.protobuf.BoolValue", .bool),
    ("google.protobuf.BytesValue", .bytes .typed), ("google.protobuf.StringValue", .text .typed),
    ("google.protobuf.ListValue", .list .typed), ("google.protobuf.Struct", .map .message)]

/-- The functions that come in groups and may be left out. -/
inductive Extension where
  | charAt | lowerAscii | upperAscii | trim | replace | split | substring | join
  | isSorted | sum | min | max | slice
  | find | findAll
  | indexOf | lastIndexOf | reverse
  deriving DecidableEq, Repr

/-- The own name of an extension function. -/
def Extension.name : Extension → Text
  | .charAt => "charAt"
  | .lowerAscii => "lowerAscii"
  | .upperAscii => "upperAscii"
  | .trim => "trim"
  | .replace => "replace"
  | .split => "split"
  | .substring => "substring"
  | .join => "join"
  | .isSorted => "isSorted"
  | .sum => "sum"
  | .min => "min"
  | .max => "max"
  | .slice => "slice"
  | .find => "find"
  | .findAll => "findAll"
  | .indexOf => "indexOf"
  | .lastIndexOf => "lastIndexOf"
  | .reverse => "reverse"

/-- All extension functions. -/
def Extension.all : List Extension :=
  [.charAt, .lowerAscii, .upperAscii, .trim, .replace, .split, .substring, .join, .isSorted, .sum,
    .min, .max, .slice, .find, .findAll, .indexOf, .lastIndexOf, .reverse]

/-- The extension function of a name. -/
def Extension.ofName? (name : Text) : Option Extension := all.find? fun e => e.name = name

/-- A function that a group may expose: an extension function, or one that the caller gives. Of
those that a caller gives each has a number of its own, and what they do is not known here. -/
inductive Callable where
  | extension (e : Extension)
  | given (number : Nat)
  deriving DecidableEq, Repr

/-- What a name may stand for beside a variable. -/
inductive Function where
  | operator (o : Operator)
  | builtIn (b : BuiltIn)
  | conversion (k : Kind)
  | callable (f : Callable)
  deriving DecidableEq, Repr

end Admission
