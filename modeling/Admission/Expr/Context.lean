import Admission.Library.Call

/-!
# Contexts

The functions that expressions may name. A context is a row of groups of functions; where two
groups expose one name, the later one counts, and a name that a group exposes takes the place of an
operator, built-in function or conversion of that name. A group may expose extension functions and
functions that a caller gives; what the latter do is up to the host.

* `Host`: what expressions meet outside of the language.
* `Context.function?`: the function of a name.
* `Context.call`: what a function makes of its arguments.
* `Context.standard`: the context of all groups of extension functions.
-/

namespace Admission

/-- **What expressions meet outside of the language:** the functions that a caller gives, and the
parser with its words. Nothing is known about either. -/
structure Host where
  /-- What the function of a number makes of its arguments. -/
  call : Nat → List Value → Except Library.Fault Value
  /-- What is said about a text that is not an expression. -/
  complaint : Text → Text

/-- A host whose functions are not defined on any arguments. -/
def Host.bare : Host where
  call _ _ := .error .badCall
  complaint _ := "not an expression"

/-- A named group of functions under the names that it exposes. -/
structure FunctionGroup where
  name : Text
  functions : List (Text × Callable)
  deriving DecidableEq, Repr

/-- Groups of functions, the later ones before the earlier ones, and a host. -/
structure Context where
  groups : List FunctionGroup
  host : Host

/-- A group of extension functions under their own names. -/
def FunctionGroup.ofExtensions (name : Text) (es : List Extension) : FunctionGroup :=
  ⟨name, es.map fun e => (e.name, .extension e)⟩

/-- The groups that there are: texts, lists, patterns, and functions of receivers of several
kinds. -/
def FunctionGroup.standard : List FunctionGroup :=
  [.ofExtensions "strings"
      [.charAt, .lowerAscii, .upperAscii, .trim, .replace, .split, .substring, .join],
    .ofExtensions "lists" [.isSorted, .sum, .min, .max, .slice],
    .ofExtensions "regex" [.find, .findAll],
    .ofExtensions "dispatch" [.indexOf, .lastIndexOf, .reverse]]

namespace Context

/-- The context of all groups that there are. -/
def standard (host : Host) : Context := ⟨FunctionGroup.standard, host⟩

/-- The same beside a bare host. -/
def plain : Context := standard .bare

/-- The function that the groups have for a name: that of the last group which exposes it. -/
def callable? (c : Context) (name : Text) : Option Callable :=
  c.groups.reverse.findSome? fun g => g.functions.lookup name

/-- The names that a context exposes, each one once. -/
def exposed (c : Context) : List Text :=
  (c.groups.flatMap fun g => g.functions.map Prod.fst).eraseDups

/-- The functions that every context has. -/
def builtIn? (name : Text) : Option Function :=
  ((BuiltIn.all.lookup name).map .builtIn).or ((Kind.named.lookup name).map .conversion)

/-- **The function of a name** in a context. -/
def function? (c : Context) (name : Text) : Option Function :=
  ((c.callable? name).map .callable).or (builtIn? name)

/-- **What a function makes of its arguments** in a context. -/
def call (c : Context) : Callable → List Value → Except Library.Fault Value
  | .extension e => Library.apply e
  | .given number => c.host.call number

end Context

end Admission
