import Admission.Expr.Eval
import Admission.Expr.Reader

/-!
# Programs

An expression read from its text, together with the context that it is evaluated in.

* `Program.compile`: the program of a text.
* `Program.references`: the names that stand for variables in it, those that its macros bind
  included.
* `Program.evaluate`: its value under bindings.
-/

namespace Admission

/-- A text that is not an expression, with what the parser says about it. -/
structure ParseFault where
  text : Text
  detail : Text
  deriving DecidableEq, Repr

/-- What is said about a text that is not an expression. -/
def ParseFault.message (f : ParseFault) : Text :=
  "failed to compile rule \"" ++ f.text ++ "\": " ++ f.detail

/-- The text of an expression that has no value under its bindings. Why it has none is told to
nobody. -/
structure EvaluationFault where
  text : Text
  deriving DecidableEq, Repr

/-- An expression with its text and context. -/
structure Program where
  text : Text
  context : Context
  expr : Expr

namespace Program

/-- **The program of a text** in a context. Whether there is one does not depend on the
context. -/
def compile (c : Context) (text : Text) : Except ParseFault Program :=
  match Expr.read? text with
  | some e => .ok ⟨text, c, e⟩
  | none => .error ⟨text, c.host.complaint text⟩

/-- The names that stand for variables in a program, each one once and in order. -/
def references (p : Program) : List Text :=
  p.expr.names.eraseDups.mergeSort fun a b => decide (a ≤ b)

/-- Whether a name stands for a variable in a program. -/
def refersTo (p : Program) (name : Text) : Bool := p.expr.names.contains name

/-- **The value of a program** under bindings. -/
def evaluate (p : Program) (bindings : Bindings) : Except EvaluationFault Value :=
  match p.expr.eval p.context ⟨bindings, []⟩ with
  | .ok v => if v.isError then .error ⟨p.text⟩ else .ok v
  | .error _ => .error ⟨p.text⟩

end Program

end Admission
