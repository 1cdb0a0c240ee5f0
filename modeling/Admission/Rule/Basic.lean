import Admission.Expr.Program
import Admission.Rule.Declaration

/-!
# Rules

A declaration with the programs of its expressions. Compiling never fails: a declaration without
a program is a rule that never holds.

* `Rule.compile`, `Rule.ofDeclaration`: the rule of a document or declaration.
* `Rule.isTransition`: whether a rule compares with an old value.
* `Rule.defaultMessage`: what is reported when no expression says it.
-/

namespace Admission

/-- The name of the value that a rule is checked on. -/
def selfName : Text := "self"

/-- The name of the old value. -/
def oldSelfName : Text := "oldSelf"

namespace Rule

/-- Why a rule has no program. -/
inductive Fault where
  | invalid (f : Declaration.Fault)
  | malformed (f : ParseFault)
  deriving DecidableEq, Repr

/-- What is said about a rule without a program. -/
def Fault.message : Fault → Text
  | .invalid f => "invalid rule definition: " ++ f.message
  | .malformed f => f.message

/-- What a rule can do: fail, or be checked by a program, with a program for the message. -/
inductive Body where
  | static (fault : Fault)
  | live (expression : Program) (messageExpression : Option Program)

end Rule

/-- A declaration and what became of it. -/
structure Rule where
  declaration : Declaration
  body : Rule.Body

namespace Rule

/-- The rule of a declaration. An expression for the message that is not well formed is
dropped. -/
def ofDeclaration (c : Context) (d : Declaration) : Rule :=
  match Program.compile c d.rule with
  | .error f => ⟨d, .static (.malformed f)⟩
  | .ok p => ⟨d, .live p (d.messageExpression.bind fun text => (Program.compile c text).toOption)⟩

/-- **The rule of a document**, whether it is a declaration or not. -/
def compile (c : Context) (d : Document) : Rule :=
  match Declaration.ofDocument d with
  | .ok declaration => ofDeclaration c declaration
  | .error f => ⟨Declaration.remains d, .static (.invalid f)⟩

/-- The program that checks a rule. -/
def expression? (r : Rule) : Option Program :=
  match r.body with
  | .static _ => none
  | .live p _ => some p

/-- The program that gives the message of a rule. -/
def messageExpression? (r : Rule) : Option Program :=
  match r.body with
  | .static _ => none
  | .live _ m => m

/-- Whether a rule has no program. -/
def isStatic (r : Rule) : Bool := r.expression?.isNone

/-- What is said about a rule without a program. -/
def compileError? (r : Rule) : Option Text :=
  match r.body with
  | .static f => some f.message
  | .live _ _ => none

/-- Whether a rule refers to the old value. -/
def isTransition (r : Rule) : Bool :=
  match r.expression? with
  | some p => p.refersTo oldSelfName
  | none => false

/-- Whether a rule is checked without an old value too. -/
def optionalOldSelf (r : Rule) : Bool := r.declaration.optionalOldSelf = some true

/-- The message that needs no evaluation: the declared one if it is not empty, else what is said
about the rule without a program, else the text of the rule. -/
def defaultMessage (r : Rule) : Text :=
  match r.declaration.message with
  | some m => if m = "" then fallback else m
  | none => fallback
where
  /-- The message of a rule that declares none. -/
  fallback : Text := r.compileError?.getD ("failed rule: " ++ r.declaration.rule)

end Rule

end Admission
