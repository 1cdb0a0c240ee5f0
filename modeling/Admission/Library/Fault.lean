import Admission.Value.Access
import Admission.Value.Arithmetic
import Admission.Value.Display

/-!
# Arguments of extension functions

Why a call of an extension function has no result, and the readings of arguments that the
functions share.

* `Library.Fault`: the reasons, and `Fault.message?` what is said about them.
* `requireInt`: an argument that has to be an integer.
-/

namespace Admission.Library

/-- What an integer argument is for. -/
inductive Role where
  | index | limit | start | stop | offset
  deriving DecidableEq, Repr

/-- The word for the use of an integer argument. -/
def Role.name : Role → Text
  | .index => "index"
  | .limit => "limit"
  | .start => "start"
  | .stop => "end"
  | .offset => "offset"

/-- An integer argument of a function. -/
structure Parameter where
  function : Extension
  role : Role
  deriving DecidableEq, Repr

/-- How an integer argument is called. -/
def Parameter.name (p : Parameter) : Text := p.function.name ++ " " ++ p.role.name

/-- Why a call has no result. -/
inductive Fault where
  /-- An argument of this kind stands where an integer has to be. -/
  | notInt (p : Parameter) (found : Kind)
  /-- A place lies outside the text. -/
  | outside (p : Parameter) (i : Int)
  /-- A stretch lies outside the text or list. -/
  | outsideRange (e : Extension) (start stop : Int)
  /-- A stretch ends before it starts. -/
  | reversed (e : Extension) (start stop : Int)
  /-- A value of this kind stands among the texts to be joined. -/
  | notText (found : Kind)
  /-- A value of this kind stands among the numbers of another kind. -/
  | mixed (found : Kind)
  /-- The function asks for at least one item. -/
  | empty (e : Extension)
  /-- The function is not defined on receivers of this kind. -/
  | unsupported (e : Extension) (found : Kind)
  /-- A sum does not fit its type, a separator is empty, or octets are not UTF-8. -/
  | badContents
  /-- The number or the kinds of the arguments do not fit the function. -/
  | badCall
  /-- The function is not defined on values of the kind of the receiver at all. -/
  | inapplicable
  /-- The pattern is not well formed. -/
  | badPattern
  /-- A count or a result is beyond every bound. -/
  | overflow
  deriving DecidableEq, Repr

/-- What is said about a fault; the faults of contents, calls and patterns are not described. -/
def Fault.message? : Fault → Option Text
  | .notInt p found => some (p.name ++ " must be an int, got " ++ found.name)
  | .outside p i => some (p.name ++ " out of range: " ++ toString i)
  | .outsideRange e start stop =>
    some (e.name ++ " index out of range: [" ++ toString start ++ ":" ++ toString stop ++ "]")
  | .reversed e start stop =>
    some (e.name ++ " start " ++ toString start ++ " is after end " ++ toString stop)
  | .notText found => some ("join requires a list of strings, found " ++ found.name)
  | .mixed found => some ("sum requires homogeneous numbers, found " ++ found.name)
  | .empty e => some (e.name ++ " called on an empty list")
  | .unsupported e found => some (e.name ++ " not supported on " ++ found.name)
  | .badContents | .badCall | .inapplicable | .badPattern | .overflow => none

/-- The integer that an argument stands for. A boolean without a type stands for none, but one with
the type of the language for its number. -/
def argument? : Value → Option Int
  | .truth _ => none
  | v => v.whole?

/-- The integer that an argument has to be. -/
def requireInt (p : Parameter) (v : Value) : Except Fault Int :=
  match argument? v with
  | some n => .ok n
  | none => .error (.notInt p v.kindOf)

/-- An answer that a call has to have. -/
def orBadCall {α : Type} : Option α → Except Fault α
  | some a => .ok a
  | none => .error .badCall

/-- The number of elements of a value that has some. -/
def lengthOf : Value → Except Fault Nat
  | .null => .error .badCall
  | v => orBadCall v.size?

/-- The elements of a value that has some. -/
def elementsOf (v : Value) : Except Fault (List Value) := orBadCall v.elements?

/-- The text of a value as a result. -/
def textOf (v : Value) : Except Fault Value :=
  match v.plainText? with
  | some s => .ok (.ofString s)
  | none => .error .badContents

/-- The text that an argument has to be. -/
def contentsOf : Value → Except Fault Text
  | .text _ s => .ok s
  | _ => .error .badCall

/-- The greatest count that a count argument may have, that of 63 bits. -/
def greatestCount : Int := 9223372036854775807

/-- How often something may happen under a limit: any number of times (at most `any`) if the
limit is negative. -/
def times (limit : Int) (any : Nat) : Except Fault Nat :=
  if limit < 0 then .ok any else if limit > greatestCount then .error .overflow else .ok limit.toNat

end Admission.Library
