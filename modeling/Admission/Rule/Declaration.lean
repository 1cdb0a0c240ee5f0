import Admission.Decimal.Binary64
import Admission.Document.Basic

/-!
# Rule declarations

One entry of the validations of a schema: an expression and what is reported when it does not
hold. Three keys have a second spelling with underscores, which counts where the first spelling
is missing.

* `Declaration.ofDocument`: the declaration that a document is.
* `Declaration.Fault`: why a document is none.
-/

namespace Admission

/-- A rule as it is declared. -/
structure Declaration where
  /-- The expression that has to hold. -/
  rule : Text
  message : Option Text := none
  /-- An expression for the message. -/
  messageExpression : Option Text := none
  reason : Option Text := none
  /-- A path from the value to the part at fault. -/
  fieldPath : Option Text := none
  /-- Whether the rule is checked without an old value too. -/
  optionalOldSelf : Option Bool := none
  deriving DecidableEq, Repr

namespace Declaration

/-- What is wrong with a declaration or with the value of one of its keys. -/
inductive Problem where
  | notObject | missing | notText | notBoolean
  /-- A text or number that might have stood for a boolean, but does not. -/
  | unclearBoolean
  /-- A text with half of a surrogate pair where a word for a boolean may stand. -/
  | notUnicode
  deriving DecidableEq, Repr

/-- What is said about a problem. -/
def Problem.message : Problem → Text
  | .notObject => "Input should be a valid dictionary or instance of ValidationRule"
  | .missing => "Field required"
  | .notText => "Input should be a valid string"
  | .notBoolean => "Input should be a valid boolean"
  | .unclearBoolean => "Input should be a valid boolean, unable to interpret input"
  | .notUnicode => "Input should be a valid string, unable to parse raw data as a unicode string"

/-- A problem, at the key that has it. -/
structure Fault where
  key : Option Text
  problem : Problem
  deriving DecidableEq, Repr

/-- What is said about a fault. -/
def Fault.message (f : Fault) : Text :=
  match f.key with
  | some key => key ++ ": " ++ f.problem.message
  | none => f.problem.message

/-- A key of declarations: its name, and a second spelling if it has one. -/
structure Key where
  name : Text
  second : Option Text := none
  deriving DecidableEq, Repr

/-- The member under a key, with the spelling that it is found under. -/
def Key.member? (key : Key) (d : Document) : Option (Text × Document) :=
  ((d.member? key.name).map (key.name, ·)).or
    (key.second.bind fun name => (d.member? name).map (name, ·))

/-- The words that stand for booleans, in lower case. -/
def booleanWords : List (String × Bool) :=
  [("0", false), ("off", false), ("f", false), ("false", false), ("n", false), ("no", false),
    ("1", true), ("on", true), ("t", true), ("true", true), ("y", true), ("yes", true)]

/-- The boolean that an integer stands for. The integers of 64 bits other than 0 and 1 could have
been meant as one. -/
def booleanOfInt (n : Int) : Except Problem Bool :=
  if n = 0 then .ok false
  else if n = 1 then .ok true
  else if -9223372036854775808 ≤ n ∧ n < 9223372036854775808 then .error .unclearBoolean
  else .error .notBoolean

/-- The boolean that a document stands for: a boolean, a word, or a number that equals 0 or 1. -/
def booleanOf : Document → Except Problem Bool
  | .bool b => .ok b
  | .text (.plain s) =>
    (booleanWords.lookup (s.map Char.toLower)).elim (.error .unclearBoolean) .ok
  | .text (.half _ _ _) => .error .notUnicode
  | .int n => booleanOfInt n
  | .float x =>
    match Decimal.quotient? x with
    | some (a, b) => if a % b = 0 then booleanOfInt (a / b) else .error .notBoolean
    | none => .error .notBoolean
  | _ => .error .notBoolean

/-- The text that a document has to be. -/
def textOf : Document → Except Problem Text
  | .text s => .ok s
  | _ => .error .notText

/-- The value under a key, if there is one and it is not null. -/
def optional {α : Type} (read : Document → Except Problem α) (key : Key) (d : Document) :
    Except Fault (Option α) :=
  match key.member? d with
  | none | some (_, .null) => .ok none
  | some (name, v) =>
    match read v with
    | .ok a => .ok (some a)
    | .error p => .error ⟨some name, p⟩

/-- The text under a key that has to be there. -/
def required (key : Key) (d : Document) : Except Fault Text :=
  match key.member? d with
  | none => .error ⟨some key.name, .missing⟩
  | some (name, v) =>
    match textOf v with
    | .ok s => .ok s
    | .error p => .error ⟨some name, p⟩

/-- **The declaration that a document is.** The fault is that of the first key at fault. -/
def ofDocument (d : Document) : Except Fault Declaration :=
  match d with
  | .object _ => do
    let rule ← required ⟨"rule", none⟩ d
    let message ← optional textOf ⟨"message", none⟩ d
    let messageExpression ← optional textOf ⟨"messageExpression", some "message_expression"⟩ d
    let reason ← optional textOf ⟨"reason", none⟩ d
    let fieldPath ← optional textOf ⟨"fieldPath", some "field_path"⟩ d
    let optionalOldSelf ← optional booleanOf ⟨"optionalOldSelf", some "optional_old_self"⟩ d
    return { rule, message, messageExpression, reason, fieldPath, optionalOldSelf }
  | _ => .error ⟨none, .notObject⟩

/-- The text of a key, if it is one. -/
def textAt? (key : Text) (d : Document) : Option Text := (d.member? key).bind Document.text?

/-- What is left of a document that is no declaration: the texts among its rule, message, reason
and field path. -/
def remains (d : Document) : Declaration where
  rule := (textAt? "rule" d).getD ""
  message := textAt? "message" d
  reason := textAt? "reason" d
  fieldPath := textAt? "fieldPath" d

end Declaration

end Admission
