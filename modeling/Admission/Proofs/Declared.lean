import Admission.Proofs.Gather
import Admission.Rule.Basic

/-!
# What a declaration says

A declaration has the texts that its document has under its keys, and a document that is none
leaves the same texts behind. So the rule that becomes of a document has its text, message and
reason from the document in either case.

* `Declaration.Key.text?`: the text under a key.
* `Declaration.required_eq_ok_iff`, `Declaration.eq_text?_of_optional`: what one key is read as.
* `Declaration.says_of_ofDocument`: **a declaration says what its document does.**
* `Rule.compile_rule`, `Rule.compile_message`, `Rule.compile_reason`: the same of the rule that
  becomes of any document.
-/

namespace Admission

/-! ### Keys -/

namespace Declaration

/-- The text under a key, if it is one. -/
def Key.text? (key : Key) (d : Document) : Option Text :=
  (key.member? d).bind fun m => m.2.text?

variable {key : Key} {d : Document} {decl : Declaration}

/-- A key of one spelling has the text under its name. -/
theorem Key.text?_single (name : Text) (d : Document) :
    Key.text? ⟨name, none⟩ d = textAt? name d := by
  cases h : d.member? name <;> simp [Key.text?, Key.member?, textAt?, h]

theorem textOf_eq_ok_iff {s : Text} : textOf d = .ok s ↔ d.text? = some s := by
  cases d <;> simp [textOf, Document.text?]

/-- A key that has to be there is read as the text under it. -/
theorem required_eq_ok_iff {s : Text} : required key d = .ok s ↔ key.text? d = some s := by
  rw [required, Key.text?]
  cases key.member? d with
  | none => exact ⟨nofun, nofun⟩
  | some m =>
    obtain ⟨name, v⟩ := m
    rw [Option.bind_some, ← textOf_eq_ok_iff]
    cases h : textOf v <;> simp [h]

/-- A key that may be missing is read as the text under it, if it is one. -/
theorem eq_text?_of_optional {s : Option Text} (h : optional textOf key d = .ok s) :
    s = key.text? d := by
  rw [optional] at h
  rw [Key.text?]
  cases hm : key.member? d with
  | none =>
    rw [hm] at h
    exact (Except.ok.inj h).symm
  | some m =>
    obtain ⟨name, v⟩ := m
    rw [hm] at h
    cases v with
    | null | text => exact (Except.ok.inj h).symm
    | bool | int | float | list | object => cases h

/-! ### Declarations -/

/-- A declaration that has the texts of a document. -/
structure Says (decl : Declaration) (d : Document) : Prop where
  rule : textAt? "rule" d = some decl.rule
  message : decl.message = textAt? "message" d
  messageExpression :
    decl.messageExpression = Key.text? ⟨"messageExpression", some "message_expression"⟩ d
  reason : decl.reason = textAt? "reason" d
  fieldPath : decl.fieldPath = Key.text? ⟨"fieldPath", some "field_path"⟩ d

/-- **A declaration says what its document does.** -/
theorem says_of_ofDocument (h : ofDocument d = .ok decl) : decl.Says d := by
  cases d with
  | object members =>
    simp only [ofDocument, Except.bind_eq_ok_iff] at h
    obtain ⟨rule, hrule, message, hmessage, expression, hexpression, reason, hreason, path, hpath,
      optional, -, h⟩ := h
    obtain rfl := Except.ok.inj h
    refine ⟨?_, ?_, eq_text?_of_optional hexpression, ?_, eq_text?_of_optional hpath⟩
    · rw [← Key.text?_single]
      exact required_eq_ok_iff.1 hrule
    · rw [← Key.text?_single]
      exact eq_text?_of_optional hmessage
    · rw [← Key.text?_single]
      exact eq_text?_of_optional hreason
  | _ => cases h

end Declaration

/-! ### Rules -/

namespace Rule

open Declaration

variable {c : Context} {d : Document} {decl : Declaration}

theorem ofDeclaration_declaration (c : Context) (decl : Declaration) :
    (ofDeclaration c decl).declaration = decl := by
  unfold ofDeclaration
  generalize Program.compile c decl.rule = program
  cases program <;> rfl

/-- The rule of a declaration. -/
theorem compile_of_ok (h : ofDocument d = .ok decl) : compile c d = ofDeclaration c decl := by
  rw [compile, h]

/-- The rule of a document that is no declaration. -/
theorem compile_of_error {f : Declaration.Fault} (h : ofDocument d = .error f) :
    compile c d = ⟨remains d, .static (.invalid f)⟩ := by
  rw [compile, h]

/-- **The text of a rule** is the one under its key, and empty if there is none. -/
theorem compile_rule (c : Context) (d : Document) :
    (compile c d).declaration.rule = (textAt? "rule" d).getD "" := by
  cases h : ofDocument d with
  | ok decl => rw [compile_of_ok h, ofDeclaration_declaration, (says_of_ofDocument h).rule]; rfl
  | error f => rw [compile_of_error h]; rfl

/-- The message that a rule declares is the text under its key. -/
theorem compile_message (c : Context) (d : Document) :
    (compile c d).declaration.message = textAt? "message" d := by
  cases h : ofDocument d with
  | ok decl => rw [compile_of_ok h, ofDeclaration_declaration, (says_of_ofDocument h).message]
  | error f => rw [compile_of_error h]; rfl

/-- The reason of a rule is the text under its key. -/
theorem compile_reason (c : Context) (d : Document) :
    (compile c d).declaration.reason = textAt? "reason" d := by
  cases h : ofDocument d with
  | ok decl => rw [compile_of_ok h, ofDeclaration_declaration, (says_of_ofDocument h).reason]
  | error f => rw [compile_of_error h]; rfl

end Rule

end Admission
