import Admission.Proofs.Declared
import Admission.Proofs.Transition

/-!
# Rules are consistent

A rule can be without a program for two reasons: its document is no declaration, or its text is no
expression. The expression for the message may be missing or malformed on top of either. Whatever
comes together, the parts of a rule agree with each other and with the document.

* `Rule.Fault.message_ne_empty`, `Rule.defaultMessage_ne_empty`: something is always said.
* `Rule.defaultMessage_eq_declared`, `Rule.defaultMessage_eq_error`, `Rule.defaultMessage_eq_rule`:
  which message is the default.
* `Rule.Origin`, `Rule.origin_compile`: the three ways in which a document becomes a rule.
* `Rule.Consistent`, `Rule.compile_consistent`: **every compiled rule is consistent.**
-/

namespace Admission

/-! ### Messages -/

/-- A text that starts with a text that is not empty is not empty. -/
theorem append_ne_empty {s t : Text} (h : s ≠ "") : s ++ t ≠ "" :=
  fun he => h (Text.append_eq_empty_iff.1 he).1

/-- Whatever the parser says, something is said. -/
theorem ParseFault.message_ne_empty (f : ParseFault) : f.message ≠ "" :=
  append_ne_empty (append_ne_empty (append_ne_empty (by decide)))

namespace Rule

variable {r : Rule}

theorem Fault.message_ne_empty (f : Fault) : f.message ≠ "" := by
  cases f with
  | invalid f => exact append_ne_empty (by decide)
  | malformed f => exact f.message_ne_empty

/-- The message of a rule that declares none: what is said about the rule without a program, else
its text. -/
theorem fallback_eq (r : Rule) : defaultMessage.fallback r =
    r.compileError?.getD ("failed rule: " ++ r.declaration.rule) := rfl

/-- A rule has a program or something is said about the lack of one. -/
theorem isSome_expression?_iff (r : Rule) : r.expression?.isSome ↔ r.compileError? = none := by
  obtain ⟨declaration, body⟩ := r
  cases body with
  | static f => exact ⟨nofun, nofun⟩
  | live p m => exact ⟨fun _ => rfl, fun _ => rfl⟩

/-- Without a program there is none for the message, and no reference to the old value. -/
theorem static_of_expression?_eq_none (r : Rule) (h : r.expression? = none) :
    r.messageExpression? = none ∧ ¬ r.isTransition := by
  obtain ⟨declaration, body⟩ := r
  cases body with
  | static f => exact ⟨rfl, nofun⟩
  | live p m => cases h

theorem fallback_ne_empty (r : Rule) : defaultMessage.fallback r ≠ "" := by
  obtain ⟨declaration, body⟩ := r
  cases body with
  | static f => exact f.message_ne_empty
  | live p m => exact append_ne_empty (by decide)

/-- A message that is declared and not empty is the default. -/
theorem defaultMessage_eq_declared {m : Text} (h : r.declaration.message = some m)
    (hm : m ≠ "") : r.defaultMessage = m := by
  rw [defaultMessage, h]
  exact if_neg hm

/-- An empty message counts as none. -/
theorem defaultMessage_eq_fallback (h : r.declaration.message.getD "" = "") :
    r.defaultMessage = defaultMessage.fallback r := by
  rw [defaultMessage]
  cases hm : r.declaration.message with
  | none => rfl
  | some m =>
    rw [hm] at h
    exact if_pos h

/-- Without a declared message, a rule without a program says why it has none. -/
theorem defaultMessage_eq_error {m : Text} (h : r.declaration.message.getD "" = "")
    (he : r.compileError? = some m) : r.defaultMessage = m := by
  rw [defaultMessage_eq_fallback h, fallback_eq, he, Option.getD_some]

/-- Without a declared message, a rule with a program says its text. -/
theorem defaultMessage_eq_rule (h : r.declaration.message.getD "" = "")
    (he : r.compileError? = none) : r.defaultMessage = "failed rule: " ++ r.declaration.rule := by
  rw [defaultMessage_eq_fallback h, fallback_eq, he, Option.getD_none]

/-- **The default message of a rule is never empty.** -/
theorem defaultMessage_ne_empty (r : Rule) : r.defaultMessage ≠ "" := by
  by_cases h : r.declaration.message.getD "" = ""
  · rw [defaultMessage_eq_fallback h]
    exact r.fallback_ne_empty
  · cases hm : r.declaration.message with
    | none =>
      rw [hm] at h
      exact absurd rfl h
    | some m =>
      rw [hm] at h
      rw [defaultMessage_eq_declared hm h]
      exact h

/-! ### How a rule comes about -/

variable {c : Context} {d : Document}

/-- The three ways in which a document becomes a rule. -/
inductive Origin (c : Context) (d : Document) : Rule → Prop where
  /-- The document is no declaration. -/
  | invalid {f : Declaration.Fault} (h : Declaration.ofDocument d = .error f) :
    Origin c d ⟨Declaration.remains d, .static (.invalid f)⟩
  /-- The document is a declaration, and its text no expression. -/
  | malformed {decl : Declaration} {f : ParseFault} (h : Declaration.ofDocument d = .ok decl)
    (hf : Program.compile c decl.rule = .error f) : Origin c d ⟨decl, .static (.malformed f)⟩
  /-- The document is a declaration, and its text an expression. What is no expression for the
  message is dropped. -/
  | live {decl : Declaration} {p : Program} (h : Declaration.ofDocument d = .ok decl)
    (hp : Program.compile c decl.rule = .ok p) :
    Origin c d ⟨decl, .live p
      (decl.messageExpression.bind fun text => (Program.compile c text).toOption)⟩

/-- **Every document becomes a rule in one of the three ways.** -/
theorem origin_compile (c : Context) (d : Document) : Origin c d (compile c d) := by
  cases h : Declaration.ofDocument d with
  | error f =>
    rw [compile_of_error h]
    exact .invalid h
  | ok decl =>
    rw [compile_of_ok h]
    unfold ofDeclaration
    generalize hp : Program.compile c decl.rule = program
    cases program with
    | error f => exact .malformed h hp
    | ok p => exact .live h hp

/-! ### Consistency -/

/-- **A rule whose parts agree** with each other and with the document that it comes from. -/
structure Consistent (c : Context) (d : Document) (r : Rule) : Prop where
  /-- It has a program unless something is said about the lack of one. -/
  program_iff : r.expression?.isSome ↔ r.compileError? = none
  /-- Without a program there is none for the message either, and no old value to compare with. -/
  static : r.expression? = none → r.messageExpression? = none ∧ ¬ r.isTransition
  /-- What is said about the lack of a program is why the document is no declaration, or else why
  its text is no expression. -/
  error_iff : ∀ e, r.compileError? = some e ↔
    (∃ f, Declaration.ofDocument d = .error f ∧ e = (Fault.invalid f).message) ∨
    (∃ decl f, Declaration.ofDocument d = .ok decl ∧ Program.compile c decl.rule = .error f ∧
      e = f.message)
  /-- The program is that of the text under the key for rules, in a declaration. -/
  expression_iff : ∀ p, r.expression? = some p ↔
    (∃ decl, Declaration.ofDocument d = .ok decl) ∧
      ∃ text, Declaration.textAt? "rule" d = some text ∧ Program.compile c text = .ok p
  /-- Beside a program, the one for the message is that of the text under its key. -/
  messageExpression_iff : r.expression?.isSome → ∀ q, r.messageExpression? = some q ↔
    ∃ text, Declaration.Key.text? ⟨"messageExpression", some "message_expression"⟩ d = some text ∧
      Program.compile c text = .ok q
  /-- Whether it compares with the old value is for the references of its program to tell, whatever
  the one for the message refers to. -/
  transition_iff : ∀ p, r.expression? = some p → (r.isTransition ↔ oldSelfName ∈ p.references)
  /-- The default message says something. -/
  message_ne_empty : r.defaultMessage ≠ ""
  /-- It is the declared message, if there is one and it says something. -/
  message_declared : ∀ m, Declaration.textAt? "message" d = some m → m ≠ "" → r.defaultMessage = m
  /-- Else it is what is said about the lack of a program. -/
  message_error : (Declaration.textAt? "message" d).getD "" = "" → ∀ e, r.compileError? = some e →
    r.defaultMessage = e
  /-- Else it has the text of the rule. -/
  message_rule : (Declaration.textAt? "message" d).getD "" = "" → r.compileError? = none →
    r.defaultMessage = "failed rule: " ++ (Declaration.textAt? "rule" d).getD ""
  /-- A declaration becomes the same rule, however it is written as a document. -/
  declaration : ∀ decl, Declaration.ofDocument d = .ok decl → ofDeclaration c decl = r

namespace Origin

variable {r : Rule}

theorem error_iff (h : Origin c d r) (e : Text) : r.compileError? = some e ↔
    (∃ f, Declaration.ofDocument d = .error f ∧ e = (Fault.invalid f).message) ∨
    (∃ decl f, Declaration.ofDocument d = .ok decl ∧ Program.compile c decl.rule = .error f ∧
      e = f.message) := by
  -- the document is read in one way only, and so is its text
  cases h with
  | invalid h =>
    constructor
    · intro he
      exact .inl ⟨_, h, (Option.some.inj he).symm⟩
    · rintro (⟨f', h', rfl⟩ | ⟨decl', _, h', _⟩)
      · rw [Except.error.inj (h.symm.trans h')]; rfl
      · rw [h] at h'; cases h'
  | malformed h hf =>
    constructor
    · intro he
      exact .inr ⟨_, _, h, hf, (Option.some.inj he).symm⟩
    · rintro (⟨f', h', _⟩ | ⟨decl', f', h', hf', rfl⟩)
      · rw [h] at h'; cases h'
      · obtain rfl := Except.ok.inj (h.symm.trans h')
        rw [Except.error.inj (hf.symm.trans hf')]; rfl
  | live h hp =>
    refine ⟨nofun, ?_⟩
    rintro (⟨f', h', _⟩ | ⟨decl', f', h', hf', _⟩)
    · rw [h] at h'; cases h'
    · obtain rfl := Except.ok.inj (h.symm.trans h')
      rw [hp] at hf'; cases hf'

theorem expression_iff (h : Origin c d r) (p : Program) : r.expression? = some p ↔
    (∃ decl, Declaration.ofDocument d = .ok decl) ∧
      ∃ text, Declaration.textAt? "rule" d = some text ∧ Program.compile c text = .ok p := by
  cases h with
  | invalid h =>
    refine ⟨nofun, ?_⟩
    rintro ⟨⟨decl', h'⟩, _⟩
    rw [h] at h'; cases h'
  | malformed h hf =>
    refine ⟨nofun, ?_⟩
    rintro ⟨_, text, htext, hp⟩
    obtain rfl := Option.some.inj ((Declaration.says_of_ofDocument h).rule.symm.trans htext)
    rw [hf] at hp; cases hp
  | live h hp =>
    have hrule := (Declaration.says_of_ofDocument h).rule
    constructor
    · intro he
      obtain rfl := Option.some.inj he
      exact ⟨⟨_, h⟩, _, hrule, hp⟩
    · rintro ⟨_, text, htext, hp'⟩
      obtain rfl := Option.some.inj (hrule.symm.trans htext)
      exact congrArg some (Except.ok.inj (hp.symm.trans hp'))

theorem messageExpression_iff (h : Origin c d r) (hr : r.expression?.isSome) (q : Program) :
    r.messageExpression? = some q ↔
    ∃ text, Declaration.Key.text? ⟨"messageExpression", some "message_expression"⟩ d = some text ∧
      Program.compile c text = .ok q := by
  cases h with
  | invalid | malformed => cases hr
  | live h hp =>
    rw [← (Declaration.says_of_ofDocument h).messageExpression]
    change Option.bind _ _ = _ ↔ _
    simp only [Option.bind_eq_some_iff, Except.toOption_eq_some_iff]

end Origin

/-- **Every compiled rule is consistent** with itself and with its document, be that a declaration
or not. -/
theorem compile_consistent (c : Context) (d : Document) : Consistent c d (compile c d) where
  program_iff := (compile c d).isSome_expression?_iff
  static := (compile c d).static_of_expression?_eq_none
  error_iff := (origin_compile c d).error_iff
  expression_iff := (origin_compile c d).expression_iff
  messageExpression_iff := (origin_compile c d).messageExpression_iff
  transition_iff _ := isTransition_iff
  message_ne_empty := (compile c d).defaultMessage_ne_empty
  message_declared m h := defaultMessage_eq_declared ((compile_message c d).trans h)
  message_error h e he := by
    rw [← compile_message c d] at h
    exact defaultMessage_eq_error h he
  message_rule h he := by
    rw [← compile_message c d] at h
    rw [defaultMessage_eq_rule h he, compile_rule]
  declaration _ h := (compile_of_ok h).symm

end Rule

end Admission
