import Admission.Proofs.Answer
import Admission.Proofs.Consistency

/-!
# What reports say

A rule that does not hold says what its program for the message gives, if that is a text, even the
empty one. In all other cases it says its default message: there is no such program, it has no
value or one that is no text, or the values of the place are not bound. The default message is
never empty. So a report says something about everything in it, except where a program gives the
empty text.

* `Rule.spoken?`: the text that a rule gives by its program.
* `Rule.message_of_check`: **what is said about a rule.**
* `Occasion.Explains`: an entry of a report, with what it says and why.
* `Validator.validate_explained`: **all that is reported is explained.**
* `Validator.validate_wordless`: a report that says nothing.
-/

namespace Admission

open SchemaNode

variable {σ : Type} [SchemaNode σ]

/-! ### One rule -/

namespace Rule

variable {r : Rule}

/-- The text that the program for the message gives under bindings. -/
def spoken? (r : Rule) (env : Option Bindings) : Option Text := do
  let env ← env
  let p ← r.messageExpression?
  match p.evaluate env with
  | .ok (.text _ s) => some s
  | _ => none

/-- A rule without a program gives no text. -/
theorem spoken?_of_static (h : r.expression? = none) (env : Option Bindings) :
    r.spoken? env = none := by
  have hm : r.messageExpression? = none := (r.static_of_expression?_eq_none h).1
  cases env with
  | none => rfl
  | some env => simp only [spoken?, hm]; rfl

/-- The message under bindings is the text given, if there is one, and the default else. -/
theorem messageUnder_eq (r : Rule) (env : Bindings) :
    r.messageUnder env = (r.spoken? (some env)).getD r.defaultMessage := by
  rw [messageUnder, spoken?]
  cases r.messageExpression? with
  | none => rfl
  | some p =>
    simp only [Option.bind_eq_bind, Option.bind_some]
    generalize p.evaluate env = outcome
    cases outcome with
    | error f => rfl
    | ok v => cases v <;> rfl

/-- **What is said about a rule** that does not hold: the text that its program gives, if it gives
one, and the default message else. -/
theorem message_of_check {env : Option Bindings} {hasOld : Bool} {path : Text} {e : Violation}
    (h : r.check env hasOld path = some e) :
    e.message = (r.spoken? env).getD r.defaultMessage := by
  rw [check] at h
  -- no program, no bindings, or a program that does not hold
  split at h
  · next hr =>
    rw [spoken?_of_static hr]
    obtain rfl := Option.some.inj h
    rfl
  · split at h
    · cases h
    · split at h
      · obtain rfl := Option.some.inj h
        rfl
      · next env =>
        split at h
        · cases h
        · obtain rfl := Option.some.inj h
          exact r.messageUnder_eq env

end Rule

/-! ### Reports -/

/-- The text that the program for the message gives on an occasion. -/
def Occasion.spoken? (o : Occasion σ) : Option Text := o.rule.spoken? o.visit.bindings?

/-- **An occasion that explains an entry of a report:** the rule reports it there, and what it says
comes from the first of the sources that there is. -/
structure Occasion.Explains (o : Occasion σ) (e : Violation) : Prop where
  outcome : o.outcome = some e
  /-- The program for the message, if it gives a text. -/
  spoken : ∀ s, o.spoken? = some s → e.message = s
  /-- The declared message, if it is not empty. -/
  declared : o.spoken? = none → ∀ m, o.rule.declaration.message = some m → m ≠ "" → e.message = m
  /-- What is said about the lack of a program. -/
  error : o.spoken? = none → o.rule.declaration.message.getD "" = "" →
    ∀ m, o.rule.compileError? = some m → e.message = m
  /-- The text of the rule. -/
  rule : o.spoken? = none → o.rule.declaration.message.getD "" = "" →
    o.rule.compileError? = none → e.message = "failed rule: " ++ o.rule.declaration.rule
  /-- None of them but the first is empty. -/
  empty_iff : e.message = "" ↔ o.spoken? = some (.plain "")

/-- An occasion explains what is reported there. -/
theorem Occasion.explains_of_outcome {o : Occasion σ} {e : Violation} (h : o.outcome = some e) :
    o.Explains e := by
  have hmessage : e.message = o.spoken?.getD o.rule.defaultMessage := Rule.message_of_check h
  refine ⟨h, ?_, ?_, ?_, ?_, ?_⟩
  · intro s hs
    rw [hmessage, hs, Option.getD_some]
  · intro hs m hm hne
    rw [hmessage, hs, Option.getD_none, Rule.defaultMessage_eq_declared hm hne]
  · intro hs hm m he
    rw [hmessage, hs, Option.getD_none, Rule.defaultMessage_eq_error hm he]
  · intro hs hm he
    rw [hmessage, hs, Option.getD_none, Rule.defaultMessage_eq_rule hm he]
  · rw [hmessage]
    cases o.spoken? with
    | none => exact ⟨fun he => absurd he o.rule.defaultMessage_ne_empty, nofun⟩
    | some s => exact ⟨congrArg some, Option.some.inj⟩

namespace Validator

/-- What is reported at places is explained there. -/
theorem explained_of_flatMapM_report {places : List (Visit σ)} {report : List Violation}
    (h : places.flatMapM Visit.report = .ok report) :
    ∀ e ∈ report, ∃ o ∈ places.flatMap Visit.occasions, o.Explains e := by
  intro e he
  rw [eq_answers_of_flatMapM_report h] at he
  obtain ⟨v, hv, he⟩ := List.mem_flatMap.1 he
  obtain ⟨o, ho, hoe⟩ := List.mem_filterMap.1 he
  exact ⟨o, List.mem_flatMap.2 ⟨v, hv, ho⟩, Occasion.explains_of_outcome hoe⟩

/-- **All that is reported is explained** by a rule of a visited place, under a schema document and
under a compiled schema, whatever the values: if the validation comes to an end, its report says
something about each of its entries, except where a program for the message gives the empty
text. -/
theorem validate_explained (c : Context) (schema : Document) (tree : CompiledSchema) (new : Datum)
    (old : Option Datum) :
    (∀ report, validate c schema new old = .ok report → ∀ e ∈ report,
      ∃ o ∈ (visited (RawSchema.wrap? c schema) new old).flatMap Visit.occasions, o.Explains e) ∧
    (∀ report, validateCompiled tree new old = .ok report → ∀ e ∈ report,
      ∃ o ∈ (visited (some tree) new old).flatMap Visit.occasions, o.Explains e) := by
  constructor
  · intro report h
    rw [validate_eq_visited] at h
    exact explained_of_flatMapM_report h
  · intro report h
    rw [validateCompiled_eq_visited] at h
    exact explained_of_flatMapM_report h

/-- A schema for lists, with a rule for each source of messages. -/
def outspokenSchema : Document :=
  .object [("x-kubernetes-validations", .list [
    .object [("rule", .text "size(self) > 2"),
      ("messageExpression", .text "'only ' + string(size(self))")],
    .object [("rule", .text "size(self) > 3"), ("messageExpression", .text "size(self)"),
      ("message", .text "too few")],
    .object [("rule", .text "size(self) >"), ("message", .text "")],
    .object [("rule", .text "size(self) > 4")]])]

/-- What it reports about an empty list. -/
def outspokenReport : List Violation := [
  ⟨"", "only 0", none, "size(self) > 2"⟩,
  ⟨"", "too few", none, "size(self) > 3"⟩,
  ⟨"", "failed to compile rule \"size(self) >\": not an expression", none,
    "size(self) >"⟩,
  ⟨"", "failed rule: size(self) > 4", none, "size(self) > 4"⟩]

/-- All that it reports is explained. -/
theorem validate_explained_outspoken :
    validate .plain outspokenSchema (.list []) none = .ok outspokenReport ∧
      validateCompiled (CompiledSchema.compile .plain outspokenSchema) (.list []) none =
        .ok outspokenReport ∧
      (∀ e ∈ outspokenReport,
        ∃ o ∈ (visited (RawSchema.wrap? .plain outspokenSchema) (.list []) none).flatMap
          Visit.occasions, o.Explains e) ∧
      ∀ e ∈ outspokenReport,
        ∃ o ∈ (visited (some (CompiledSchema.compile .plain outspokenSchema)) (.list [])
          none).flatMap Visit.occasions, o.Explains e := by
  have hraw : validate .plain outspokenSchema (.list []) none = .ok outspokenReport := by
    decide +kernel
  have htree : validateCompiled (CompiledSchema.compile .plain outspokenSchema) (.list []) none =
      .ok outspokenReport := by
    decide +kernel
  have hexplained := validate_explained .plain outspokenSchema
    (CompiledSchema.compile .plain outspokenSchema) (.list []) none
  exact ⟨hraw, htree, hexplained.1 _ hraw, hexplained.2 _ htree⟩

/-- A schema with a rule whose program for the message gives the empty text. -/
def wordlessSchema : Document :=
  .object [("x-kubernetes-validations",
    .list [.object [("rule", .text "false"), ("messageExpression", .text "''")]])]

/-- It reports a violation without a word, though there is a default message. -/
theorem validate_wordless :
    validate .plain wordlessSchema (.int 1) none = .ok [⟨"", "", none, "false"⟩] := by
  decide +kernel

end Validator

end Admission
