import Mathlib.Data.List.Forall2
import Admission.Proofs.Entries

/-!
# Messages never decide

The words of a declaration are its message, the expression for its message, and its reason. They
are said when a rule does not hold, but have no part in whether it holds, nor in where it does not.

* `Declaration.unworded`, `Rule.unworded`, `Document.unworded`: a declaration, a rule and an entry
  without their words.
* `Rule.unworded_compile`: an entry without its words declares the rule that it declares, but for
  the words.
* `Violation.subject`, `Rule.subject_check`: without its words, a rule reports violations of the
  same subjects.
* `Document.rulesUnworded`: a schema without the words of its declarations.
* `Validator.validate_reworded`: **schemas that differ in words only report violations of the same
  rules at the same paths.**
-/

namespace Admission

open SchemaNode

/-! ### Declarations without words -/

namespace Declaration

/-- The declaration without its words. -/
def unworded (d : Declaration) : Declaration :=
  { d with message := none, messageExpression := none, reason := none }

/-- The keys of words, in all their spellings. -/
def wordKeys : List Text := ["message", "messageExpression", "message_expression", "reason"]

end Declaration

namespace Document

/-- Whether a document can stand for a word: any text, or null for none. -/
def isWord : Document → Bool
  | .null | .text _ => true
  | _ => false

/-- Whether all that members have under the keys of words can stand there. -/
def wellWorded (members : List (Text × Document)) : Bool :=
  members.all fun m => !Declaration.wordKeys.contains m.1 || m.2.isWord

/-- The members that are no words. -/
def withoutWords (members : List (Text × Document)) : List (Text × Document) :=
  members.filter fun m => !Declaration.wordKeys.contains m.1

/-- **The entry without its words.** An entry that has something else in the place of a word is left
as it is. -/
def unworded : Document → Document
  | .object members => .object (if wellWorded members then withoutWords members else members)
  | d => d

/-- A rule with a message and no reason. -/
example : (object [("message", .text "too small"), ("rule", .text "self > 1"),
    ("reason", .null)]).unworded = .object [("rule", .text "self > 1")] := rfl

/-- What is under a key of a word can stand there, if that is so of all words. -/
theorem isWord_of_member? {members : List (Text × Document)} (hw : wellWorded members)
    {key : Text} (hk : key ∈ Declaration.wordKeys) {d : Document}
    (hd : (object members).member? key = some d) : d.isWord := by
  have h := List.all_eq_true.1 hw (key, d) (mem_of_lookup hd)
  simpa [hk] using h

/-- Where there are no words, all words are well. -/
theorem wellWorded_withoutWords (members : List (Text × Document)) :
    wellWorded (withoutWords members) := by
  rw [wellWorded, withoutWords, List.all_filter]
  refine List.all_eq_true.2 fun m _ => ?_
  cases Declaration.wordKeys.contains m.1 <;> rfl

/-- What is under all other keys is left as it is. -/
theorem lookup_withoutWords {key : Text} (hk : key ∉ Declaration.wordKeys)
    (members : List (Text × Document)) :
    (withoutWords members).lookup key = members.lookup key := by
  rw [withoutWords]
  induction members with
  | nil => rfl
  | cons m rest ih =>
    obtain ⟨k, d⟩ := m
    by_cases h : key = k
    · subst h
      simp [hk]
    · rw [List.lookup_cons, beq_false_of_ne h, List.filter_cons]
      split
      · rw [List.lookup_cons, beq_false_of_ne h]
        exact ih
      · exact ih

theorem member?_unworded {key : Text} (hk : key ∉ Declaration.wordKeys) (d : Document) :
    d.unworded.member? key = d.member? key := by
  cases d with
  | object members =>
    rw [unworded, member?, member?]
    split
    · exact lookup_withoutWords hk members
    · rfl
  | _ => rfl

end Document

namespace Declaration

open Document

/-- The spellings of a key. -/
def Key.spellings (key : Key) : List Text := key.name :: key.second.toList

theorem Key.member?_unworded {key : Key} (hk : ∀ name ∈ key.spellings, name ∉ wordKeys)
    (d : Document) : key.member? d.unworded = key.member? d := by
  obtain ⟨name, second⟩ := key
  rw [member?, member?, Document.member?_unworded (hk name List.mem_cons_self)]
  cases second with
  | none => rfl
  | some second =>
    have hs : second ∉ wordKeys := hk second (by simp [spellings])
    simp only [Option.bind_some, Document.member?_unworded hs]

/-- What is found under a key is found under a spelling of it. -/
theorem Key.mem_spellings {key : Key} {d v : Document} {name : Text}
    (h : key.member? d = some (name, v)) : name ∈ key.spellings ∧ d.member? name = some v := by
  rw [member?, Option.or_eq_some_iff] at h
  rcases h with h | ⟨-, h⟩
  · obtain ⟨w, hw, heq⟩ := Option.map_eq_some_iff.1 h
    cases heq
    exact ⟨List.mem_cons_self, hw⟩
  · obtain ⟨second, hs, h⟩ := Option.bind_eq_some_iff.1 h
    obtain ⟨w, hw, heq⟩ := Option.map_eq_some_iff.1 h
    cases heq
    exact ⟨by simp [spellings, hs], hw⟩

/-- Words can be read. -/
theorem exists_optional_textOf {members : List (Text × Document)} (hw : wellWorded members)
    (key : Key) (hk : ∀ name ∈ key.spellings, name ∈ wordKeys) :
    ∃ word, optional textOf key (.object members) = .ok word := by
  rw [optional]
  cases hm : key.member? (.object members) with
  | none => exact ⟨none, rfl⟩
  | some m =>
    obtain ⟨name, v⟩ := m
    obtain ⟨hname, hv⟩ := Key.mem_spellings hm
    have hword := isWord_of_member? hw (hk name hname) hv
    cases v with
    | null => exact ⟨none, rfl⟩
    | text s => exact ⟨some s, rfl⟩
    | _ => cases hword

/-- The declaration that an object is but for its words, which are not looked at. -/
def ofDocumentUnworded (d : Document) : Except Fault Declaration := do
  let rule ← required ⟨"rule", none⟩ d
  let fieldPath ← optional textOf ⟨"fieldPath", some "field_path"⟩ d
  let optionalOldSelf ← optional booleanOf ⟨"optionalOldSelf", some "optional_old_self"⟩ d
  return { rule, fieldPath, optionalOldSelf }

/-- **Words are never at fault,** and nothing else depends on them. -/
theorem ofDocument_of_wellWorded {members : List (Text × Document)} (hw : wellWorded members) :
    (ofDocument (.object members)).map unworded = ofDocumentUnworded (.object members) := by
  obtain ⟨message, hm⟩ := exists_optional_textOf hw ⟨"message", none⟩ (by decide)
  obtain ⟨expression, he⟩ := exists_optional_textOf hw
    ⟨"messageExpression", some "message_expression"⟩ (by decide)
  obtain ⟨reason, hr⟩ := exists_optional_textOf hw ⟨"reason", none⟩ (by decide)
  rw [ofDocument, ofDocumentUnworded, hm, he, hr]
  cases required ⟨"rule", none⟩ (.object members) with
  | error f => rfl
  | ok rule =>
    cases optional textOf ⟨"fieldPath", some "field_path"⟩ (.object members) with
    | error f => rfl
    | ok fieldPath =>
      cases optional booleanOf ⟨"optionalOldSelf", some "optional_old_self"⟩ (.object members) with
      | error f => rfl
      | ok optionalOldSelf => rfl

theorem ofDocumentUnworded_unworded (d : Document) :
    ofDocumentUnworded d.unworded = ofDocumentUnworded d := by
  rw [ofDocumentUnworded, ofDocumentUnworded, required, required, optional, optional, optional,
    optional, Key.member?_unworded (by decide), Key.member?_unworded (by decide),
    Key.member?_unworded (by decide)]

/-- **An entry without its words is the declaration that it is,** but for the words. -/
theorem ofDocument_unworded (d : Document) :
    (ofDocument d.unworded).map unworded = (ofDocument d).map unworded := by
  cases d with
  | object members =>
    by_cases hw : wellWorded members
    · have hd : (object members).unworded = object (withoutWords members) := by
        rw [Document.unworded, if_pos hw]
      rw [ofDocument_of_wellWorded hw, ← ofDocumentUnworded_unworded, hd,
        ofDocument_of_wellWorded (wellWorded_withoutWords members)]
    · rw [Document.unworded, if_neg hw]
  | _ => rfl

/-- The same of what is left of an entry that is no declaration. -/
theorem remains_unworded (d : Document) : (remains d.unworded).unworded = (remains d).unworded := by
  have hrule : d.unworded.member? "rule" = d.member? "rule" :=
    Document.member?_unworded (by decide) d
  have hpath : d.unworded.member? "fieldPath" = d.member? "fieldPath" :=
    Document.member?_unworded (by decide) d
  simp only [unworded, remains, textAt?, hrule, hpath]

end Declaration

/-! ### Rules without words -/

namespace Rule

/-- The rule without its words. -/
def unworded (r : Rule) : Rule where
  declaration := r.declaration.unworded
  body :=
    match r.body with
    | .static f => .static f
    | .live p _ => .live p none

/-- The rule of a declaration without words says nothing of its own. -/
theorem unworded_ofDeclaration (c : Context) (d : Declaration) :
    (ofDeclaration c d).unworded = ofDeclaration c d.unworded := by
  have hrule : d.unworded.rule = d.rule := rfl
  unfold ofDeclaration
  rw [hrule]
  generalize Program.compile c d.rule = program
  cases program <;> rfl

/-- **An entry without its words declares the rule that it declares,** but for the words, be it a
declaration or not. -/
theorem unworded_compile (c : Context) (d : Document) :
    (compile c d.unworded).unworded = (compile c d).unworded := by
  have hread := Declaration.ofDocument_unworded d
  rw [compile, compile]
  -- both are declarations, or neither is and the fault is the same
  cases hd' : Declaration.ofDocument d.unworded with
  | ok declaration' =>
    cases hd : Declaration.ofDocument d with
    | ok declaration =>
      rw [hd', hd] at hread
      have heq : declaration'.unworded = declaration.unworded := Except.ok.inj hread
      change (ofDeclaration c declaration').unworded = (ofDeclaration c declaration).unworded
      rw [unworded_ofDeclaration, unworded_ofDeclaration, heq]
    | error f =>
      rw [hd', hd] at hread
      cases hread
  | error f' =>
    cases hd : Declaration.ofDocument d with
    | ok declaration =>
      rw [hd', hd] at hread
      cases hread
    | error f =>
      rw [hd', hd] at hread
      obtain rfl : f' = f := Except.error.inj hread
      have hremains := Declaration.remains_unworded d
      change Rule.mk (Declaration.remains d.unworded).unworded _ =
        Rule.mk (Declaration.remains d).unworded _
      rw [hremains]

/-- Words are no part of the expression that has to hold. -/
theorem expression?_unworded (r : Rule) : r.unworded.expression? = r.expression? := by
  obtain ⟨d, body⟩ := r
  cases body <;> rfl

theorem isSkipped_unworded (r : Rule) (hasOld : Bool) :
    r.unworded.isSkipped hasOld = r.isSkipped hasOld := by
  rw [isSkipped, isSkipped, isTransition, isTransition, r.expression?_unworded]
  rfl

end Rule

/-- What a violation is one of: the path of the value at fault, and the rule. -/
def Violation.subject (e : Violation) : Text × Text := (e.fieldPath, e.rule)

/-- Reports of the same subjects agree pairwise in path and rule. -/
theorem Violation.agree_of_subjects {report report' : List Violation}
    (h : report.map Violation.subject = report'.map Violation.subject) :
    List.Forall₂ (fun e e' => e.fieldPath = e'.fieldPath ∧ e.rule = e'.rule) report report' := by
  rw [← List.forall₂_eq_eq_eq, List.forall₂_map_left_iff, List.forall₂_map_right_iff] at h
  exact h.imp fun _ _ he => Prod.mk.inj he

/-- **Without its words, a rule reports violations of the same subjects.** -/
theorem Rule.subject_check (r : Rule) (env : Option Bindings) (hasOld : Bool) (path : Text) :
    (r.unworded.check env hasOld path).map Violation.subject =
      (r.check env hasOld path).map Violation.subject := by
  -- the messages may differ, but they are no part of the subject
  have hviolation (message message' : Text) : (r.unworded.violation path message).subject =
    (r.violation path message').subject := rfl
  rw [check, check, r.expression?_unworded, r.isSkipped_unworded]
  cases r.expression? with
  | none => rfl
  | some p =>
    by_cases hskip : r.isSkipped hasOld
    · simp only [hskip, if_true]
    · simp only [if_neg hskip]
      cases env with
      | none => rfl
      | some env =>
        by_cases hyes : (p.evaluate env).toOption.any Value.isYes
        · simp only [hyes, if_true]
        · simp only [if_neg hyes]
          exact congrArg some (hviolation _ _)

/-! ### Schemas without words -/

/-- **The schema without the words of its declarations.** -/
def Document.rulesUnworded (schema : Document) : Document :=
  schema.mapEntries fun _ entries => entries.map Document.unworded

/-- A node of the schema, as it is without the words of declarations. -/
def Placed.unworded : Placed RawSchema → Placed RawSchema :=
  Placed.mapEntries fun _ entries => entries.map Document.unworded

/-- Without the words of its declarations, a node has the rules that it has, but for the words. -/
theorem Placed.map_unworded_rules (p : Placed RawSchema) :
    (rules p.unworded).map Rule.unworded = (rules p).map Rule.unworded := by
  rw [unworded, rules_mapEntries, p.rules_eq]
  cases p.node.entries? with
  | none => rfl
  | some entries =>
    simp only [Option.map_some, Option.getD_some, List.map_map]
    exact List.map_congr_left fun d _ => Rule.unworded_compile p.node.context d

theorem Placed.rules_unworded_eq_nil {p : Placed RawSchema} :
    rules p.unworded = [] ↔ rules p = [] := by
  rw [← List.map_eq_nil_iff (f := Rule.unworded), p.map_unworded_rules, List.map_eq_nil_iff]

/-- The place under the schema without words. -/
def Visit.unworded (v : Visit (Placed RawSchema)) : Visit (Placed RawSchema) :=
  v.mirrored Placed.unworded

/-- Values convert without words where they convert with them. -/
theorem Visit.converts_unworded {v : Visit (Placed RawSchema)} :
    v.unworded.Converts ↔ v.Converts := by
  refine (Placed.alike_mapEntries _).converts_mirrored.trans ?_
  change (rules v.node.unworded ≠ [] → _) ↔ _
  rw [ne_eq, Placed.rules_unworded_eq_nil]
  rfl

/-- **At a place, violations of the same subjects are reported without words as with them.** -/
theorem Visit.subjects_unworded (v : Visit (Placed RawSchema)) :
    (v.unworded.occasions.filterMap Occasion.outcome).map Violation.subject =
      (v.occasions.filterMap Occasion.outcome).map Violation.subject := by
  -- what is reported of a rule depends on the rule without its words
  have hsubject (l : List Rule) : (l.filterMap fun r =>
      r.check v.bindings? v.old.isSome v.path).map Violation.subject =
        (l.map Rule.unworded).filterMap fun r =>
          (r.check v.bindings? v.old.isSome v.path).map Violation.subject := by
    rw [List.map_filterMap, List.filterMap_map]
    exact List.filterMap_congr fun r _ => (r.subject_check _ _ _).symm
  have hbindings : v.unworded.bindings? = v.bindings? := (Placed.alike_mapEntries _).bindings? v
  rw [Validator.outcomes_eq, Validator.outcomes_eq, hbindings, hsubject,
    ← v.node.map_unworded_rules]
  exact hsubject (rules v.node.unworded)

namespace Validator

/-- The places are the same without words. -/
theorem places_rulesUnworded (c : Context) (schema : Document) (new : Datum)
    (old : Option Datum) : places c schema.rulesUnworded new old =
      (places c schema new old).map Visit.unworded :=
  places_mapEntries _ c schema new old

/-- Values convert under a schema where they convert without words. -/
theorem converts_rulesUnworded {c : Context} {schema : Document} {new : Datum}
    {old : Option Datum} : (∀ v ∈ places c schema.rulesUnworded new old, v.Converts) ↔
      ∀ v ∈ places c schema new old, v.Converts := by
  rw [places_rulesUnworded, List.forall_mem_map]
  exact forall₂_congr fun v _ => v.converts_unworded

/-- The subjects of what is reported at all places are the same without words. -/
theorem subjects_rulesUnworded (c : Context) (schema : Document) (new : Datum)
    (old : Option Datum) :
    (((places c schema.rulesUnworded new old).flatMap Visit.occasions).filterMap
      Occasion.outcome).map Violation.subject =
    (((places c schema new old).flatMap Visit.occasions).filterMap
      Occasion.outcome).map Violation.subject := by
  rw [places_rulesUnworded, List.flatMap_map, List.filterMap_flatMap, List.filterMap_flatMap,
    List.map_flatMap, List.map_flatMap]
  exact List.flatMap_congr fun v _ => v.subjects_unworded

/-- **Messages never decide.** Let two schemas be the same without the words of their declarations,
and let the values convert wherever there are rules to ask. Then the validations under both come to
an end, with the documents as with the trees compiled from them, and their reports have the same
length and agree pairwise in path and rule. So nothing is reported under the one schema if nothing
is under the other. -/
theorem validate_reworded (c : Context) {schema schema' : Document}
    (h : schema.rulesUnworded = schema'.rulesUnworded) (new : Datum) (old : Option Datum)
    (hb : ∀ v ∈ places c schema new old, v.Converts) :
    ∃ report report',
      (validate c schema new old = .ok report ∧
        validateCompiled (CompiledSchema.compile c schema) new old = .ok report) ∧
      (validate c schema' new old = .ok report' ∧
        validateCompiled (CompiledSchema.compile c schema') new old = .ok report') ∧
      report.length = report'.length ∧
      List.Forall₂ (fun e e' => e.fieldPath = e'.fieldPath ∧ e.rule = e'.rule) report report' ∧
      (report = [] ↔ report' = []) := by
  have hb' : ∀ v ∈ places c schema' new old, v.Converts := by
    rwa [← converts_rulesUnworded, h, converts_rulesUnworded] at hb
  have hsubjects := (subjects_rulesUnworded c schema new old).symm
  rw [h, subjects_rulesUnworded c schema' new old] at hsubjects
  have hagree := Violation.agree_of_subjects hsubjects
  have hlength := hagree.length_eq
  refine ⟨_, _, validate_of_converts hb, validate_of_converts hb', hlength, hagree, ?_⟩
  rw [← List.length_eq_zero_iff, hlength, List.length_eq_zero_iff]

/-- A schema with a rule that says what is wrong. -/
def eloquentSchema : Document :=
  .object [("x-kubernetes-validations", .list [.object [("rule", .text "self > 1"),
    ("message", .text "too small"),
    ("messageExpression", .text "string(self) + ' is too small'")]])]

/-- A schema with the same rule, and words that are of no use. -/
def mumblingSchema : Document :=
  .object [("x-kubernetes-validations", .list [.object [("message", .null),
    ("messageExpression", .text "self +"), ("rule", .text "self > 1"), ("reason", .text "")]])]

theorem eloquent_converts :
    ∀ v ∈ places .plain eloquentSchema (.int 1) none, v.Converts :=
  visited_converts_ofDocument (.int 1) none (by decide +kernel) (by decide +kernel)

/-- The two schemas differ in words only. -/
theorem eloquent_rulesUnworded :
    eloquentSchema.rulesUnworded = mumblingSchema.rulesUnworded := by
  rfl

/-- The number one is reported by both schemas, with other words. -/
theorem validate_reworded_mumbling :
    eloquentSchema.rulesUnworded = mumblingSchema.rulesUnworded ∧
      (∀ v ∈ places .plain eloquentSchema (.int 1) none, v.Converts) ∧
      ∃ report report',
        (validate .plain eloquentSchema (.int 1) none = .ok report ∧
          validateCompiled (CompiledSchema.compile .plain eloquentSchema) (.int 1) none =
            .ok report) ∧
        (validate .plain mumblingSchema (.int 1) none = .ok report' ∧
          validateCompiled (CompiledSchema.compile .plain mumblingSchema) (.int 1) none =
            .ok report') ∧
        report.length = report'.length ∧
        List.Forall₂ (fun e e' => e.fieldPath = e'.fieldPath ∧ e.rule = e'.rule) report report' ∧
        (report = [] ↔ report' = []) :=
  ⟨eloquent_rulesUnworded, eloquent_converts,
    validate_reworded .plain eloquent_rulesUnworded (.int 1) none eloquent_converts⟩

end Validator

end Admission
