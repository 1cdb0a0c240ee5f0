import Admission.Proofs.Coverage

/-!
# Validation of new objects

Beside no old object, a rule that refers to the old value is skipped, unless it is declared to be
checked all the same. Every other rule is asked as it would be asked beside null.

* `Rule.needsOld`: the rules that are skipped without an old value.
* `Rule.check_false`: without an old value these report nothing, and the others what they report
  beside one.
* `Visit.besideNull`: a place as it is visited beside null.
* `Validator.CreateReport`: what it means to report a new object.
* `Validator.validate_create`: **a validation without an old object reports what all rules report
  beside null, less what the rules report that need an old value.**
-/

namespace Admission

open SchemaNode

variable {σ : Type} [SchemaNode σ]

/-! ### Rules -/

namespace Rule

/-- Whether a rule is checked beside an old value only. -/
def needsOld (r : Rule) : Bool := r.isTransition && !r.optionalOldSelf

/-- Beside an old value no rule is skipped, and beside none those are that need one. -/
theorem isSkipped_eq (r : Rule) (hasOld : Bool) : r.isSkipped hasOld = (r.needsOld && !hasOld) := by
  rw [isSkipped, needsOld, Bool.and_right_comm]

/-- **Without an old value,** a rule that needs one reports nothing, and every other rule what it
reports beside one under the same bindings. -/
theorem check_false (r : Rule) (env : Option Bindings) (path : Text) :
    r.check env false path = if r.needsOld then none else r.check env true path := by
  rw [check, check, isSkipped_eq, isSkipped_eq]
  cases he : r.expression? with
  | none =>
    have hn : r.needsOld = false := by rw [needsOld, isTransition, he, Bool.false_and]
    rw [hn]
    rfl
  | some p => cases r.needsOld <;> simp

/-- A rule without a program reports its static message, whatever the values are. -/
theorem check_of_isStatic {r : Rule} (h : r.isStatic) (env : Option Bindings) (hasOld : Bool)
    (path : Text) : r.check env hasOld path = some (r.violation path r.defaultMessage) := by
  rw [check, Option.isNone_iff_eq_none.1 h]

end Rule

/-! ### Places beside null -/

/-- The place as it is visited where the old value is null. -/
def Visit.besideNull (v : Visit σ) : Visit σ := { v with old := some .null }

/-- Beside null, a value that converts is bound as it is without an old value. -/
theorem Visit.bindings?_besideNull {v : Visit σ} {x : Value}
    (hx : Bridge.convert (some v.node) v.value = .ok x) :
    v.besideNull.bindings? = some (bindings x .null) := by
  change (do
    let new ← (Bridge.convert (some v.node) v.value).toOption
    return bindings new .null) = some (bindings x .null)
  rw [hx]
  rfl

/-- The occasion as it arises where the old value is null. -/
def Occasion.besideNull (o : Occasion σ) : Occasion σ := { o with visit := o.visit.besideNull }

theorem Visit.occasions_besideNull (v : Visit σ) :
    v.besideNull.occasions = v.occasions.map Occasion.besideNull := by
  rw [occasions, occasions, List.map_map]
  rfl

/-- **An occasion without an old value** is passed over if the rule needs one, and else answered as
beside null. -/
theorem Occasion.outcome_of_old_none {o : Occasion σ} (h : o.visit.old = none) :
    o.outcome = if o.rule.needsOld then none else o.besideNull.outcome := by
  have hb : o.visit.bindings? = o.besideNull.visit.bindings? := by
    rw [Visit.bindings?, h]
    rfl
  rw [outcome, h, hb]
  exact o.rule.check_false _ _

namespace Validator

/-! ### Reports of new objects -/

/-- **What it means to report a new object** at visited places. -/
structure CreateReport (places : List (Visit σ)) (report : List Violation) : Prop where
  /-- The report is what all rules report where the old values are null, at the same places and in
  the same order, less what the rules report that need an old value. -/
  report_eq : report = (((places.map Visit.besideNull).flatMap Visit.occasions).filter
    fun o => !o.rule.needsOld).filterMap Occasion.outcome
  /-- Beside null, `self` is the value as its node converts it, and `oldSelf` is null. -/
  bound : ∀ v ∈ places, rules v.node ≠ [] → ∃ x,
    Bridge.convert (some v.node) v.value = .ok x ∧ v.besideNull.bindings? = some (bindings x .null)
  /-- A rule that needs an old value reports nothing, whatever its program would answer. -/
  skipped : ∀ o ∈ places.flatMap Visit.occasions, o.rule.needsOld → o.outcome = none
  /-- A rule without a program reports its static message. -/
  static : ∀ o ∈ places.flatMap Visit.occasions, o.rule.isStatic →
    o.outcome = some (o.rule.violation o.visit.path o.rule.defaultMessage)
  /-- A rule that is declared to be checked without an old value is asked beside null. -/
  optional : ∀ o ∈ places.flatMap Visit.occasions, o.rule.optionalOldSelf →
    o.outcome = o.besideNull.outcome

/-- A rule that is asked at a place is asked at the place that it belongs to. -/
theorem visit_of_mem_occasions {places : List (Visit σ)} {o : Occasion σ}
    (h : o ∈ places.flatMap Visit.occasions) : o.visit ∈ places := by
  obtain ⟨v, hv, ho⟩ := List.mem_flatMap.1 h
  obtain ⟨_, -, rfl⟩ := List.mem_map.1 ho
  exact hv

/-- The answers at places without old values report a new object. -/
theorem createReport_of_old_none {places : List (Visit σ)} (hold : ∀ v ∈ places, v.old = none)
    (hb : ∀ v ∈ places, v.Converts) :
    CreateReport places ((places.flatMap Visit.occasions).filterMap Occasion.outcome) := by
  have houtcome : ∀ o ∈ places.flatMap Visit.occasions,
      o.outcome = if o.rule.needsOld then none else o.besideNull.outcome :=
    fun o ho => Occasion.outcome_of_old_none (hold _ (visit_of_mem_occasions ho))
  have hnull : (places.map Visit.besideNull).flatMap Visit.occasions =
      (places.flatMap Visit.occasions).map Occasion.besideNull := by
    simp only [List.flatMap_map, List.map_flatMap, Visit.occasions_besideNull]
  exact {
    report_eq := by
      rw [hnull, List.filter_map, List.filterMap_map, List.filterMap_filter]
      refine List.filterMap_congr fun o ho => ?_
      rw [houtcome o ho]
      change _ = if (!o.rule.needsOld) = true then o.besideNull.outcome else none
      cases o.rule.needsOld <;> rfl
    bound := fun v hv hr => by
      obtain ⟨x, hx⟩ := (hb v hv hr).1
      exact ⟨x, hx, Visit.bindings?_besideNull hx⟩
    skipped := fun o ho hn => by rw [houtcome o ho, if_pos hn]
    static := fun o _ hs => Rule.check_of_isStatic hs _ _ _
    optional := fun o ho hopt => by
      have hn : ¬ o.rule.needsOld := by simp [Rule.needsOld, hopt]
      rw [houtcome o ho, if_neg hn] }

/-- **Create-time validation.** Where the value converts wherever there are rules to ask, the
validation without an old object comes to an end, with the document as with the tree compiled from
it, and reports a new object at the visited places. -/
theorem validate_create (c : Context) (schema : Document) (new : Datum)
    (hb : ∀ v ∈ visited (RawSchema.wrap? c schema) new none, v.Converts) :
    ∃ report, validate c schema new none = .ok report ∧
      validateCompiled (CompiledSchema.compile c schema) new none = .ok report ∧
      CreateReport (visited (RawSchema.wrap? c schema) new none) report := by
  have hold : ∀ v ∈ visited (RawSchema.wrap? c schema) new none, v.old = none := by
    rw [visited_none _ new none]
    exact List.forall_mem_map.2 fun _ _ => rfl
  have hreport := flatMapM_report hb
  refine ⟨_, ?_, ?_, createReport_of_old_none hold hb⟩
  · rw [validate_eq_visited, hreport]
  · rw [validateCompiled_compile, hreport]

/-- A schema with a rule of each kind: one that needs an old value, one without a program, one that
is checked without an old value too, and one that does not mention it. -/
def growingSchema : Document :=
  .object [("x-kubernetes-validations", .list [
    .object [("rule", .text "self > oldSelf")],
    .object [("rule", .text "self >")],
    .object [("rule", .text "oldSelf != null"), ("optionalOldSelf", .bool true)],
    .object [("rule", .text "self > 1")]])]

theorem growing_converts :
    ∀ v ∈ visited (RawSchema.wrap? .plain growingSchema) (.int 1) none, v.Converts :=
  visited_converts_ofDocument (.int 1) none (by decide +kernel) (by decide +kernel)

/-- The number one is reported as a new object, by all rules but the first. -/
theorem validate_create_growing :
    (∀ v ∈ visited (RawSchema.wrap? .plain growingSchema) (.int 1) none, v.Converts) ∧
      ∃ report, validate .plain growingSchema (.int 1) none = .ok report ∧
        validateCompiled (CompiledSchema.compile .plain growingSchema) (.int 1) none =
          .ok report ∧
        CreateReport (visited (RawSchema.wrap? .plain growingSchema) (.int 1) none) report :=
  ⟨growing_converts, validate_create .plain growingSchema (.int 1) growing_converts⟩

end Validator

end Admission
