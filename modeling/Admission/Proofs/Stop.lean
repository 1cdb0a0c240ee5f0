import Admission.Proofs.Coverage

/-!
# When a validation stops

Whatever is wrong with the rules or the data, a validation reports it at the place where it is
wrong, with one exception: an integer beyond every float, in a value that is converted for a rule,
stops the whole validation.

* `Visit.Stops`: places with such a value and a rule.
* `Validator.visited_stopsIff`: a validation of JSON stops iff it visits such a place.
* `Rule.Passes`, `Rule.check_eq_none_iff`: when a rule has nothing to report.
* `Validator.validate_json`: **a validation of JSON stops at such a place, or else reports every
  rule that does not pass.**
-/

namespace Admission

open SchemaNode Datum

variable {σ : Type} [SchemaNode σ]

/-- A place with a rule to ask and a value that cannot be converted for it. -/
def Visit.Stops (v : Visit σ) : Prop := rules v.node ≠ [] ∧ v.Overflows

/-! ### Rules that pass -/

/-- A rule passes that has a program and is skipped or answered with yes. -/
def Rule.Passes (r : Rule) (env : Option Bindings) (hasOld : Bool) : Prop :=
  ∃ p, r.expression? = some p ∧ (r.isSkipped hasOld ∨
    ∃ b, env = some b ∧ (p.evaluate b).toOption.any Value.isYes)

/-- **The rules without anything to report are those that pass.** -/
theorem Rule.check_eq_none_iff {r : Rule} {env : Option Bindings} {hasOld : Bool} {path : Text} :
    r.check env hasOld path = none ↔ r.Passes env hasOld := by
  unfold Rule.check Rule.Passes
  cases r.expression? with
  | none => simp
  | some p =>
    by_cases hs : r.isSkipped hasOld
    · simp [hs]
    · cases env with
      | none => simp [hs]
      | some b => by_cases hy : (p.evaluate b).toOption.any Value.isYes <;> simp [hs, hy]

namespace Validator

open Bridge (StopsIff)

/-! ### One place -/

theorem oldValue_stopsIff (node : σ) {old : Option Datum} (ho : ∀ o, old = some o → o.IsJson) :
    StopsIff (∃ o, old = some o ∧ o.Overflows) (oldValue node old) := by
  cases old with
  | none => exact .ok (by simp)
  | some o => exact (Bridge.convert_stopsIff (ho o rfl) (some node)).congr (by simp)

/-- The values at a place are bound unless one of them overflows. -/
theorem activation?_stopsIff (node : σ) {new : Datum} {old : Option Datum} (hn : new.IsJson)
    (ho : ∀ o, old = some o → o.IsJson) :
    StopsIff (new.Overflows ∨ ∃ o, old = some o ∧ o.Overflows) (activation? node new old) := by
  -- the old value is converted only if the new one was
  have hnew := Bridge.convert_stopsIff hn (some node)
  have hold := oldValue_stopsIff node ho
  unfold activation?
  cases hx : Bridge.convert (some node) new with
  | error f =>
    rw [hx] at hnew
    cases hnew with
    | tooLarge h => exact .tooLarge (.inl h)
  | ok x =>
    rw [hx] at hnew
    cases hnew with
    | ok h =>
      cases hy : oldValue node old with
      | error f =>
        rw [hy] at hold
        cases hold with
        | tooLarge h => exact .tooLarge (.inr h)
      | ok y =>
        rw [hy] at hold
        cases hold with
        | ok h' => exact .ok (not_or.2 ⟨h, h'⟩)

/-- What is reported at a place of JSON comes to an end unless the place stops it. -/
theorem report_stopsIff {v : Visit σ} (hj : v.value.IsJson) (ho : ∀ o, v.old = some o → o.IsJson) :
    StopsIff v.Stops v.report := by
  unfold Visit.report checkRules Visit.Stops
  cases hr : rules v.node with
  | nil => exact .ok (by simp)
  | cons r rs =>
    refine ((activation?_stopsIff v.node hj ho).map fun env =>
      (r :: rs).filterMap fun r => r.check env v.old.isSome v.path).congr ?_
    simp [Visit.Overflows]

/-! ### All places -/

/-- **A validation of JSON stops iff it visits a place that stops it.** -/
theorem visited_stopsIff {root : Option σ} {new : Datum} {old : Option Datum} (hn : new.IsJson)
    (ho : ∀ o, old = some o → o.IsJson) :
    StopsIff (∃ v ∈ visited root new old, v.Stops)
      ((visited root new old).flatMapM Visit.report) := by
  refine StopsIff.flatMapM fun v hv => ?_
  obtain ⟨hj, hjo⟩ := visited_data IsJson.of_part hn ho v hv
  exact report_stopsIff hj hjo

/-- Where a report comes to an end, every rule at a visited place passes or is reported. -/
theorem passes_or_reported {places : List (Visit σ)} {v : Visit σ} (hv : v ∈ places) {r : Rule}
    (hr : r ∈ rules v.node) : r.Passes v.bindings? v.old.isSome ∨
      ∃ m, r.violation v.path m ∈ (places.flatMap Visit.occasions).filterMap Occasion.outcome := by
  cases hc : r.check v.bindings? v.old.isSome v.path with
  | none => exact .inl (Rule.check_eq_none_iff.1 hc)
  | some e =>
    obtain ⟨m, rfl⟩ := Rule.check_eq_some hc
    obtain ⟨i, hi⟩ := List.mem_iff_getElem?.1 hr
    have ho : (⟨v, i, r⟩ : Occasion σ) ∈ v.occasions :=
      List.mem_map.2 ⟨(r, i), List.mem_zipIdx_iff_getElem?.2 hi, rfl⟩
    exact .inr ⟨m, List.mem_filterMap.2 ⟨_, List.mem_flatMap.2 ⟨v, hv, ho⟩, hc⟩⟩

/-- The places that a validation of JSON visits. -/
def placesOf (c : Context) (schema new : Document) (old : Option Document) :
    List (Visit RawSchema) :=
  visited (RawSchema.wrap? c schema) (ofDocument new) (old.map ofDocument)

/-- A validation of JSON stops iff one of its places stops it, and else comes to an end. -/
theorem validate_stopsIff (c : Context) (schema new : Document) (old : Option Document) :
    StopsIff (∃ v ∈ placesOf c schema new old, v.Stops)
      (validate c schema (ofDocument new) (old.map ofDocument)) := by
  rw [validate_eq_visited]
  refine visited_stopsIff ⟨new, rfl⟩ fun o h => ?_
  obtain ⟨d, -, rfl⟩ := Option.map_eq_some_iff.1 h
  exact ⟨d, rfl⟩

/-- **A validation of JSON comes to an end or stops at an integer beyond every float,** with the
document as with the tree compiled from it. It stops iff it visits a place with a rule and such an
integer. Where it comes to an end, every rule at every visited place passes or is reported there. -/
theorem validate_json (c : Context) (schema new : Document) (old : Option Document) :
    ((∀ v ∈ placesOf c schema new old, ¬ v.Stops) ∧
      ∃ report, validate c schema (ofDocument new) (old.map ofDocument) = .ok report ∧
        validateCompiled (CompiledSchema.compile c schema) (ofDocument new)
          (old.map ofDocument) = .ok report ∧
        ∀ v ∈ placesOf c schema new old, ∀ r ∈ rules v.node,
          r.Passes v.bindings? v.old.isSome ∨ ∃ m, r.violation v.path m ∈ report) ∨
    ((∃ v ∈ placesOf c schema new old, v.Stops) ∧
      validate c schema (ofDocument new) (old.map ofDocument) = .error .tooLarge ∧
      validateCompiled (CompiledSchema.compile c schema) (ofDocument new)
        (old.map ofDocument) = .error .tooLarge) := by
  have hn : (ofDocument new).IsJson := ⟨new, rfl⟩
  have ho : ∀ o, old.map ofDocument = some o → o.IsJson := fun o h => by
    obtain ⟨d, -, rfl⟩ := Option.map_eq_some_iff.1 h
    exact ⟨d, rfl⟩
  rw [validateCompiled_compile, validate_eq_visited]
  -- the first place with such a value stops the walk; without one every rule is asked
  by_cases hstop : ∃ v ∈ placesOf c schema new old, v.Stops
  · have herr := (visited_stopsIff hn ho).error_iff.2 hstop
    exact .inr ⟨hstop, herr, herr⟩
  · have hgo : ∀ v ∈ placesOf c schema new old, ¬ v.Stops := fun v hv hs => hstop ⟨v, hv, hs⟩
    have hconv : ∀ v ∈ placesOf c schema new old, v.Converts := by
      intro v hv hr
      obtain ⟨hj, hjo⟩ := visited_data IsJson.of_part hn ho v hv
      exact converts_of_not_overflows hj hjo (fun h => hgo v hv ⟨hr, h⟩) hr
    have hreport := flatMapM_report hconv
    exact .inl ⟨hgo, _, hreport, hreport, fun v hv r hr => passes_or_reported hv hr⟩

/-- A schema with one rule, which always holds. -/
def lenientSchema : Document :=
  .object [("x-kubernetes-validations", .list [.object [("rule", .text "true")]])]

/-- Not even a rule that always holds can be asked about an integer beyond every float: nothing is
reported, and nothing is accepted. -/
theorem validate_stops :
    validate .plain lenientSchema (.int (2 ^ 1024)) none = .error .tooLarge ∧
      validateCompiled (CompiledSchema.compile .plain lenientSchema) (.int (2 ^ 1024)) none =
        .error .tooLarge := by
  have hstop : ∃ v ∈ visited (RawSchema.wrap? .plain lenientSchema) (.int (2 ^ 1024)) none,
      v.Stops := by
    refine ⟨_, root_mem_visited _ _ _, ?_, .inl (overflows_int.2 ?_)⟩
    · exact List.cons_ne_nil _ _
    · decide +kernel
  have herr := (visited_stopsIff ⟨.int (2 ^ 1024), rfl⟩ (by simp)).error_iff.2 hstop
  rw [validateCompiled_compile, validate_eq_visited]
  exact ⟨herr, herr⟩

end Validator

end Admission
