import Admission.Proofs.Coverage

/-!
# Answers at a place

A place asks its rules with the values that are bound there, or with none if one of the values has
none. Either way each rule has an answer, and what the place reports is the row of these answers.
Only an integer beyond every float keeps a place from reporting.

* `Visit.answers`: the answers of the rules of a place.
* `Visit.eq_answers_of_report`: what a place reports is its answers.
* `Visit.report_eq_answers`: a place reports unless such an integer stops one of its conversions.
* `Validator.eq_answers_of_flatMapM_report`: **a report that comes to an end is the row of the
  answers at its places.**
-/

namespace Admission

open SchemaNode

variable {σ : Type} [SchemaNode σ]

/-- The answers of the rules of a place: what each of them reports there, in their order. -/
def Visit.answers (v : Visit σ) : List Violation := v.occasions.filterMap Occasion.outcome

/-- The answers, rule by rule. -/
theorem Visit.answers_eq (v : Visit σ) : v.answers =
    (rules v.node).filterMap fun r => r.check v.bindings? v.old.isSome v.path :=
  Validator.outcomes_eq v

namespace Validator

/-- Values are bound as both of them convert, and not bound if one does not. -/
theorem eq_bindings?_of_activation? {v : Visit σ} {env : Option Bindings}
    (h : activation? v.node v.value v.old = .ok env) : env = v.bindings? := by
  rw [Visit.bindings?]
  rw [activation?] at h
  cases hx : Bridge.convert (some v.node) v.value with
  | error f =>
    rw [hx] at h
    cases f with
    | tooLarge => cases h
    | unsupported | badKey => exact (Except.ok.inj h).symm
  | ok x =>
    rw [hx] at h
    cases hy : oldValue v.node v.old with
    | error f =>
      rw [hy] at h
      cases f with
      | tooLarge => cases h
      | unsupported | badKey => exact (Except.ok.inj h).symm
    | ok y =>
      rw [hy] at h
      exact (Except.ok.inj h).symm

/-- Only an integer beyond every float keeps values from being bound or not. -/
theorem exists_activation? {node : σ} {new : Datum} {old : Option Datum}
    (hn : Bridge.convert (some node) new ≠ .error .tooLarge)
    (ho : oldValue node old ≠ .error .tooLarge) :
    ∃ env, activation? node new old = .ok env := by
  rw [activation?]
  cases hx : Bridge.convert (some node) new with
  | error f =>
    cases f with
    | tooLarge => exact absurd hx hn
    | unsupported | badKey => exact ⟨none, rfl⟩
  | ok x =>
    cases hy : oldValue node old with
    | error f =>
      cases f with
      | tooLarge => exact absurd hy ho
      | unsupported | badKey => exact ⟨none, rfl⟩
    | ok y => exact ⟨_, rfl⟩

end Validator

namespace Visit

open Validator

variable {v : Visit σ}

/-- **What a place reports is its answers.** -/
theorem eq_answers_of_report {answers : List Violation} (h : v.report = .ok answers) :
    answers = v.answers := by
  rw [report, checkRules] at h
  rw [answers_eq]
  cases hr : rules v.node with
  | nil =>
    rw [hr] at h
    exact (Except.ok.inj h).symm
  | cons r rs =>
    simp only [hr, Except.bind_eq_ok_iff] at h
    obtain ⟨env, henv, h⟩ := h
    have hbound := eq_bindings?_of_activation? henv
    rw [hbound] at h
    exact (Except.ok.inj h).symm

/-- **A place reports** unless an integer beyond every float stops one of its conversions. -/
theorem report_eq_answers (hn : Bridge.convert (some v.node) v.value ≠ .error .tooLarge)
    (ho : oldValue v.node v.old ≠ .error .tooLarge) : v.report = .ok v.answers := by
  obtain ⟨env, henv⟩ := exists_activation? hn ho
  have hreport : ∃ answers, v.report = .ok answers := by
    rw [report, checkRules]
    cases rules v.node with
    | nil => exact ⟨_, rfl⟩
    | cons r rs =>
      rw [henv]
      exact ⟨_, rfl⟩
  obtain ⟨answers, h⟩ := hreport
  rw [h, eq_answers_of_report h]

end Visit

/-- **A report that comes to an end is the row of the answers at its places.** -/
theorem Validator.eq_answers_of_flatMapM_report {places : List (Visit σ)} {report : List Violation}
    (h : places.flatMapM Visit.report = .ok report) : report = places.flatMap Visit.answers :=
  List.eq_flatMap_of_flatMapM_eq_ok h fun _ _ _ => Visit.eq_answers_of_report

end Admission
