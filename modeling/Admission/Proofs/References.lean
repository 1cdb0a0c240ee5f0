import Admission.Proofs.Agreement
import Admission.Validator

/-!
# What the references of a program tell

The references of a program are the names that stand for variables in it. They are nearly all that
it looks up: a name with arguments behind a point is looked up too, but counts as that of a
function, so a program may read a value without referring to it.

* `Program.mem_references_iff`: the references are the names that the program refers to.
* `Program.looksUp_iff_references`: a program looks up its references and the names that it calls
  behind a point.
* `Program.evaluate_of_references`: **values that agree on the references, and on the names that
  are called behind a point, cannot be told apart.**
* `Program.evaluate_called`: a program without references that tells two values apart.
-/

namespace Admission.Program

variable {p : Program} {name : Text}

/-- The references of a program are the names that it refers to. -/
theorem mem_references_iff : name ∈ p.references ↔ p.refersTo name := by
  rw [references, List.mem_mergeSort, List.mem_eraseDups, refersTo, List.contains_iff_mem]

/-- **A program looks up its references, and the names that it calls behind a point.** -/
theorem looksUp_iff_references : p.looksUp name ↔ name ∈ p.references ∨ p.calls name := by
  rw [looksUp_iff, mem_references_iff]

/-- **Values that agree where a program refers to them or calls them behind a point have one
outcome.** The new value is bound to `self`, the old one to `oldSelf`. -/
theorem evaluate_of_references (p : Program) {new new' old old' : Value}
    (hnew : selfName ∈ p.references ∨ p.calls selfName → new = new')
    (hold : oldSelfName ∈ p.references ∨ p.calls oldSelfName → old = old') :
    p.evaluate (bindings new old) = p.evaluate (bindings new' old') := by
  refine p.evaluate_congr fun n hn => ?_
  rw [looksUp_iff_references] at hn
  simp only [bindings, List.lookup_cons, List.lookup_nil]
  by_cases hs : n = selfName
  · subst hs
    rw [beq_self_eq_true, hnew hn]
  · rw [beq_false_of_ne hs]
    by_cases ho : n = oldSelfName
    · subst ho
      rw [beq_self_eq_true, hold hn]
    · rw [beq_false_of_ne ho]

/-! ### Two programs -/

/-- A text has a program with some property if the property is found by reading it. -/
theorem exists_compile_eq_ok {c : Context} {text : Text} {q : Program → Bool}
    (h : (compile c text).toOption.any q) : ∃ p, compile c text = .ok p ∧ q p := by
  cases hp : compile c text with
  | error f => rw [hp] at h; cases h
  | ok p => rw [hp] at h; exact ⟨p, rfl, h⟩

/-- Text of a program that refers to the new value, and names the old one as a field and in a text
only. -/
def unawareText : Text := "self.size > 0 && 'oldSelf' != self.oldSelf"

/-- Its program has one outcome beside any two old values. -/
theorem evaluate_unaware :
    ∃ p, compile .plain unawareText = .ok p ∧ p.references = [selfName] ∧
      ¬ (oldSelfName ∈ p.references ∨ p.calls oldSelfName) ∧
      ∀ new old old', p.evaluate (bindings new old) = p.evaluate (bindings new old') := by
  obtain ⟨p, hp, hq⟩ : ∃ p, compile .plain unawareText = .ok p ∧
      (decide (p.references = [selfName]) && !p.calls oldSelfName) :=
    exists_compile_eq_ok (by decide +kernel)
  rw [Bool.and_eq_true, decide_eq_true_eq, Bool.not_eq_true'] at hq
  obtain ⟨href, hcalls⟩ := hq
  have hold : ¬ (oldSelfName ∈ p.references ∨ p.calls oldSelfName) := by
    rw [href, hcalls]
    decide
  exact ⟨p, hp, href, hold, fun new old old' =>
    p.evaluate_of_references (fun _ => rfl) fun h => absurd h hold⟩

/-- Text of a program that calls the new value behind a point. -/
def calledText : Text := ".self(0)"

/-- Its program has no references, yet its value is the one that `self` is bound to. -/
theorem evaluate_called :
    ∃ p, compile .plain calledText = .ok p ∧ p.references = [] ∧
      p.evaluate (bindings (.ofBool true) .null) ≠ p.evaluate (bindings (.ofBool false) .null) := by
  obtain ⟨p, hp, hq⟩ : ∃ p, compile .plain calledText = .ok p ∧
      (decide (p.references = []) &&
        ((p.evaluate (bindings (.ofBool true) .null)).toOption.any Value.isYes &&
          !(p.evaluate (bindings (.ofBool false) .null)).toOption.any Value.isYes)) :=
    exists_compile_eq_ok (by decide +kernel)
  simp only [Bool.and_eq_true, decide_eq_true_eq, Bool.not_eq_true'] at hq
  obtain ⟨href, hyes, hno⟩ := hq
  refine ⟨p, hp, href, fun he => ?_⟩
  rw [he, hno] at hyes
  cases hyes

end Admission.Program
