import Admission.Proofs.Creation
import Admission.Proofs.References

/-!
# Transition rules

A rule that compares with an old value is not checked without one. Whether it compares is told from
the references of its program. They are collected wherever a name stands, so they tell more than
the free names, which alone reach the value of the program: a name that a macro binds is among
them.

* `Program.introduces`: names in the binders of macros.
* `Program.mem_references_iff_mentions`: **the references are the names that stand free, and those
  that macros introduce.**
* `Program.Tells`, `Program.tells_iff`: the names of which the references tell whether they are
  free.
* `Rule.Compares`, `Rule.compares_of_expression?`: **what makes a rule compare with an old value,
  and what becomes of it without one.**
* `Rule.shadowed_skipped`: a rule that compares with nothing, and is skipped.
-/

namespace Admission

/-! ### Free names and references -/

namespace Program

variable {p : Program} {name : Text}

/-- Whether a name stands in the binder of a macro. All names that macros bind do. -/
def introduces (p : Program) (name : Text) : Bool :=
  p.expr.mentions.contains ⟨⟨name, false⟩, .binder⟩

theorem introduces_iff : p.introduces name ↔ ⟨⟨name, false⟩, .binder⟩ ∈ p.expr.mentions :=
  List.contains_iff_mem

/-- **The references of a program** are the names that stand free in it without arguments, and
those that macros introduce. -/
theorem mem_references_iff_mentions : name ∈ p.references ↔
    ⟨⟨name, false⟩, .free⟩ ∈ p.expr.mentions ∨ p.introduces name := by
  rw [mem_references_iff, refersTo_iff, Expr.mem_occurrences_iff, introduces_iff]
  constructor
  · rintro ⟨role, hm⟩
    cases role with
    | free => exact .inl hm
    | binder => exact .inr hm
    | bound => exact .inr (Expr.scoped_mentions p.expr _ hm rfl)
  · rintro (hm | hm)
    · exact ⟨_, hm⟩
    · exact ⟨_, hm⟩

/-- A name of which the references tell whether it is free in a program. -/
structure Tells (p : Program) (name : Text) : Prop where
  /-- Where a macro introduces it, it is free besides. -/
  introduced : p.introduces name → p.hasFree name
  /-- Where it is free and called behind a point, it also stands without arguments, free or in a
  binder. -/
  called : ⟨⟨name, true⟩, .free⟩ ∈ p.expr.mentions →
    ⟨⟨name, false⟩, .free⟩ ∈ p.expr.mentions ∨ p.introduces name

/-- The references tell of all names that no macro introduces and that are not called behind a
point. -/
theorem tells_of_not_introduces (hi : ¬ p.introduces name) (hc : ¬ p.calls name) :
    p.Tells name := by
  refine ⟨fun h => absurd h hi, fun h => absurd ?_ hc⟩
  exact List.contains_iff_mem.2 (Expr.mem_occurrences_iff.2 ⟨_, h⟩)

/-- **A name is a reference if and only if it is free,** exactly for the names of which the
references tell it. -/
theorem tells_iff : (name ∈ p.references ↔ p.hasFree name) ↔ p.Tells name := by
  constructor
  · intro h
    refine ⟨fun hi => ?_, fun hc => ?_⟩
    · exact h.1 (mem_references_iff_mentions.2 (.inr hi))
    · exact mem_references_iff_mentions.1 (h.2 (hasFree_iff.2 ⟨true, hc⟩))
  · intro h
    constructor
    · intro hr
      obtain hm | hi := mem_references_iff_mentions.1 hr
      · exact hasFree_iff.2 ⟨false, hm⟩
      · exact h.introduced hi
    · intro hf
      rw [mem_references_iff_mentions]
      obtain ⟨called, hm⟩ := hasFree_iff.1 hf
      cases called with
      | false => exact .inl hm
      | true => exact h.called hm

end Program

/-! ### Rules -/

namespace Rule

variable {r : Rule} {p : Program}

/-- A rule with a program is a transition rule if `oldSelf` is among the references. -/
theorem isTransition_iff (h : r.expression? = some p) :
    r.isTransition ↔ oldSelfName ∈ p.references := by
  rw [isTransition, h, Program.mem_references_iff]

/-- **What makes a rule with this program compare with an old value,** and what becomes of it
without one. -/
structure Compares (r : Rule) (p : Program) : Prop where
  /-- The references are the names that stand free without arguments, and those that macros
  introduce. -/
  references : ∀ name, name ∈ p.references ↔
    ⟨⟨name, false⟩, .free⟩ ∈ p.expr.mentions ∨ p.introduces name
  /-- They are the free names, exactly where they tell of a name whether it is free. -/
  free : ∀ name, (name ∈ p.references ↔ p.hasFree name) ↔ p.Tells name
  /-- Only the free names reach the value of the program. -/
  evaluated : ∀ b b' : Bindings, (∀ name, p.hasFree name → b.lookup name = b'.lookup name) →
    p.evaluate b = p.evaluate b'
  /-- The rule is a transition rule if and only if `oldSelf` is free in it, exactly where the
  references tell whether it is. -/
  transition : (r.isTransition ↔ p.hasFree oldSelfName) ↔ p.Tells oldSelfName
  /-- Where they tell that it is not free, the rule is checked without an old value as beside
  one. -/
  created : p.Tells oldSelfName → ¬ p.hasFree oldSelfName →
    ∀ env path, r.check env false path = r.check env true path
  /-- Where a macro introduces it, the rule is not checked without an old value, unless it is
  declared to be, free or not. -/
  skipped : p.introduces oldSelfName → ¬ r.optionalOldSelf →
    ∀ env path, r.check env false path = none

/-- **Every rule with a program compares with an old value as described.** -/
theorem compares_of_expression? (h : r.expression? = some p) : r.Compares p where
  references _ := Program.mem_references_iff_mentions
  free _ := Program.tells_iff
  evaluated _ _ := p.evaluate_of_free
  transition := by rw [isTransition_iff h, Program.tells_iff]
  created htells hfree env path := by
    have hneeds : ¬ r.needsOld := by
      rw [needsOld, Bool.and_eq_true, isTransition_iff h]
      exact fun hn => hfree ((Program.tells_iff.2 htells).1 hn.1)
    rw [check_false, if_neg hneeds]
  skipped hintroduces hoptional env path := by
    have hreference := Program.mem_references_iff_mentions.2 (.inr hintroduces)
    have hneeds : r.needsOld := by
      rw [needsOld, Bool.and_eq_true, Bool.not_eq_true', isTransition_iff h]
      exact ⟨hreference, Bool.eq_false_iff.2 hoptional⟩
    rw [check_false, if_pos hneeds]

/-- A rule that asks for the elements in the old value, from inside a macro. -/
def memberRule : Rule := compile .plain (.object [("rule", .text "self.all(k, k in oldSelf)")])

/-- It compares with the old value, which is free in its program. -/
theorem compares_memberRule : ∃ p, memberRule.expression? = some p ∧ memberRule.Compares p ∧
    p.Tells oldSelfName ∧ p.hasFree oldSelfName ∧ memberRule.isTransition := by
  obtain ⟨p, hp, hq⟩ : ∃ p, memberRule.expression? = some p ∧
      (p.hasFree oldSelfName && (!p.introduces oldSelfName && !p.calls oldSelfName)) :=
    (Option.any_eq_true _ _).1 (by decide +kernel)
  simp only [Bool.and_eq_true, Bool.not_eq_true'] at hq
  obtain ⟨hfree, hintroduces, hcalls⟩ := hq
  have hcompares := compares_of_expression? hp
  have htells : p.Tells oldSelfName :=
    Program.tells_of_not_introduces (Bool.eq_false_iff.1 hintroduces) (Bool.eq_false_iff.1 hcalls)
  exact ⟨p, hp, hcompares, htells, hfree, (hcompares.transition.2 htells).2 hfree⟩

/-- The declaration of a rule whose macro names the elements like the old value. -/
def shadowedDeclaration : Document := .object [("rule", .text "self.all(oldSelf, oldSelf > 0)")]

/-- `oldSelf` is not free in its program, but among the references. So the list of 0 is reported
beside an old value, and not as a new object. -/
theorem shadowed_skipped :
    (∃ p, (compile .plain shadowedDeclaration).expression? = some p ∧
      oldSelfName ∈ p.references ∧ ¬ p.hasFree oldSelfName) ∧
    (compile .plain shadowedDeclaration).isTransition ∧
    Validator.validate .plain (.object [(validationsKey, .list [shadowedDeclaration])])
      (.list [.int 0]) none = .ok [] ∧
    Validator.validate .plain (.object [(validationsKey, .list [shadowedDeclaration])])
      (.list [.int 0]) (some (.list [])) ≠ .ok [] := by
  refine ⟨?_, by decide +kernel, by decide +kernel, by decide +kernel⟩
  obtain ⟨p, hp, hq⟩ : ∃ p, (compile .plain shadowedDeclaration).expression? = some p ∧
      (p.refersTo oldSelfName && !p.hasFree oldSelfName) :=
    (Option.any_eq_true _ _).1 (by decide +kernel)
  rw [Bool.and_eq_true, Bool.not_eq_true'] at hq
  obtain ⟨hrefers, hfree⟩ := hq
  exact ⟨p, hp, Program.mem_references_iff.2 hrefers, Bool.eq_false_iff.1 hfree⟩

end Rule

end Admission
