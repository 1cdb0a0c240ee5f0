import Admission.Proofs.Agreement
import Admission.Proofs.Coverage

/-!
# Schemas that never mention the old value

A program that does not look up `oldSelf` has one value beside any old value. So a rule without
such a program answers the same whatever the old value is, and a schema of such rules reports the
same: two validations that differ in the old value cannot be told apart.

* `Rule.mentionsOld`: rules that look up the old value, in their expression or for their message.
* `Rule.check_bindings`: all other rules report the same beside any old value.
* `Visit.report_alone`: at a place whose old value converts, such rules report as without one.
* `Validator.validate_oblivious`: **a schema that never mentions the old value reports the same
  beside any two.**
* `Validator.validate_calling`: a rule may look up the old value without referring to it.
-/

namespace Admission

open SchemaNode Datum

variable {σ : Type} [SchemaNode σ]

/-! ### Rules -/

/-- A program that does not look up `oldSelf` has one value beside any old value. -/
theorem Program.evaluate_bindings {p : Program} (h : p.looksUp oldSelfName = false)
    (new old old' : Value) : p.evaluate (bindings new old) = p.evaluate (bindings new old') := by
  refine p.evaluate_congr fun n hn => ?_
  have hne : n ≠ oldSelfName := fun he => by simp [he, h] at hn
  simp [bindings, List.lookup_cons, beq_false_of_ne hne]

namespace Rule

/-- The programs of a rule: that of its expression and that for its message. -/
def programs (r : Rule) : List Program := r.expression?.toList ++ r.messageExpression?.toList

/-- Whether a program of the rule looks up the old value. -/
def mentionsOld (r : Rule) : Bool := r.programs.any (·.looksUp oldSelfName)

variable {r : Rule}

theorem looksUp_of_not_mentionsOld (h : r.mentionsOld = false) {p : Program}
    (hp : p ∈ r.programs) : p.looksUp oldSelfName = false := by
  simpa using List.any_eq_false.1 h p hp

/-- A rule that does not mention the old value is never skipped. -/
theorem isSkipped_of_not_mentionsOld (h : r.mentionsOld = false) (hasOld : Bool) :
    r.isSkipped hasOld = false := by
  have ht : r.isTransition = false := by
    rw [isTransition]
    cases he : r.expression? with
    | none => rfl
    | some p =>
      have hp := looksUp_of_not_mentionsOld h (p := p) (by simp [programs, he])
      exact Bool.eq_false_iff.2 fun hr => by simp [Program.looksUp_iff.2 (.inl hr)] at hp
  rw [isSkipped, ht, Bool.false_and, Bool.false_and]

theorem messageUnder_bindings (h : r.mentionsOld = false) (new old old' : Value) :
    r.messageUnder (bindings new old) = r.messageUnder (bindings new old') := by
  rw [messageUnder, messageUnder]
  cases hm : r.messageExpression? with
  | none => rfl
  | some p =>
    have hp := looksUp_of_not_mentionsOld h (p := p) (by simp [programs, hm])
    simp only [Program.evaluate_bindings hp new old old']

/-- **A rule that does not mention the old value reports the same beside any,** and the same where
the values are not bound. -/
theorem check_bindings (h : r.mentionsOld = false) (new : Option Value) (old old' : Value)
    (hasOld hasOld' : Bool) (path : Text) :
    r.check (new.map (bindings · old)) hasOld path =
      r.check (new.map (bindings · old')) hasOld' path := by
  rw [check, check, isSkipped_of_not_mentionsOld h, isSkipped_of_not_mentionsOld h]
  cases he : r.expression? with
  | none => rfl
  | some p =>
    have hp := looksUp_of_not_mentionsOld h (p := p) (by simp [programs, he])
    cases new with
    | none => rfl
    | some x =>
      simp only [Option.map_some, Program.evaluate_bindings hp x old old',
        messageUnder_bindings h x old old']

end Rule

/-! ### Bindings -/

namespace Validator

/-- What a new value is bound to under a node: nothing if it has no value there. -/
def newValue? (node : σ) (new : Datum) : Except Bridge.Fault (Option Value) :=
  match Bridge.convert (some node) new with
  | .ok x => .ok (some x)
  | .error .tooLarge => .error .tooLarge
  | .error _ => .ok none

/-- Beside an old value that converts, the new value decides whether there are bindings. -/
theorem activation?_of_oldValue {node : σ} {old : Option Datum} {y : Value}
    (hy : oldValue node old = .ok y) (new : Datum) :
    activation? node new old = Option.map (bindings · y) <$> newValue? node new := by
  rw [activation?, newValue?, hy]
  cases Bridge.convert (some node) new with
  | ok x => rfl
  | error f => cases f <;> rfl

/-- Only an integer beyond every float stops a new value from being bound. -/
theorem newValue?_stopsIff (node : σ) (new : Datum) :
    Bridge.StopsIff (Bridge.convert (some node) new = .error .tooLarge) (newValue? node new) := by
  rw [newValue?]
  cases Bridge.convert (some node) new with
  | ok x => exact .ok (by simp)
  | error f =>
    cases f with
    | tooLarge => exact .tooLarge rfl
    | unsupported | badKey => exact .ok (by simp)

end Validator

/-! ### Places -/

namespace Visit

/-- Whether the old value at a place converts, if there is a rule to ask. -/
def OldConverts (v : Visit σ) : Prop :=
  rules v.node ≠ [] → ∀ o, v.old = some o → ∃ y, Bridge.convert (some v.node) o = .ok y

/-- An integer in the new value at a place stops the conversion, and there is a rule to ask. -/
def NewStops (v : Visit σ) : Prop :=
  rules v.node ≠ [] ∧ Bridge.convert (some v.node) v.value = .error .tooLarge

/-- Where both values convert, the old one does. -/
theorem Converts.old {v : Visit σ} (h : v.Converts) : v.OldConverts := fun hr => (h hr).2

/-- An old value that converts has a value, and so has none. -/
theorem OldConverts.oldValue {v : Visit σ} (h : v.OldConverts) (hr : rules v.node ≠ []) :
    ∃ y, Validator.oldValue v.node v.old = .ok y := by
  cases ho : v.old with
  | none => exact ⟨.null, rfl⟩
  | some o => exact h hr o ho

/-- **Rules that do not mention the old value report as without one,** at a place where it
converts. -/
theorem report_alone {v : Visit σ} (hr : ∀ r ∈ rules v.node, r.mentionsOld = false)
    (ho : v.OldConverts) : v.report = v.alone.report := by
  change Validator.checkRules v.node v.path v.value v.old =
    Validator.checkRules v.node v.path v.value none
  rw [Validator.checkRules, Validator.checkRules]
  cases hrs : rules v.node with
  | nil => rfl
  | cons r rs =>
    obtain ⟨y, hy⟩ := ho.oldValue (by rw [hrs]; exact List.cons_ne_nil r rs)
    have hnone : Validator.oldValue v.node none = .ok .null := rfl
    rw [hrs] at hr
    simp only [Validator.activation?_of_oldValue hy, Validator.activation?_of_oldValue hnone,
      bind_map_left]
    -- whatever the new value is bound to, the rules answer alike
    congr 1
    funext x
    exact congrArg Except.ok
      (List.filterMap_congr fun r hmem => Rule.check_bindings (hr r hmem) x _ _ _ _ _)

/-- Without an old value, only an integer in the new one can stop the report of a place. -/
theorem report_alone_stopsIff (v : Visit σ) : Bridge.StopsIff v.NewStops v.alone.report := by
  change Bridge.StopsIff _ (Validator.checkRules v.node v.path v.value none)
  rw [Validator.checkRules, NewStops]
  cases hrs : rules v.node with
  | nil => exact .ok (by simp)
  | cons r rs =>
    have hnone : Validator.oldValue v.node none = .ok .null := rfl
    simp only [Validator.activation?_of_oldValue hnone, bind_map_left]
    refine ((Validator.newValue?_stopsIff v.node v.value).map fun x =>
      (r :: rs).filterMap fun r => r.check (x.map (bindings · .null)) false v.path).congr ?_
    simp

end Visit

namespace Validator

/-! ### Whole validations -/

/-- No rule of a schema mentions the old value. There may be no root. -/
def NeverMentionsOld (root : Option σ) : Prop :=
  ∀ node, root = some node → ∀ n, Reaches node n → ∀ r ∈ rules n, r.mentionsOld = false

/-- Under a schema that never mentions the old value, all places report as without one. -/
theorem visited_report_none {root : Option σ} (hs : NeverMentionsOld root) {new : Datum}
    {old : Option Datum} (ho : ∀ v ∈ visited root new old, v.OldConverts) :
    (visited root new old).flatMapM Visit.report =
      (visited root new none).flatMapM Visit.report := by
  rw [visited_none root new old, List.flatMapM_map]
  refine List.flatMapM_congr fun v hv => Visit.report_alone ?_ (ho v hv)
  obtain ⟨node, hroot, hreach⟩ := visited_reaches v hv
  exact hs node hroot v.node hreach

/-- Without an old value, a validation comes to an end unless an integer in the new one stops it. -/
theorem visited_none_stopsIff (root : Option σ) (new : Datum) :
    Bridge.StopsIff (∃ v ∈ visited root new none, v.NewStops)
      ((visited root new none).flatMapM Visit.report) := by
  refine Bridge.StopsIff.flatMapM fun v hv => ?_
  -- a place that has no old value is the place without it
  have halone : v.alone = v := by
    rw [visited_none root new none] at hv
    obtain ⟨w, -, rfl⟩ := List.mem_map.1 hv
    rfl
  exact halone ▸ v.report_alone_stopsIff

/-- **A schema that never mentions the old value reports the same beside any two** that convert
wherever there are rules to ask, be they values or none: all validations have one outcome, with the
document as with the tree compiled from it. It is a report, unless an integer in the new value stops
them all. -/
theorem validate_oblivious (c : Context) {schema : Document}
    (hs : NeverMentionsOld (RawSchema.wrap? c schema)) (new : Datum) {old₁ old₂ : Option Datum}
    (h₁ : ∀ v ∈ visited (RawSchema.wrap? c schema) new old₁, v.OldConverts)
    (h₂ : ∀ v ∈ visited (RawSchema.wrap? c schema) new old₂, v.OldConverts) :
    ∃ outcome, Bridge.StopsIff
        (∃ v ∈ visited (RawSchema.wrap? c schema) new none, v.NewStops) outcome ∧
      validate c schema new old₁ = outcome ∧ validate c schema new old₂ = outcome ∧
      validateCompiled (CompiledSchema.compile c schema) new old₁ = outcome ∧
      validateCompiled (CompiledSchema.compile c schema) new old₂ = outcome := by
  have hr₁ := visited_report_none hs h₁
  have hr₂ := visited_report_none hs h₂
  refine ⟨_, visited_none_stopsIff _ new, ?_, ?_, ?_, ?_⟩
  · rw [validate_eq_visited, hr₁]
  · rw [validate_eq_visited, hr₂]
  · rw [validateCompiled_compile, hr₁]
  · rw [validateCompiled_compile, hr₂]

/-- A schema that speaks of `oldSelf` as a field and as a text, but never of the old value. -/
def unawareSchema : Document :=
  .object [
    ("x-kubernetes-validations", .list [.object [("rule", .text "self.oldSelf != 'oldSelf'"),
      ("messageExpression", .text "self.oldSelf + '!'")]]),
    ("properties", .object [("size", .object [("x-kubernetes-validations",
      .list [.object [("rule", .text "self > 1")]])])])]

/-- An object with these fields. -/
def unawareObject : Document := .object [("oldSelf", .text "oldSelf"), ("size", .int 0)]

theorem unaware_neverMentionsOld :
    NeverMentionsOld (RawSchema.wrap? .plain unawareSchema) := by
  intro root hroot n hn
  obtain rfl := Option.some.inj hroot
  have hnodes : ∀ m ∈ [RawSchema.mk .plain (membersOf (some unawareSchema))] ++
      (properties (RawSchema.mk .plain (membersOf (some unawareSchema)))).map Prod.snd,
        ∀ r ∈ rules m, r.mentionsOld = false := by decide +kernel
  refine hnodes n ?_
  -- the root has one property, and that has no parts
  induction hn with
  | root => exact List.mem_cons_self
  | property _ hp ih =>
    rcases List.mem_pair.1 ih with rfl | rfl
    · exact List.mem_cons_of_mem _ (List.mem_map_of_mem hp)
    · cases hp
  | item _ hc ih => rcases List.mem_pair.1 ih with rfl | rfl <;> cases hc
  | additional _ hc ih => rcases List.mem_pair.1 ih with rfl | rfl <;> cases hc

/-- What has been there before. -/
def unawareOld : Document := .object [("oldSelf", .text "x"), ("size", .null)]

theorem unaware_oldConverts :
    ∀ v ∈ visited (RawSchema.wrap? .plain unawareSchema) (ofDocument unawareObject)
      (some (ofDocument unawareOld)), v.OldConverts :=
  fun v hv => (visited_converts_ofDocument unawareObject (some unawareOld) (by decide +kernel)
    (by decide +kernel) v hv).old

theorem unaware_oldConverts_none :
    ∀ v ∈ visited (RawSchema.wrap? .plain unawareSchema) (ofDocument unawareObject) none,
      v.OldConverts := by
  rw [visited_none _ _ none]
  intro v hv _ o ho
  obtain ⟨w, -, rfl⟩ := List.mem_map.1 hv
  cases ho

/-- What has been there before makes no difference under a schema that never mentions it. -/
theorem validate_oblivious_sample :
    NeverMentionsOld (RawSchema.wrap? .plain unawareSchema) ∧
      (∀ v ∈ visited (RawSchema.wrap? .plain unawareSchema) (ofDocument unawareObject)
        (some (ofDocument unawareOld)), v.OldConverts) ∧
      (∀ v ∈ visited (RawSchema.wrap? .plain unawareSchema) (ofDocument unawareObject) none,
        v.OldConverts) ∧
      ∃ outcome, Bridge.StopsIff (∃ v ∈ visited (RawSchema.wrap? .plain unawareSchema)
          (ofDocument unawareObject) none, v.NewStops) outcome ∧
        validate .plain unawareSchema (ofDocument unawareObject)
          (some (ofDocument unawareOld)) = outcome ∧
        validate .plain unawareSchema (ofDocument unawareObject) none = outcome ∧
        validateCompiled (CompiledSchema.compile .plain unawareSchema)
          (ofDocument unawareObject) (some (ofDocument unawareOld)) = outcome ∧
        validateCompiled (CompiledSchema.compile .plain unawareSchema)
          (ofDocument unawareObject) none = outcome :=
  ⟨unaware_neverMentionsOld, unaware_oldConverts, unaware_oldConverts_none,
    validate_oblivious .plain unaware_neverMentionsOld (ofDocument unawareObject)
      unaware_oldConverts unaware_oldConverts_none⟩

/-- A schema with a rule that calls the old value behind a point. -/
def callingSchema : Document :=
  .object [("x-kubernetes-validations", .list [.object [("rule", .text ".oldSelf(0) == 1")]])]

/-- The root of the schema, which is all of it. -/
def callingRoot : RawSchema := ⟨.plain, membersOf (some callingSchema)⟩

theorem callingRoot_of_reaches {n : RawSchema} (h : Reaches callingRoot n) : n = callingRoot := by
  induction h with
  | root => rfl
  | property _ hp ih => subst ih; cases hp
  | item _ hc ih => subst ih; cases hc
  | additional _ hc ih => subst ih; cases hc

theorem calling_oldConverts (old : Option Document) (ho : ∀ o ∈ old, ¬ (ofDocument o).Overflows) :
    ∀ v ∈ visited (RawSchema.wrap? .plain callingSchema) (ofDocument (.int 0))
      (old.map ofDocument), v.OldConverts :=
  fun v hv => (visited_converts_ofDocument (.int 0) old (by decide +kernel) ho v hv).old

/-- No rule of the schema refers to the old value, yet the reports beside none and beside 1
differ. -/
theorem validate_calling :
    (∀ node, RawSchema.wrap? .plain callingSchema = some node → ∀ n, Reaches node n →
      ∀ r ∈ rules n, ∀ p ∈ r.programs, p.refersTo oldSelfName = false) ∧
    (∀ v ∈ visited (RawSchema.wrap? .plain callingSchema) (ofDocument (.int 0)) none,
      v.OldConverts) ∧
    (∀ v ∈ visited (RawSchema.wrap? .plain callingSchema) (ofDocument (.int 0))
      (some (ofDocument (.int 1))), v.OldConverts) ∧
    validate .plain callingSchema (ofDocument (.int 0)) none ≠
      validate .plain callingSchema (ofDocument (.int 0)) (some (ofDocument (.int 1))) := by
  refine ⟨?_, calling_oldConverts none (by decide +kernel),
    calling_oldConverts (some (.int 1)) (by decide +kernel), by decide +kernel⟩
  intro node hnode n hn
  obtain rfl := Option.some.inj hnode
  rw [callingRoot_of_reaches hn]
  decide +kernel

end Validator

end Admission
