import Admission.Expr.Program
import Admission.Proofs.Mention

/-!
# What an expression sees of its bindings

An expression looks up names, and nothing else of its bindings reaches its value. A name that a
macro binds is looked up in what the macro binds it to, so only the free names see the bindings of
the whole.

* `Activation.Agree`: activations at one place that bind alike the free names of some mentions.
* `Activation.Agree.bind`: under a macro the body agrees where the macro does.
* `Expr.eval_congr`: **where two activations agree on the free names of an expression, it has one
  value.**
* `Program.evaluate_of_free`: the same for programs under bindings.
* `Program.looksUp`, `Program.evaluate_congr`: the same with all names that are looked up.
* `Program.looksUp_iff`: a program looks up the names that it refers to and those that it calls
  behind a point.
-/

namespace Admission

/-! ### Agreement -/

/-- Two activations at one place that bind alike the free names of some mentions. -/
structure Activation.Agree (ms : List Expr.Mention) (env env' : Activation) : Prop where
  site : env.site = env'.site
  lookup : ∀ o : Expr.Occurrence, ⟨o, .free⟩ ∈ ms →
    env.bindings.lookup o.name = env'.bindings.lookup o.name

namespace Activation.Agree

variable {env env' : Activation} {ms ns : List Expr.Mention}

theorem append (h : Agree (ms ++ ns) env env') : Agree ms env env' ∧ Agree ns env env' :=
  ⟨⟨h.site, fun o ho => h.lookup o (List.mem_append_left ns ho)⟩,
    ⟨h.site, fun o ho => h.lookup o (List.mem_append_right ms ho)⟩⟩

theorem tail {m : Expr.Mention} (h : Agree (m :: ms) env env') : Agree ms env env' :=
  ⟨h.site, fun o ho => h.lookup o (List.mem_cons_of_mem m ho)⟩

/-- Activations that agree at a place agree at its parts. -/
theorem part (h : Agree ms env env') (i : Nat) : Agree ms (env.part i) (env'.part i) :=
  ⟨congrArg (i :: ·) h.site, h.lookup⟩

/-- **Under a macro that binds a name on both sides** its body agrees. -/
theorem bind {x? : Option Text} {x : Text} (h : Agree (ms.map (.under x?)) env env')
    (hx : x? = some x) (v : Value) : Agree ms (env.bind x v) (env'.bind x v) := by
  refine ⟨h.site, fun o ho => ?_⟩
  simp only [Activation.bind, List.lookup_cons]
  by_cases hname : o.name = x
  · rw [hname, beq_self_eq_true]
  · have hfree : x? ≠ some o.name := by
      rw [hx]
      exact fun he => hname (Option.some.inj he).symm
    rw [beq_false_of_ne hname, h.lookup o (Expr.free_mem_map_under.2 ⟨ho, hfree⟩)]

end Activation.Agree

namespace Expr

open Activation (Agree)

variable (c : Context)

theorem valueOf_congr {env env' : Activation} {o : Occurrence} {ms : List Mention}
    (h : Agree (⟨o, .free⟩ :: ms) env env') : valueOf c env o.name = valueOf c env' o.name := by
  rw [valueOf, valueOf, h.lookup o List.mem_cons_self]

/-- What follows a binder depends on the name that it binds only. -/
theorem bound_bind_congr {α : Type} {x : Expr} {f g : Text → Except Abort α}
    (h : ∀ n, x.lastName? = some n → f n = g n) : bound x >>= f = bound x >>= g := by
  rw [bound]
  cases hx : x.lastName? with
  | none => rfl
  | some n => exact h n hx

/-! ### Values -/

mutual

/-- **Activations that agree on the free names of an expression give it one value.** -/
theorem eval_congr {env env' : Activation} :
    ∀ e : Expr, Agree e.mentions env env' → eval c env e = eval c env' e
  | .literal _, _ | .defective, _ => rfl
  | .name _, h | .root _, h => congrArg Except.ok (valueOf_congr c h)
  | .rootCall _ args, h => by
    have hn := valueOf_congr c h
    simp only [eval, evalAll_congr args h.tail, hn]
  | .list items, h => by simp only [eval, evalAll_congr items h]
  | .map entries, h => by simp only [eval, evalEntries_congr entries h]
  | .operation _ operands, h => by simp only [eval, evalAll_congr operands h, h.site]
  | .choose cond yes no, h => by
    obtain ⟨h, hn⟩ := h.append
    obtain ⟨hc, hy⟩ := h.append
    simp only [eval, eval_congr cond (hc.part 0), eval_congr yes (hy.part 1),
      eval_congr no (hn.part 2)]
  | .select e _, h => by simp only [eval, eval_congr e (Agree.part h 0)]
  | .call _ args, h => by simp only [eval, evalAll_congr args h, h.site]
  | .method e _ args, h => by
    obtain ⟨he, ha⟩ := h.append
    simp only [eval, eval_congr e (he.part 0), evalAll_congr args ha, h.site]
  | .message e fields, h => by
    obtain ⟨he, hf⟩ := h.append
    simp only [eval, eval_congr e (he.part 0), evalFields_congr fields hf, h.site]
  | .has args, h => by simp only [eval, evalAll_congr args h]
  | .dyn args, h => by simp only [eval, evalAll_congr args h]
  | .comprehension m range x body, h => by
    obtain ⟨h, hb⟩ := h.append
    -- the name of the element is bound on both sides, so the body agrees at every element
    have hbody : ∀ n, x.lastName? = some n → ∀ i v, eval c ((env.part i).bind n v) body =
        eval c ((env'.part i).bind n v) body :=
      fun n hx i v => eval_congr body ((hb.part i).bind hx v)
    simp only [eval, eval_congr range (h.append.1.part 0)]
    refine bind_congr fun v => ?_
    split
    · rfl
    · refine bound_bind_congr fun n hx => ?_
      simp only [hbody n hx]
  | .reduce range r x start body, h => by
    obtain ⟨h, hb⟩ := h.append
    obtain ⟨h, hs⟩ := h.append
    obtain ⟨h, -⟩ := h.append
    have hbody : ∀ n, r.lastName? = some n → ∀ k, x.lastName? = some k → ∀ i v w,
        eval c (((env.part i).bind n v).bind k w) body =
          eval c (((env'.part i).bind n v).bind k w) body :=
      fun n hr k hx i v w => eval_congr body (((hb.part i).bind hr v).bind hx w)
    simp only [eval, eval_congr range (h.append.1.part 0), eval_congr start (hs.part 1)]
    refine bind_congr fun v => ?_
    split
    · rfl
    · refine bound_bind_congr fun n hr => bound_bind_congr fun k hx => ?_
      simp only [hbody n hr k hx]
  | .minimum range _, h => by simp only [eval, eval_congr range (h.append.1.part 0)]
  | .malformed range _, h => by simp only [eval, eval_congr range (h.append.1.part 0)]

theorem evalAll_congr {env env' : Activation} :
    ∀ es : List Expr, Agree (mentionsInAll es) env env' → evalAll c env es = evalAll c env' es
  | [], _ => rfl
  | e :: es, h => by
    obtain ⟨he, hes⟩ := h.append
    simp only [evalAll, eval_congr e (he.part _), evalAll_congr es hes]

theorem evalEntries_congr {env env' : Activation} :
    ∀ es : List (Expr × Expr), Agree (mentionsInEntries es) env env' →
      evalEntries c env es = evalEntries c env' es
  | [], _ => rfl
  | (k, v) :: es, h => by
    obtain ⟨h, hes⟩ := h.append
    obtain ⟨hk, hv⟩ := h.append
    simp only [evalEntries, eval_congr k (hk.part _), eval_congr v (hv.part _),
      evalEntries_congr es hes]

theorem evalFields_congr {env env' : Activation} {before : List (Value × Value)} :
    ∀ fs : List (Text × List Expr), Agree (mentionsInFields fs) env env' →
      evalFields c env before fs = evalFields c env' before fs
  | [], _ => rfl
  | (f, es) :: fs, h => by
    obtain ⟨hes, hfs⟩ := h.append
    simp only [evalFields, evalAll_congr es (hes.part _), evalFields_congr fs hfs]

end

end Expr

/-! ### Programs -/

namespace Program

/-- Whether a name occurs in a program with arguments behind a point. It looks like that of a
function then, and is looked up like any other. -/
def calls (p : Program) (name : Text) : Bool := p.expr.occurrences.contains ⟨name, true⟩

/-- Whether a program looks up a name. -/
def looksUp (p : Program) (name : Text) : Bool := p.expr.occurrences.any (·.name == name)

/-- Whether a name stands in a program for a variable of its bindings. -/
def hasFree (p : Program) (name : Text) : Bool :=
  p.expr.mentions.any fun m => m.name == name && m.role == .free

variable {p : Program} {name : Text}

theorem hasFree_iff :
    p.hasFree name ↔ ∃ called, ⟨⟨name, called⟩, .free⟩ ∈ p.expr.mentions := by
  simp only [hasFree, List.any_eq_true, Bool.and_eq_true, beq_iff_eq]
  constructor
  · rintro ⟨⟨⟨n, called⟩, role⟩, hm, rfl, rfl⟩
    exact ⟨called, hm⟩
  · rintro ⟨called, hm⟩
    exact ⟨_, hm, rfl, rfl⟩

/-- A program refers to the names that stand in it without arguments. -/
theorem refersTo_iff : p.refersTo name ↔ ⟨name, false⟩ ∈ p.expr.occurrences := by
  simp only [refersTo, Expr.names, List.contains_iff_mem, List.mem_map, List.mem_filter,
    Bool.not_eq_true']
  constructor
  · rintro ⟨⟨n, called⟩, ⟨ho, rfl⟩, rfl⟩
    exact ho
  · intro ho
    exact ⟨_, ⟨ho, rfl⟩, rfl⟩

/-- **A program looks up the names that it refers to, and those that it calls behind a point.** -/
theorem looksUp_iff : p.looksUp name ↔ p.refersTo name ∨ p.calls name := by
  rw [refersTo_iff]
  simp only [looksUp, calls, List.any_eq_true, beq_iff_eq, List.contains_iff_mem]
  constructor
  · rintro ⟨⟨n, called⟩, ho, rfl⟩
    cases called with
    | false => exact .inl ho
    | true => exact .inr ho
  · rintro (ho | ho)
    · exact ⟨_, ho, rfl⟩
    · exact ⟨_, ho, rfl⟩

/-- What is free in a program is looked up. -/
theorem looksUp_of_hasFree (h : p.hasFree name) : p.looksUp name := by
  obtain ⟨called, hm⟩ := hasFree_iff.1 h
  exact List.any_eq_true.2 ⟨_, Expr.mem_occurrences_iff.2 ⟨_, hm⟩, beq_self_eq_true name⟩

/-- **A program has one value under bindings that agree on its free names.** -/
theorem evaluate_of_free (p : Program) {b b' : Bindings}
    (h : ∀ n, p.hasFree n → b.lookup n = b'.lookup n) : p.evaluate b = p.evaluate b' := by
  have hagree : Activation.Agree p.expr.mentions ⟨b, []⟩ ⟨b', []⟩ :=
    ⟨rfl, fun o ho => h o.name (hasFree_iff.2 ⟨o.called, ho⟩)⟩
  rw [evaluate, evaluate, Expr.eval_congr p.context p.expr hagree]

/-- **A program has one value under bindings that agree on the names that it looks up.** -/
theorem evaluate_congr (p : Program) {b b' : Bindings}
    (h : ∀ n, p.looksUp n → b.lookup n = b'.lookup n) : p.evaluate b = p.evaluate b' :=
  p.evaluate_of_free fun n hn => h n (looksUp_of_hasFree hn)

end Program

end Admission
