import Admission.Proofs.References

/-!
# What an expression sees of its context

An expression looks up functions in its context, each under a name: a name that is bound to
nothing, the name of a call or method, or the name of an operator. Nothing else of the context
reaches its value. What fields, labels and binders are called, and what macros are called, is
never looked up.

* `Context.Resolves`: the function of a name is that of the last group that exposes the name.
* `Context.callable?_eq_some_iff`: the look-up in a context finds this function.
* `Context.callable?_filter`: groups that do not expose a name take no part in its look-up.
* `Expr.functionNames`: the names under which an expression looks up functions.
* `Expr.eval_of_agree`: **contexts that agree on these names give an expression one value.**
* `Program.compile_independent`: a text is a program in all contexts or in none, and programs of
  one text have one value where the contexts agree.
-/

namespace Admission

/-- Elements without a result may be left out of a search for the first result. -/
theorem findSome?_filter {α β : Type} {f : α → Option β} {keep : α → Bool}
    (h : ∀ a, keep a = false → f a = none) :
    ∀ xs : List α, (xs.filter keep).findSome? f = xs.findSome? f
  | [] => rfl
  | x :: xs => by
    cases hx : keep x with
    | true => rw [List.filter_cons_of_pos hx, List.findSome?_cons, List.findSome?_cons,
        findSome?_filter h xs]
    | false =>
      have hnone : f x = none := h x hx
      rw [List.filter_cons_of_neg (by rw [hx]; exact Bool.false_ne_true),
        List.findSome?_cons_of_isNone (by rw [hnone]; rfl), findSome?_filter h xs]

/-! ### The function of a name -/

/-- Whether a group exposes a name. -/
def FunctionGroup.exposes (g : FunctionGroup) (name : Text) : Bool :=
  (g.functions.lookup name).isSome

namespace Context

/-- A function is that of a name: the last group that exposes the name exposes this function. -/
def Resolves (c : Context) (name : Text) (f : Callable) : Prop :=
  ∃ before g after, c.groups = before ++ g :: after ∧ g.functions.lookup name = some f ∧
    ∀ later ∈ after, later.exposes name = false

/-- Two contexts have the same function of a name, or both have none. -/
def ResolveAlike (c c' : Context) (name : Text) : Prop :=
  ∀ f, c.Resolves name f ↔ c'.Resolves name f

variable {c c' : Context} {name : Text} {f : Callable}

/-- **The look-up in a context finds the function of the last group that exposes the name.** -/
theorem callable?_eq_some_iff : c.callable? name = some f ↔ c.Resolves name f := by
  rw [callable?, List.findSome?_eq_some_iff]
  constructor
  · rintro ⟨later, g, before, hgroups, hg, hlater⟩
    have hc : c.groups = before.reverse ++ g :: later.reverse := by
      rw [← List.reverse_reverse c.groups, hgroups, List.reverse_append, List.reverse_cons,
        List.append_assoc, List.singleton_append]
    refine ⟨_, g, _, hc, hg, fun g' hg' => ?_⟩
    rw [FunctionGroup.exposes, hlater g' (List.mem_reverse.1 hg'), Option.isSome_none]
  · rintro ⟨before, g, after, hgroups, hg, hafter⟩
    have hc : c.groups.reverse = after.reverse ++ g :: before.reverse := by
      rw [hgroups, List.reverse_append, List.reverse_cons, List.append_assoc,
        List.singleton_append]
    refine ⟨_, g, _, hc, hg, fun g' hg' => ?_⟩
    have hhidden := hafter g' (List.mem_reverse.1 hg')
    exact Option.isNone_iff_eq_none.1 (Option.isSome_eq_false_iff.1 hhidden)

/-- Where two groups expose one name, the later one counts. -/
example (host : Host) : Context.callable? ⟨[⟨"first", [("pick", .given 0)]⟩,
    ⟨"second", [("pick", .given 1)]⟩, ⟨"third", [("other", .extension .max)]⟩], host⟩ "pick" =
      some (.given 1) := by rfl

theorem resolveAlike_iff : ResolveAlike c c' name ↔ c.callable? name = c'.callable? name := by
  simp only [ResolveAlike, ← callable?_eq_some_iff]
  constructor
  · intro h
    exact Option.ext h
  · intro h f
    rw [h]

/-- **Groups that do not expose a name take no part in its look-up.** -/
theorem callable?_filter {keep : FunctionGroup → Bool}
    (hkeep : ∀ g, g.exposes name = true → keep g = true) :
    Context.callable? ⟨c.groups.filter keep, c.host⟩ name = c.callable? name := by
  rw [callable?, callable?, ← List.filter_reverse]
  refine findSome?_filter (fun g hg => ?_) c.groups.reverse
  have hhidden : ¬(g.functions.lookup name).isSome = true := by
    intro hexposed
    rw [hkeep g hexposed] at hg
    exact Bool.noConfusion hg
  exact Option.not_isSome_iff_eq_none.1 hhidden

end Context

/-! ### The names of an expression -/

namespace Expr

mutual

/-- **The names under which an expression looks up functions:** the names of its values, calls and
methods, and those of its operators. -/
def functionNames : Expr → List Text
  | .literal _ | .defective => []
  | .name n => [n]
  | .root n => [n]
  | .rootCall n args => n :: functionNamesInAll args
  | .list items => functionNamesInAll items
  | .map entries => functionNamesInEntries entries
  | .operation o operands => o.name :: functionNamesInAll operands
  | .choose c a b =>
    Operator.choose.name :: (functionNames c ++ functionNames a ++ functionNames b)
  | .select e _ => functionNames e
  | .call f args => f :: functionNamesInAll args
  | .method e f args => f :: (functionNames e ++ functionNamesInAll args)
  | .message e fields => functionNames e ++ functionNamesInFields fields
  | .has args => functionNamesInAll args
  | .dyn args => functionNamesInAll args
  | .comprehension _ range _ body => functionNames range ++ functionNames body
  | .reduce range _ _ start body =>
    functionNames range ++ functionNames start ++ functionNames body
  | .minimum range _ => functionNames range
  | .malformed range _ => functionNames range

/-- The names in a row of expressions. -/
def functionNamesInAll : List Expr → List Text
  | [] => []
  | e :: es => functionNames e ++ functionNamesInAll es

/-- The names in the keys and values of a map. -/
def functionNamesInEntries : List (Expr × Expr) → List Text
  | [] => []
  | (k, v) :: es => functionNames k ++ functionNames v ++ functionNamesInEntries es

/-- The names in the values of fields. -/
def functionNamesInFields : List (Text × List Expr) → List Text
  | [] => []
  | (_, es) :: fs => functionNamesInAll es ++ functionNamesInFields fs

end

end Expr

/-! ### Agreement of contexts -/

/-- Two contexts of one host that have the same function, or none, of each of some names. -/
structure Context.Agree (names : List Text) (c c' : Context) : Prop where
  host : c.host = c'.host
  callable : ∀ n ∈ names, c.callable? n = c'.callable? n

namespace Context.Agree

variable {c c' : Context} {name : Text} {ns ms : List Text}

theorem append (h : Agree (ns ++ ms) c c') : Agree ns c c' ∧ Agree ms c c' :=
  ⟨⟨h.host, fun n hn => h.callable n (List.mem_append_left ms hn)⟩,
    ⟨h.host, fun n hn => h.callable n (List.mem_append_right ns hn)⟩⟩

theorem tail (h : Agree (name :: ns) c c') : Agree ns c c' :=
  ⟨h.host, fun n hn => h.callable n (List.mem_cons_of_mem name hn)⟩

theorem head (h : Agree (name :: ns) c c') : c.callable? name = c'.callable? name :=
  h.callable name List.mem_cons_self

/-- The built-in functions are those of every context, so they need no agreement. -/
theorem function? (h : Agree (name :: ns) c c') : c.function? name = c'.function? name := by
  rw [Context.function?, Context.function?, h.head]

/-- A function is the same in both contexts, whoever gives it. -/
theorem call (h : Agree ns c c') : c.call = c'.call := by
  funext f
  cases f with
  | extension e => rfl
  | given number => exact congrFun (congrArg Host.call h.host) number

end Context.Agree

namespace Expr

open Context (Agree)

variable {c c' : Context} {n : Text} {ns : List Text}

/-! The places where an evaluation looks into its context: four for names, and the calls. -/

theorem apply_of_agree (h : Agree ns c c') : apply c = apply c' := by
  funext f args
  cases f with
  | callable f => exact congrArg (fun call => ofLibrary (call f args)) h.call
  | _ => rfl

theorem ofCallable_of_agree (h : Agree ns c c') : ofCallable c = ofCallable c' := by
  funext f operands
  rw [ofCallable, ofCallable, h.call]

theorem construct_of_agree (h : Agree ns c c') : construct c = construct c' := by
  funext type fields
  unfold construct ofFields
  rw [apply_of_agree h, ofCallable_of_agree h]

theorem valueOf_of_agree (h : Agree (n :: ns) c c') (env : Activation) :
    valueOf c env n = valueOf c' env n := by
  rw [valueOf, valueOf, h.function?]

theorem operateIn_of_agree {o : Operator} (h : Agree (o.name :: ns) c c')
    (operands : List Value) : operateIn c o operands = operateIn c' o operands := by
  rw [operateIn, operateIn, h.head, ofCallable_of_agree h]

theorem applyIn_of_agree (h : Agree (n :: ns) c c') (args : List Value) :
    applyIn c n args = applyIn c' n args := by
  rw [applyIn, applyIn, h.function?, apply_of_agree h]

theorem chosen_of_agree (h : Agree (Operator.choose.name :: ns) c c') (condition : Value)
    (branch : Except Abort Value) : chosen c condition branch = chosen c' condition branch := by
  unfold chosen
  rw [h.head, ofCallable_of_agree h]

mutual

/-- **Contexts that agree on the names of an expression give it one value,** under every
activation. -/
theorem eval_of_agree (env : Activation) :
    ∀ e : Expr, Agree e.functionNames c c' → eval c env e = eval c' env e
  | .literal _, _ | .defective, _ => rfl
  | .name _, h | .root _, h => congrArg Except.ok (valueOf_of_agree h env)
  | .rootCall _ args, h => by
    have hargs := evalAll_of_agree env args h.tail
    simp only [eval, hargs, valueOf_of_agree h env]
  | .list items, h => by simp only [eval, evalAll_of_agree env items h]
  | .map entries, h => by simp only [eval, evalEntries_of_agree env entries h]
  | .operation _ operands, h => by
    have hoperands := evalAll_of_agree env operands h.tail
    simp only [eval, hoperands, operateIn_of_agree h]
  | .choose cond yes no, h => by
    obtain ⟨htail, hno⟩ := h.tail.append
    obtain ⟨hcond, hyes⟩ := htail.append
    simp only [eval, eval_of_agree _ cond hcond, eval_of_agree _ yes hyes, eval_of_agree _ no hno,
      chosen_of_agree h]
  | .select e _, h => by simp only [eval, eval_of_agree _ e h]
  | .call _ args, h => by
    have hargs := evalAll_of_agree env args h.tail
    simp only [eval, hargs, applyIn_of_agree h]
  | .method e _ args, h => by
    obtain ⟨he, hargs⟩ := h.tail.append
    simp only [eval, eval_of_agree _ e he, evalAll_of_agree _ args hargs, applyIn_of_agree h]
  | .message e fields, h => by
    obtain ⟨he, hfields⟩ := h.append
    simp only [eval, eval_of_agree _ e he, evalFields_of_agree _ _ fields hfields,
      construct_of_agree h]
  | .has args, h => by simp only [eval, evalAll_of_agree env args h]
  | .dyn args, h => by simp only [eval, evalAll_of_agree env args h]
  | .comprehension _ range _ body, h => by
    obtain ⟨hrange, hbody⟩ := h.append
    -- the body agrees at every element, whatever the macro binds
    have hvalue : ∀ inner, eval c inner body = eval c' inner body :=
      fun inner => eval_of_agree inner body hbody
    simp only [eval, eval_of_agree _ range hrange, hvalue]
  | .reduce range _ _ start body, h => by
    obtain ⟨hfront, hbody⟩ := h.append
    obtain ⟨hrange, hstart⟩ := hfront.append
    have hvalue : ∀ inner, eval c inner body = eval c' inner body :=
      fun inner => eval_of_agree inner body hbody
    simp only [eval, eval_of_agree _ range hrange, eval_of_agree _ start hstart, hvalue]
  | .minimum range _, h => by simp only [eval, eval_of_agree _ range h]
  | .malformed range _, h => by simp only [eval, eval_of_agree _ range h]

theorem evalAll_of_agree (env : Activation) :
    ∀ es : List Expr, Agree (functionNamesInAll es) c c' → evalAll c env es = evalAll c' env es
  | [], _ => rfl
  | e :: es, h => by
    obtain ⟨he, hes⟩ := h.append
    simp only [evalAll, eval_of_agree _ e he, evalAll_of_agree _ es hes]

theorem evalEntries_of_agree (env : Activation) :
    ∀ es : List (Expr × Expr), Agree (functionNamesInEntries es) c c' →
      evalEntries c env es = evalEntries c' env es
  | [], _ => rfl
  | (k, v) :: es, h => by
    obtain ⟨hentry, hes⟩ := h.append
    obtain ⟨hk, hv⟩ := hentry.append
    simp only [evalEntries, eval_of_agree _ k hk, eval_of_agree _ v hv,
      evalEntries_of_agree _ es hes]

theorem evalFields_of_agree (env : Activation) (before : List (Value × Value)) :
    ∀ fs : List (Text × List Expr), Agree (functionNamesInFields fs) c c' →
      evalFields c env before fs = evalFields c' env before fs
  | [], _ => rfl
  | (_, es) :: fs, h => by
    obtain ⟨hes, hfs⟩ := h.append
    simp only [evalFields, evalAll_of_agree _ es hes, evalFields_of_agree _ _ fs hfs]

end

end Expr

/-! ### Programs -/

namespace Program

variable {c c' : Context} {p p' : Program}

/-- The names under which a program looks up functions. -/
def functionNames (p : Program) : List Text := p.expr.functionNames

/-- The groups of a context that expose some name of a program. -/
def groupsFor (p : Program) (c : Context) : List FunctionGroup :=
  c.groups.filter fun g => p.functionNames.any g.exposes

/-- What two programs of one text have in common, whatever their contexts are. -/
structure Independent (p p' : Program) : Prop where
  references : p.references = p'.references
  names : p.functionNames = p'.functionNames
  /-- **Only the names count.** Where each of them has one function in both contexts or none in
  both, the programs have one outcome under all bindings. -/
  evaluate : (∀ n ∈ p.functionNames, p.context.ResolveAlike p'.context n) →
    ∀ b, p.evaluate b = p'.evaluate b
  /-- **The other groups do not count,** so they may be added, taken away and moved. -/
  groups : p.groupsFor p.context = p.groupsFor p'.context → ∀ b, p.evaluate b = p'.evaluate b

/-- Programs of one expression and text have one outcome in contexts that agree. -/
theorem evaluate_of_agree (htext : p.text = p'.text) (hexpr : p.expr = p'.expr)
    (h : Context.Agree p.functionNames p.context p'.context) (b : Bindings) :
    p.evaluate b = p'.evaluate b := by
  have heval := Expr.eval_of_agree ⟨b, []⟩ p.expr h
  rw [evaluate, evaluate, heval, ← hexpr, ← htext]

/-- The groups that expose some name of a program have the functions of all its names. -/
theorem callable?_groupsFor {n : Text} (hn : n ∈ p.functionNames) (c : Context) :
    Context.callable? ⟨p.groupsFor c, c.host⟩ n = c.callable? n := by
  refine Context.callable?_filter fun g hg => ?_
  exact List.any_eq_true.2 ⟨n, hn, hg⟩

theorem independent_of_eq (htext : p.text = p'.text) (hexpr : p.expr = p'.expr)
    (hhost : p.context.host = p'.context.host) : Independent p p' where
  references := by rw [Program.references, Program.references, hexpr]
  names := by rw [functionNames, functionNames, hexpr]
  evaluate h := evaluate_of_agree htext hexpr
    ⟨hhost, fun n hn => Context.resolveAlike_iff.1 (h n hn)⟩
  groups h := evaluate_of_agree htext hexpr ⟨hhost, fun n hn => by
    rw [← callable?_groupsFor hn p.context, h, hhost, callable?_groupsFor hn p'.context]⟩

/-- **A program depends on its context only through the names under which it looks up
functions,** whatever the functions of the host do. A text is a program in all contexts or in none;
the programs of one text have the same references, and one outcome where these names have the same
functions. -/
theorem compile_independent (text : Text) (host : Host) (gs gs' : List FunctionGroup) :
    (∀ f, compile ⟨gs, host⟩ text = .error f ↔ compile ⟨gs', host⟩ text = .error f) ∧
      ∀ p, compile ⟨gs, host⟩ text = .ok p →
        ∃ p', compile ⟨gs', host⟩ text = .ok p' ∧ p.context = ⟨gs, host⟩ ∧
          p'.context = ⟨gs', host⟩ ∧ Independent p p' := by
  delta compile
  cases Expr.read? text with
  | none =>
    refine ⟨fun f => Iff.rfl, fun p hp => ?_⟩
    cases hp
  | some e =>
    refine ⟨fun f => ⟨?_, ?_⟩, fun p hp => ?_⟩
    · intro hf
      cases hf
    · intro hf
      cases hf
    cases hp
    exact ⟨_, rfl, rfl, rfl, independent_of_eq rfl rfl rfl⟩

/-- Text of a program with one call and one operator. -/
def maskedText : Text := "self.mask() == '*'"

/-- A group with a function that the caller gives. -/
def masks : FunctionGroup := ⟨"masks", [("find", .extension .reverse), ("mask", .given 0)]⟩

/-- A host whose functions of all numbers hide what they are given. -/
def maskingHost : Host := { Host.bare with call := fun _ _ => .ok (.ofString "*") }

/-- The program has one outcome beside that group alone, behind all groups and an older function of
its name, and in another order beside names that it does not use. -/
theorem compile_independent_masked :
    ∃ p, compile ⟨[masks], maskingHost⟩ maskedText = .ok p ∧
      p.functionNames = [Operator.equal.name, "mask", selfName] ∧
      (p.evaluate [(selfName, .null)]).toOption.any Value.isYes ∧
      (∃ p', compile ⟨⟨"older", [("mask", .given 1)]⟩ :: FunctionGroup.standard ++ [masks],
          maskingHost⟩ maskedText = .ok p' ∧ ∀ b, p.evaluate b = p'.evaluate b) ∧
      ∃ p', compile ⟨masks :: ⟨"others", [("masks", .given 1)]⟩ :: FunctionGroup.standard.reverse,
          maskingHost⟩ maskedText = .ok p' ∧ ∀ b, p.evaluate b = p'.evaluate b := by
  obtain ⟨p, hp, hq⟩ : ∃ p, compile ⟨[masks], maskingHost⟩ maskedText = .ok p ∧
      decide (p.functionNames = [Operator.equal.name, "mask", selfName] ∧
        (p.evaluate [(selfName, .null)]).toOption.any Value.isYes) :=
    exists_compile_eq_ok (by decide +kernel)
  obtain ⟨hnames, hyes⟩ := of_decide_eq_true hq
  refine ⟨p, hp, hnames, hyes, ?_, ?_⟩
  · obtain ⟨p', hp', hc, hc', hall⟩ :=
      (compile_independent maskedText maskingHost [masks] _).2 p hp
    refine ⟨p', hp', hall.evaluate fun n hn => ?_⟩
    rw [hnames] at hn
    rw [hc, hc', Context.resolveAlike_iff]
    revert n
    decide +kernel
  · obtain ⟨p', hp', hc, hc', hall⟩ :=
      (compile_independent maskedText maskingHost [masks] _).2 p hp
    refine ⟨p', hp', hall.groups ?_⟩
    rw [hc, hc', groupsFor, groupsFor, hnames]
    decide +kernel

end Program

end Admission
