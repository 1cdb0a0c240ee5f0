import Admission.Expr.Eval
import Admission.Proofs.Locating

/-!
# Receivers

Three functions go by the kind of their receiver: they know typed texts and typed lists, and refuse
every other receiver. An operation gives back bare contents, though. So what `+` has joined is
refused whatever it holds, where the same contents written out, or converted back to their type,
have a result.

* `Kind.isReceiver`: the kinds that the functions know.
* `Contents`: a text or a list, with its type or without.
* `apply_eq_unsupported_iff`: which receivers are refused.
* `Answerable`: the calls that have a result on contents with their type.
* `eval_method`, `eval_add`, `eval_conversion`: expressions that make and use receivers.
* `GoesByKind`, `goesByKind`: **what a function of receivers answers goes by the kind of the
  receiver, and not by its contents alone.**
-/

namespace Admission

/-- The kinds that the functions of receivers know. -/
def Kind.isReceiver : Kind → Bool
  | .text .typed | .list .typed => true
  | _ => false

namespace Library

open Admission.Expr (eval evalAll operateIn applyIn ofLibrary)

/-! ### Refused receivers -/

/-- A text or a list without regard to its type. -/
inductive Contents where
  | text (s : Text)
  | list (xs : List Value)

/-- The value with given contents, with its type or without. -/
def Contents.value (o : Origin) : Contents → Value
  | .text s => .text o s
  | .list xs => .list o xs

/-- Whether a fault says that a receiver is of a wrong kind. -/
def Fault.isUnsupported : Fault → Bool
  | .unsupported _ _ => true
  | _ => false

/-- A function that goes by the kind of its receiver, and further arguments for it. -/
inductive Dispatched : Extension → List Value → Prop
  | reverse : Dispatched .reverse []
  | first (x : Value) : Dispatched .indexOf [x]
  | firstFrom (x offset : Value) : Dispatched .indexOf [x, offset]
  | last (x : Value) : Dispatched .lastIndexOf [x]
  | lastUpTo (x offset : Value) : Dispatched .lastIndexOf [x, offset]

variable {e : Extension} {rest : List Value} {v x offset : Value} {k : Kind} {r : Contents}

/-- The functions know contents with their type and nothing else. -/
theorem isReceiver_kindOf_iff : v.kindOf.isReceiver ↔ ∃ r : Contents, v = r.value .typed := by
  constructor
  · intro h
    cases v with
    | text o s =>
      cases o with
      | typed => exact ⟨.text s, rfl⟩
      | bare => cases h
    | list o xs =>
      cases o with
      | typed => exact ⟨.list xs, rfl⟩
      | bare => cases h
    | int o | double o | bytes o | duration o => cases o <;> cases h
    | _ => cases h
  · rintro ⟨r, rfl⟩
    cases r <;> rfl

theorem avoids_offsetIn (length : Nat) : Avoids Fault.isUnsupported (offsetIn e length offset) := by
  unfold offsetIn requireInt
  refine .bind ?_ fun i => ?_
  · split
    · exact .ok _
    · exact .error rfl
  · split
    · exact .error rfl
    · exact .ok _

theorem avoids_firstEqual (start : Nat) (xs : List Value) :
    Avoids Fault.isUnsupported (firstEqual x start xs) := by
  induction xs generalizing start with
  | nil => exact .ok _
  | cons item xs ih =>
    unfold firstEqual
    refine .bind (.orBadCall rfl _) fun isEqual => ?_
    split
    · exact .ok _
    · exact ih _

theorem avoids_indexOf (r : Contents) (x offset : Value) :
    Avoids Fault.isUnsupported (indexOf (r.value .typed) x offset) := by
  cases r with
  | text s =>
    exact .bind (avoids_offsetIn _) fun _ => .bind (.contentsOf rfl _) fun _ => .ok _
  | list xs => exact .bind (avoids_firstEqual _ _) fun _ => .ok _

theorem avoids_lastIndexOf (r : Contents) (x offset : Value) :
    Avoids Fault.isUnsupported (lastIndexOf (r.value .typed) x offset) := by
  cases r with
  | text s =>
    unfold lastIndexOf
    dsimp only [Contents.value]
    split
    · exact .bind (.contentsOf rfl _) fun _ => .ok _
    · exact .bind (avoids_offsetIn _) fun _ => .bind (.contentsOf rfl _) fun _ => .ok _
  | list xs => exact .bind (avoids_firstEqual _ _) fun _ => .ok _

/-- **Contents with their type are not refused** for their kind, whatever the arguments are. -/
theorem Dispatched.avoids (h : Dispatched e rest) :
    Avoids Fault.isUnsupported (apply e (r.value .typed :: rest)) := by
  cases h with
  | reverse => cases r <;> exact .ok _
  | first | firstFrom => exact avoids_indexOf r _ _
  | last x => exact avoids_lastIndexOf r x .null
  | lastUpTo x offset => exact avoids_lastIndexOf r x offset

/-- **A receiver of another kind is refused** before any argument is looked at. -/
theorem Dispatched.refused (h : Dispatched e rest) (hv : v.kindOf.isReceiver = false) :
    apply e (v :: rest) = .error (.unsupported e v.kindOf) := by
  have hindexOf : ∀ x offset, indexOf v x offset = .error (.unsupported .indexOf v.kindOf) := by
    intro x offset
    unfold indexOf
    split
    · cases hv
    · cases hv
    · rfl
  have hlastIndexOf : ∀ x offset,
      lastIndexOf v x offset = .error (.unsupported .lastIndexOf v.kindOf) := by
    intro x offset
    unfold lastIndexOf
    split
    · cases hv
    · cases hv
    · rfl
  cases h with
  | reverse =>
    change Library.reverse v = _
    unfold Library.reverse
    split
    · cases hv
    · cases hv
    · rfl
  | first | firstFrom => exact hindexOf _ _
  | last x => exact hlastIndexOf x .null
  | lastUpTo x offset => exact hlastIndexOf x offset

theorem isReceiver_bare (r : Contents) : (r.value .bare).kindOf.isReceiver = false := by
  cases r <;> rfl

/-- **Which receivers are refused:** those of all kinds but typed texts and typed lists. -/
theorem apply_eq_unsupported_iff (h : Dispatched e rest) :
    apply e (v :: rest) = .error (.unsupported e k) ↔ v.kindOf = k ∧ k.isReceiver = false := by
  constructor
  · intro hfault
    by_cases hv : v.kindOf.isReceiver
    · obtain ⟨r, rfl⟩ := isReceiver_kindOf_iff.1 hv
      cases h.avoids _ hfault
    · have hfalse : v.kindOf.isReceiver = false := Bool.eq_false_iff.2 hv
      rw [h.refused hfalse] at hfault
      obtain rfl : v.kindOf = k := by
        injection hfault with hfault
        injection hfault
      exact ⟨rfl, hfalse⟩
  · rintro ⟨rfl, hv⟩
    exact h.refused hv

/-! ### Calls that have a result -/

/-- **A call that has a result on contents with their type:** a text is searched for a text, from or
up to an integer inside it, and a list for what its items can be compared with. -/
inductive Answerable : Extension → Contents → List Value → Prop
  | reverse (r : Contents) : Answerable .reverse r []
  | first (o : Origin) (s x : Text) : Answerable .indexOf (.text s) [.text o x]
  | firstFrom (o : Origin) (s x : Text) {offset : Value} {m : Nat}
      (h : offset.integer? = some (m : Int)) (hm : m ≤ s.length) :
      Answerable .indexOf (.text s) [.text o x, offset]
  | last (o : Origin) (s x : Text) : Answerable .lastIndexOf (.text s) [.text o x]
  | lastUpTo (o : Origin) (s x : Text) {offset : Value} {m : Nat}
      (h : offset.integer? = some (m : Int)) (hm : m ≤ s.length) :
      Answerable .lastIndexOf (.text s) [.text o x, offset]
  | firstItem {x : Value} {xs : List Value} (h : Comparable x xs) :
      Answerable .indexOf (.list xs) [x]
  /-- In a list the offset is not looked at. -/
  | firstItemFrom {x : Value} {xs : List Value} (offset : Value) (h : Comparable x xs) :
      Answerable .indexOf (.list xs) [x, offset]
  | lastItem {x : Value} {xs : List Value} (h : Comparable x xs) :
      Answerable .lastIndexOf (.list xs) [x]
  | lastItemUpTo {x : Value} {xs : List Value} (offset : Value) (h : Comparable x xs) :
      Answerable .lastIndexOf (.list xs) [x, offset]

theorem Answerable.dispatched (h : Answerable e r rest) : Dispatched e rest := by
  cases h with
  | reverse => exact .reverse
  | first | firstItem => exact .first _
  | firstFrom | firstItemFrom => exact .firstFrom _ _
  | last | lastItem => exact .last _
  | lastUpTo | lastItemUpTo => exact .lastUpTo _ _

/-- **Such a call has a result,** which is no float and so the same wherever it is evaluated. -/
theorem Answerable.answered (h : Answerable e r rest) :
    ∃ w, apply e (r.value .typed :: rest) = .ok w ∧ ∀ site, w.placed site = w := by
  cases h with
  | reverse => cases r <;> exact ⟨_, rfl, fun _ => rfl⟩
  | first o s x => exact ⟨_, indexOf_whole o s x, fun _ => rfl⟩
  | firstFrom o s x h hm =>
    exact ⟨_, indexOf_text (offsetIn_inside .indexOf h hm), fun _ => rfl⟩
  | last o s x => exact ⟨_, lastIndexOf_whole o s x, fun _ => rfl⟩
  | lastUpTo o s x h hm =>
    exact ⟨_, lastIndexOf_text h (offsetIn_inside .lastIndexOf h hm), fun _ => rfl⟩
  | firstItem h | firstItemFrom offset h => exact ⟨_, indexOf_items h, fun _ => rfl⟩
  | lastItem h | lastItemUpTo offset h => exact ⟨_, lastIndexOf_items h, fun _ => rfl⟩

/-! ### Expressions -/

/-- What two texts or two lists are, one behind the other. -/
inductive Joined : Value → Value → Contents → Prop
  | text (o o' : Origin) (s t : Text) : Joined (.text o s) (.text o' t) (.text (s ++ t))
  | list (o o' : Origin) (xs ys : List Value) : Joined (.list o xs) (.list o' ys) (.list (xs ++ ys))

variable {c : Context} {env : Activation} {receiver a b : Expr} {args : List Expr} {f g : Text}
  {y : Value}

/-- A function of a receiver is given the values of the receiver and of the arguments. -/
theorem eval_method (hv : eval c (env.part 0) receiver = .ok v)
    (hargs : evalAll c env args = .ok rest) :
    eval c env (.method receiver f args) =
      (applyIn c f (v :: rest)).map fun w => w.placed env.site := by
  simp only [eval, hv, hargs]
  change (do return (← applyIn c f (v :: rest)).placed env.site) = _
  cases applyIn c f (v :: rest) <;> rfl

/-- **Two texts or lists are joined to bare contents,** if nothing takes the place of the
operator. -/
theorem eval_add (hadd : c.callable? Operator.add.name = none) (h : Joined x y r)
    (hoperands : evalAll c env [a, b] = .ok [x, y]) :
    eval c env (.operation .add [a, b]) = .ok (r.value .bare) := by
  simp only [eval, hoperands, operateIn, hadd]
  cases h <;> rfl

/-- **A conversion gives contents their type.** -/
theorem eval_conversion (hg : c.function? g = some (.conversion (r.value .typed).kindOf))
    (hv : eval c (env.part 1) receiver = .ok (r.value .bare)) :
    eval c env (.call g [receiver]) = .ok (r.value .typed) := by
  have hargs : evalAll c env [receiver] = .ok [r.value .bare] := by
    simp only [evalAll, List.length_nil, Nat.zero_add, hv]
    rfl
  simp only [eval, hargs, applyIn, hg]
  cases r <;> rfl

/-- The outcome of an extension function under its name in a context. -/
theorem applyIn_extension (hf : c.function? f = some (.callable (.extension e))) (vs : List Value) :
    applyIn c f vs = if vs.any Value.isError then .ok .error else ofLibrary (apply e vs) := by
  unfold applyIn
  rw [hf]
  rfl

theorem isError_value (o : Origin) (r : Contents) : (r.value o).isError = false := by
  cases r <;> rfl

/-- **A function of a receiver with its type** has the result of the call. -/
theorem eval_method_typed (hf : c.function? f = some (.callable (.extension e)))
    (hv : eval c (env.part 0) receiver = .ok (r.value .typed))
    (hargs : evalAll c env args = .ok rest) (herror : rest.any Value.isError = false)
    (h : Answerable e r rest) :
    ∃ w, apply e (r.value .typed :: rest) = .ok w ∧
      eval c env (.method receiver f args) = .ok w := by
  obtain ⟨w, hw, hplaced⟩ := h.answered
  refine ⟨w, hw, ?_⟩
  have happly : applyIn c f (r.value .typed :: rest) = .ok w := by
    rw [applyIn_extension hf, List.any_cons, isError_value, herror, hw]
    rfl
  rw [eval_method hv hargs, happly, Except.map, hplaced]

/-- **A function of a receiver without its type** fails, whatever the arguments are. -/
theorem eval_method_bare (hf : c.function? f = some (.callable (.extension e)))
    (hv : eval c (env.part 0) receiver = .ok (r.value .bare))
    (hargs : evalAll c env args = .ok rest) (h : Dispatched e rest) :
    eval c env (.method receiver f args) = .ok .error := by
  have happly : applyIn c f (r.value .bare :: rest) = .ok .error := by
    rw [applyIn_extension hf, h.refused (isReceiver_bare r)]
    -- an argument that has failed does not make a difference
    split <;> rfl
  rw [eval_method hv hargs, happly]
  rfl

/-! ### Functions of receivers -/

/-- **What it means that a function of receivers goes by the kind of the receiver.** -/
structure GoesByKind (c : Context) (f : Text) (e : Extension) : Prop where
  /-- Receivers of all kinds but typed texts and typed lists are refused, and no others. -/
  refused_iff : ∀ (v : Value) (k : Kind) (rest : List Value), Dispatched e rest →
    (apply e (v :: rest) = .error (.unsupported e k) ↔ v.kindOf = k ∧ k.isReceiver = false)
  /-- The same contents are answered with their type and refused without it. -/
  differs : ∀ (r : Contents) (rest : List Value), Answerable e r rest →
    (∃ w, apply e (r.value .typed :: rest) = .ok w) ∧
      apply e (r.value .bare :: rest) = .error (.unsupported e (r.value .bare).kindOf)
  /-- However contents with their type were made, the function has the result of the call. -/
  typed : ∀ (env : Activation) (receiver : Expr) (args : List Expr) (r : Contents)
    (rest : List Value), eval c (env.part 0) receiver = .ok (r.value .typed) →
    evalAll c env args = .ok rest → rest.any Value.isError = false → Answerable e r rest →
    ∃ w, apply e (r.value .typed :: rest) = .ok w ∧ eval c env (.method receiver f args) = .ok w
  /-- However contents without their type were made, the function fails. -/
  bare : ∀ (env : Activation) (receiver : Expr) (args : List Expr) (r : Contents)
    (rest : List Value), eval c (env.part 0) receiver = .ok (r.value .bare) →
    evalAll c env args = .ok rest → Dispatched e rest →
    eval c env (.method receiver f args) = .ok .error
  /-- It fails on what `+` has joined. -/
  joined : ∀ (env : Activation) (a b : Expr) (args : List Expr) (x y : Value) (r : Contents)
    (rest : List Value), Joined x y r → evalAll c (env.part 0) [a, b] = .ok [x, y] →
    evalAll c env args = .ok rest → Dispatched e rest →
    eval c env (.method (.operation .add [a, b]) f args) = .ok .error
  /-- On what was joined and converted to its type it has the result for the joined contents. -/
  converted : ∀ (env : Activation) (a b : Expr) (g : Text) (args : List Expr) (x y : Value)
    (r : Contents) (rest : List Value), Joined x y r →
    evalAll c ((env.part 0).part 1) [a, b] = .ok [x, y] →
    c.function? g = some (.conversion (r.value .typed).kindOf) →
    evalAll c env args = .ok rest → rest.any Value.isError = false → Answerable e r rest →
    ∃ w, apply e (r.value .typed :: rest) = .ok w ∧
      eval c env (.method (.call g [.operation .add [a, b]]) f args) = .ok w

/-- **A function of receivers goes by the kind of the receiver,** in every context with the
function in which `+` is the operator: the same contents are answered with their type and refused
without it. -/
theorem goesByKind (hf : c.function? f = some (.callable (.extension e)))
    (hadd : c.callable? Operator.add.name = none) : GoesByKind c f e where
  refused_iff _ _ _ := apply_eq_unsupported_iff
  differs r rest h := by
    obtain ⟨w, hw, -⟩ := h.answered
    exact ⟨⟨w, hw⟩, h.dispatched.refused (isReceiver_bare r)⟩
  typed _ _ _ _ _ := eval_method_typed hf
  bare _ _ _ _ _ := eval_method_bare hf
  joined _ _ _ _ _ _ _ _ hjoined hoperands := eval_method_bare hf (eval_add hadd hjoined hoperands)
  converted _ _ _ _ _ _ _ _ _ hjoined hoperands hg :=
    eval_method_typed hf (eval_conversion hg (eval_add hadd hjoined hoperands))

/-- The last place of a part, among all functions that there are. -/
theorem goesByKind_lastIndexOf :
    Context.plain.function? "lastIndexOf" = some (.callable (.extension .lastIndexOf)) ∧
      Context.plain.callable? Operator.add.name = none ∧
      GoesByKind .plain "lastIndexOf" .lastIndexOf := by
  have hf : Context.plain.function? "lastIndexOf" =
      some (.callable (.extension .lastIndexOf)) := by rfl
  have hadd : Context.plain.callable? Operator.add.name = none := by rfl
  exact ⟨hf, hadd, goesByKind hf hadd⟩

/-- Two texts have no reverse when they are joined, and the text of the two has one. -/
theorem reverse_joined :
    eval .plain ⟨[], []⟩ (.method
      (.operation .add [.literal (.ofString "a"), .literal (.ofString "b")]) "reverse" []) =
        .ok .error ∧
    eval .plain ⟨[], []⟩ (.method (.literal (.ofString "ab")) "reverse" []) =
      .ok (.ofString "ba") :=
  ⟨by rfl, by rfl⟩

end Library

end Admission
