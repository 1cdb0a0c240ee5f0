import Admission.Library.Call
import Admission.Proofs.Gather

/-!
# Integer arguments

Ten parameters of eight functions stand for integers: indices, offsets and limits. All of them are
checked by one reading of the argument, which goes by the number in it. A boolean with the type of
the language has one, so it is taken for its number; a boolean without a type and what has no number
are refused before anything else is looked at. Two parameters may
be left out in favour of null, and null in their place stands for that.

* `Value.integer?`: the integers among the values.
* `Avoids`, `Accepted`: outcomes that are no fault of a sort, no refusal of a kind.
* `Parameter.Call`: the calls with an argument in the place of an integer parameter.
* `Parameter.admits`: the arguments that a parameter takes.
* `checksInteger`: **a call is refused for an argument exactly if its parameter does not take it,
  and a boolean counts as its number.**
-/

namespace Admission

namespace Value

/-- The integer that a value is, signed or unsigned. A boolean is none. -/
def integer? : Value → Option Int
  | .int _ n => some n
  | .uint n => some n
  | _ => none

end Value

namespace Library

theorem argument?_of_integer? {v : Value} {n : Int} (h : v.integer? = some n) :
    argument? v = some n := by
  cases v with
  | int o m => exact h
  | uint m => exact h
  | _ => cases h

theorem isSome_argument?_of_integer? {v : Value} (h : v.integer?.isSome) :
    (argument? v).isSome := by
  obtain ⟨n, hn⟩ := Option.isSome_iff_exists.1 h
  rw [argument?_of_integer? hn]
  rfl

/-! ### Faults of kinds -/

/-- Whether a fault says that an argument or an item is of a wrong kind. -/
def Fault.isOfKind : Fault → Bool
  | .notInt _ _ | .notText _ | .mixed _ | .unsupported _ _ => true
  | _ => false

/-- The outcome is no fault of a sort. -/
def Avoids {α : Type} (sort : Fault → Bool) (r : Except Fault α) : Prop :=
  ∀ f, r = .error f → sort f = false

namespace Avoids

variable {α β : Type} {sort : Fault → Bool} {r : Except Fault α}

theorem ok (a : α) : Avoids sort (.ok a) := fun _ h => nomatch h

theorem error {f : Fault} (hf : sort f = false) : Avoids sort (.error f : Except Fault α) := by
  intro g hg
  rw [← Except.error.inj hg]
  exact hf

theorem bind {f : α → Except Fault β} (hr : Avoids sort r) (hf : ∀ a, Avoids sort (f a)) :
    Avoids sort (r >>= f) := by
  intro g hg
  rcases Except.bind_eq_error_iff.1 hg with hg | ⟨a, -, hg⟩
  · exact hr g hg
  · exact hf a g hg

theorem map (f : α → β) (hr : Avoids sort r) : Avoids sort (r.map f) :=
  fun g hg => hr g (Except.map_eq_error_iff.1 hg)

theorem mapM {f : β → Except Fault α} {l : List β} (hf : ∀ b ∈ l, Avoids sort (f b)) :
    Avoids sort (l.mapM f) := by
  intro g hg
  obtain ⟨b, hb, hg⟩ := List.exists_of_mapM_eq_error hg
  exact hf b hb g hg

theorem orBadCall (h : sort .badCall = false) (a : Option α) : Avoids sort (orBadCall a) := by
  cases a with
  | none => exact error h
  | some a => exact ok a

theorem contentsOf (h : sort .badCall = false) (v : Value) : Avoids sort (contentsOf v) := by
  cases v with
  | text o s => exact ok s
  | _ => exact error h

end Avoids

/-- The outcome is no refusal of a kind. -/
abbrev Accepted {α : Type} (r : Except Fault α) : Prop := Avoids Fault.isOfKind r

theorem accepted_textOf (v : Value) : Accepted (textOf v) := by
  unfold textOf
  split
  · exact .ok _
  · exact .error rfl

theorem accepted_lengthOf (v : Value) : Accepted (lengthOf v) := by
  unfold lengthOf
  split
  · exact .error rfl
  · exact .orBadCall rfl _

theorem accepted_times (limit : Int) (any : Nat) : Accepted (times limit any) := by
  unfold times
  split
  · exact .ok any
  split
  · exact .error rfl
  · exact .ok _

/-! ### Arguments that are taken -/

/-- Whether a parameter may be left out in favour of null. -/
def Parameter.isOptional (p : Parameter) : Bool :=
  p = ⟨.substring, .stop⟩ || p = ⟨.lastIndexOf, .offset⟩

/-- **Whether a parameter takes an argument:** integers of every kind, booleans with the type of the
language, and null where the parameter may be left out. -/
def Parameter.admits (p : Parameter) : Value → Bool
  | .int _ _ | .uint _ | .bool _ => true
  | .null => p.isOptional
  | _ => false

/-- **A call with an argument in the place of an integer parameter:** the arguments in front of it
and those behind it, all of them of the kinds that the function asks for. -/
inductive Parameter.Call : Parameter → List Value → List Value → Prop
  | index (o : Origin) (s : Text) : Call ⟨.charAt, .index⟩ [.text o s] []
  | start (o : Origin) (s : Text) : Call ⟨.substring, .start⟩ [.text o s] []
  | startBeforeStop (o : Origin) (s : Text) {stop : Value}
      (h : stop.integer?.isSome) : Call ⟨.substring, .start⟩ [.text o s] [stop]
  | stop (o : Origin) (s : Text) {start : Value} (h : start.integer?.isSome) :
      Call ⟨.substring, .stop⟩ [.text o s, start] []
  | replacements (o o' o'' : Origin) (s old new : Text) :
      Call ⟨.replace, .limit⟩ [.text o s, .text o' old, .text o'' new] []
  | parts (o o' : Origin) (s separator : Text) :
      Call ⟨.split, .limit⟩ [.text o s, .text o' separator] []
  | firstItem (o : Origin) (xs : List Value) {stop : Value}
      (h : stop.integer?.isSome) : Call ⟨.slice, .start⟩ [.list o xs] [stop]
  | lastItem (o : Origin) (xs : List Value) {start : Value}
      (h : start.integer?.isSome) : Call ⟨.slice, .stop⟩ [.list o xs, start] []
  | found (o o' : Origin) (s pattern : Text) :
      Call ⟨.findAll, .limit⟩ [.text o s, .text o' pattern] []
  | firstFrom (o : Origin) (s needle : Text) :
      Call ⟨.indexOf, .offset⟩ [.ofString s, .text o needle] []
  | lastUpTo (o : Origin) (s needle : Text) :
      Call ⟨.lastIndexOf, .offset⟩ [.ofString s, .text o needle] []

variable {p : Parameter} {v : Value} {n : Int}

theorem requireInt_of_argument (h : argument? v = some n) : requireInt p v = .ok n := by
  unfold requireInt
  rw [h]

theorem requireInt_of_not_argument (h : argument? v = none) :
    requireInt p v = .error (.notInt p v.kindOf) := by
  unfold requireInt
  rw [h]

theorem accepted_requireInt (h : (argument? v).isSome) : Accepted (requireInt p v) := by
  obtain ⟨n, hn⟩ := Option.isSome_iff_exists.1 h
  rw [requireInt_of_argument hn]
  exact .ok n

/-- What a parameter takes has a number in it, or is null for a parameter left out. -/
theorem admits_iff : p.admits v ↔ (argument? v).isSome ∨ v = .null ∧ p.isOptional := by
  cases v <;> simp [Parameter.admits, argument?, Value.whole?]

/-- What a parameter does not take has no number in it. -/
theorem argument?_of_not_admits (h : p.admits v = false) : argument? v = none := by
  rw [← Option.not_isSome_iff_eq_none]
  intro hwhole
  exact Bool.noConfusion ((admits_iff.2 (.inl hwhole)).symm.trans h)

/-! ### Calls with numbers -/

theorem accepted_charAt (o : Origin) (s : Text) (h : (argument? v).isSome) :
    Accepted (charAt (.text o s) v) := by
  unfold charAt
  refine .bind (accepted_requireInt h) fun i => .bind (accepted_lengthOf _) fun length => ?_
  split
  · exact .ok _
  split
  · exact .error rfl
  · exact .bind (.orBadCall rfl _) fun part => accepted_textOf part

theorem accepted_substring (o : Origin) (s : Text) {start : Value}
    (hstart : (argument? start).isSome)
    (h : (argument? v).isSome ∨ v = .null) : Accepted (substring (.text o s) start v) := by
  unfold substring
  refine .bind (accepted_requireInt hstart) fun i => .bind ?_ fun j => ?_
  · split
    · exact .map _ (accepted_lengthOf _)
    · next hnull => exact accepted_requireInt (h.resolve_right hnull)
  have htail : ∀ outside : Bool, Accepted (do
      if outside then throw (.outsideRange .substring i j)
      else if i > j then throw (.reversed .substring i j)
      else textOf (← orBadCall ((Value.text o s).stretch? i.toNat j.toNat))) := by
    intro outside
    split
    · exact .error rfl
    split
    · exact .error rfl
    · exact .bind (.orBadCall rfl _) fun part => accepted_textOf part
  by_cases hneg : i < 0
  · simp only [if_pos hneg]
    exact .bind (.ok true) htail
  · simp only [if_neg hneg]
    exact .bind (accepted_lengthOf _) fun length => .bind (.ok _) htail

theorem accepted_replace (o o' o'' : Origin) (s old new : Text) (h : (argument? v).isSome) :
    Accepted (replace (.text o s) (.text o' old) (.text o'' new) v) := by
  unfold replace
  refine .bind (accepted_requireInt h) fun n => ?_
  split
  · exact accepted_textOf _
  · exact .bind (.bind (accepted_times _ _) fun k => .ok _) fun r => .ok _

theorem accepted_split (o o' : Origin) (s separator : Text) (h : (argument? v).isSome) :
    Accepted (split (.text o s) (.text o' separator) v) := by
  unfold split
  refine .bind (accepted_requireInt h) fun n => ?_
  have hparts : Accepted (parts (.text o s) (.text o' separator) n) := by
    unfold parts
    dsimp only
    split
    · refine .bind (.orBadCall rfl _) fun es => ?_
      unfold looseParts
      split
      · exact .bind (.mapM fun v _ => .contentsOf rfl v) fun rest => .ok _
      · exact .ok _
    · exact .bind (accepted_times _ _) fun k => .ok _
  split
  · exact .ok _
  · exact .bind hparts fun ps => .bind (.mapM fun v _ => accepted_textOf v) fun vs => .ok _

theorem accepted_slice (o : Origin) (xs : List Value) {start : Value}
    (hstart : (argument? start).isSome) (h : (argument? v).isSome) :
    Accepted (slice (.list o xs) start v) := by
  unfold slice
  refine .bind (accepted_requireInt hstart) fun i => .bind (accepted_requireInt h) fun j => ?_
  split
  · exact .error rfl
  refine .bind (accepted_lengthOf _) fun length => ?_
  split
  · exact .error rfl
  · exact .bind (.orBadCall rfl _) fun part => .bind (.orBadCall rfl _) fun es => .ok _

theorem accepted_findAll (o o' : Origin) (s pattern : Text) (h : (argument? v).isSome) :
    Accepted (findAll (.text o s) (.text o' pattern) v) := by
  have hfault : ∀ e : Pattern.Fault, (Fault.ofPattern e).isOfKind = false := by
    intro e
    cases e <;> rfl
  have hmedium : ∀ o s, Accepted (mediumOf (.text o s)) := fun o s => .ok _
  have hpattern : Accepted (patternOf (.text o' pattern)) := by
    unfold patternOf
    refine .bind (hmedium o' pattern) fun mc => ?_
    split
    split
    · exact .ok _
    · exact .error (hfault _)
  have hsubject : ∀ m, Accepted (subjectOf m (.text o s)) := by
    intro m
    unfold subjectOf
    refine .bind (hmedium o s) fun mc => ?_
    split
    split
    · exact .ok _
    · exact .error rfl
  have htext : ∀ m cs, Accepted (textOfMatch m cs) := by
    intro m cs
    cases m with
    | text => exact .ok _
    | octets => exact accepted_textOf _
  unfold findAll
  refine .bind (accepted_requireInt h) fun n => .bind hpattern fun mp => ?_
  split
  exact .bind (hsubject _) fun cs => .bind (.mapM fun m _ => htext _ m) fun vs => .ok _

theorem accepted_offsetIn (e : Extension) (length : Nat) (h : (argument? v).isSome) :
    Accepted (offsetIn e length v) := by
  unfold offsetIn
  refine .bind (accepted_requireInt h) fun i => ?_
  split
  · exact .error rfl
  · exact .ok _

theorem accepted_indexOf (o : Origin) (s needle : Text) (h : (argument? v).isSome) :
    Accepted (indexOf (.ofString s) (.text o needle) v) :=
  .bind (accepted_offsetIn _ _ h) fun _ => .bind (.contentsOf rfl _) fun _ => .ok _

theorem accepted_lastIndexOf (o : Origin) (s needle : Text) (h : (argument? v).isSome ∨ v = .null) :
    Accepted (lastIndexOf (.ofString s) (.text o needle) v) := by
  unfold lastIndexOf
  dsimp only [Value.ofString]
  split
  · exact .ok _
  · next hnull =>
    have hv := h.resolve_right hnull
    exact .bind (accepted_offsetIn _ _ hv) fun stop => .bind (.contentsOf rfl _) fun x => .ok _

/-! ### Calls without numbers -/

variable {front back : List Value}

/-- A call ends with its first refusal. -/
theorem refused_bind {α β : Type} {r : Except Fault α} {f : Fault} (h : r = .error f)
    (next : α → Except Fault β) : r >>= next = .error f := by
  rw [h]
  rfl

theorem substring_refused (o : Origin) (s : Text) {start : Value}
    (hstart : (argument? start).isSome) (hv : argument? v = none) (hnull : v ≠ .null) :
    substring (.text o s) start v = .error (.notInt ⟨.substring, .stop⟩ v.kindOf) := by
  obtain ⟨i, hi⟩ := Option.isSome_iff_exists.1 hstart
  unfold substring
  rw [requireInt_of_argument hi]
  cases v with
  | null => exact absurd rfl hnull
  | bool | int | uint => cases hv
  | _ => rfl

theorem slice_refused (items : Value) {start : Value} (hstart : (argument? start).isSome)
    (hv : argument? v = none) :
    slice items start v = .error (.notInt ⟨.slice, .stop⟩ v.kindOf) := by
  obtain ⟨i, hi⟩ := Option.isSome_iff_exists.1 hstart
  unfold slice
  rw [requireInt_of_argument hi]
  exact refused_bind (requireInt_of_not_argument hv) _

theorem offsetIn_refused (e : Extension) (length : Nat) (hv : argument? v = none) :
    offsetIn e length v = .error (.notInt ⟨e, .offset⟩ v.kindOf) :=
  refused_bind (requireInt_of_not_argument hv) _

theorem lastIndexOf_refused (s : Text) (needle : Value) (hv : argument? v = none)
    (hnull : v ≠ .null) :
    lastIndexOf (.ofString s) needle v = .error (.notInt ⟨.lastIndexOf, .offset⟩ v.kindOf) := by
  unfold lastIndexOf
  dsimp only [Value.ofString]
  split
  · exact absurd rfl hnull
  · exact refused_bind (offsetIn_refused _ _ hv) _

/-- **An argument that its parameter does not take is refused** before anything else is looked
at. -/
theorem Parameter.Call.refused (h : p.Call front back) (hv : p.admits v = false) :
    apply p.function (front ++ v :: back) = .error (.notInt p v.kindOf) := by
  have hwhole : argument? v = none := argument?_of_not_admits hv
  have hnull : p.isOptional → v ≠ .null := by
    rintro hp rfl
    exact Bool.noConfusion (hp.symm.trans hv)
  have hint : ∀ {α : Type} (next : Int → Except Fault α),
      requireInt p v >>= next = .error (.notInt p v.kindOf) :=
    refused_bind (requireInt_of_not_argument hwhole)
  cases h with
  | index | start | startBeforeStop | replacements | parts | firstItem | found => exact hint _
  | stop o s h =>
    exact substring_refused o s (isSome_argument?_of_integer? h) hwhole (hnull rfl)
  | lastItem o xs h =>
    exact slice_refused _ (isSome_argument?_of_integer? h) hwhole
  | firstFrom => exact refused_bind (offsetIn_refused _ _ hwhole) _
  | lastUpTo => exact lastIndexOf_refused _ _ hwhole (hnull rfl)

/-- **An argument that its parameter takes is not refused.** -/
theorem Parameter.Call.accepted (h : p.Call front back) (hv : p.admits v) :
    Accepted (apply p.function (front ++ v :: back)) := by
  have hwhole : p.isOptional = false → (argument? v).isSome := by
    intro hp
    refine (admits_iff.1 hv).resolve_right fun hnull => ?_
    exact Bool.noConfusion (hp.symm.trans hnull.2)
  have hnull : (argument? v).isSome ∨ v = .null := (admits_iff.1 hv).imp_right And.left
  cases h with
  | index o s => exact accepted_charAt o s (hwhole rfl)
  | start o s => exact accepted_substring o s (hwhole rfl) (.inr rfl)
  | startBeforeStop o s h =>
    exact accepted_substring o s (hwhole rfl) (.inl (isSome_argument?_of_integer? h))
  | stop o s h => exact accepted_substring o s (isSome_argument?_of_integer? h) hnull
  | replacements o o' o'' s old new => exact accepted_replace o o' o'' s old new (hwhole rfl)
  | parts o o' s separator => exact accepted_split o o' s separator (hwhole rfl)
  | firstItem o xs h =>
    exact accepted_slice o xs (hwhole rfl) (isSome_argument?_of_integer? h)
  | lastItem o xs h =>
    exact accepted_slice o xs (isSome_argument?_of_integer? h) (hwhole rfl)
  | found o o' s pattern => exact accepted_findAll o o' s pattern (hwhole rfl)
  | firstFrom o s needle => exact accepted_indexOf o s needle (hwhole rfl)
  | lastUpTo o s needle => exact accepted_lastIndexOf o s needle hnull

/-! ### All integer parameters -/

/-- **What it means that a call checks an integer argument.** -/
structure ChecksInteger (p : Parameter) (front back : List Value) : Prop where
  /-- What the parameter does not take is refused, with a fault that names the parameter and the
  kind that was found, and nothing else is refused so. -/
  refused_iff : ∀ v, apply p.function (front ++ v :: back) = .error (.notInt p v.kindOf) ↔
    p.admits v = false
  /-- What the parameter takes is not refused for the kind of any argument. -/
  accepted : ∀ v, p.admits v → Accepted (apply p.function (front ++ v :: back))
  /-- A boolean with the type of the language counts as the integer of its number. -/
  boolean : ∀ n, apply p.function (front ++ .bool n :: back) =
    apply p.function (front ++ .int .typed n :: back)
  /-- Null counts as an argument left out where the parameter may be left out in its favour. -/
  null : p.isOptional → apply p.function (front ++ .null :: back) = apply p.function (front ++ back)

/-- **Every integer parameter is checked alike.** Each call is refused exactly for the arguments
that the parameter does not take: all but integers, booleans with the type of the language and, for
two parameters, null. -/
theorem checksInteger (h : p.Call front back) : ChecksInteger p front back where
  refused_iff v := by
    constructor
    · intro hfault
      by_contra hv
      have hkind : (Fault.notInt p v.kindOf).isOfKind = false :=
        h.accepted ((Bool.not_eq_false _).mp hv) _ hfault
      cases hkind
    · exact h.refused
  accepted _ := h.accepted
  boolean n := by cases h <;> rfl
  null hp := by
    cases h with
    | stop | lastUpTo => rfl
    | _ => cases hp

/-- The end of a part of a text is checked. -/
theorem checksInteger_stop :
    Parameter.Call ⟨.substring, .stop⟩ [.ofString "abc", .int .typed 1] [] ∧
      ChecksInteger ⟨.substring, .stop⟩ [.ofString "abc", .int .typed 1] [] := by
  have hcall : Parameter.Call ⟨.substring, .stop⟩ [.ofString "abc", .int .typed 1] [] :=
    .stop .typed "abc" rfl
  exact ⟨hcall, checksInteger hcall⟩

/-- A boolean is no integer, and still it is an index, unless it has no type. -/
theorem charAt_boolean :
    Parameter.Call ⟨.charAt, .index⟩ [.ofString "abc"] [] ∧ (Value.bool 1).integer? = none ∧
      apply .charAt [.ofString "abc", .bool 1] = .ok (.ofString "b") ∧
      apply .charAt [.ofString "abc", .truth true] =
        .error (.notInt ⟨.charAt, .index⟩ .truth) :=
  ⟨.index .typed "abc", rfl, by rfl, by rfl⟩

end Library

end Admission
