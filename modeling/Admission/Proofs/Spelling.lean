import Admission.Proofs.Creation
import Admission.Proofs.Declared

/-!
# Two spellings

Three keys of declarations have a second spelling. A declaration in which keys are spelled the
second way is the same declaration, and becomes the same rule. What is no declaration is none in
either spelling, and leaves the same text, message and reason behind; its field path, however, is
looked for under the first spelling only, and is lost under the second.

* `Declaration.respelling`, `Declaration.eq_of_respelling_eq`: names in their other spelling, which
  stay apart.
* `Document.respelled`, `Document.member?_respelled`: an object in which keys are spelled the second
  way, and what is found in it.
* `Declaration.ofDocument_respelled`: **it is the same declaration, or none for the same reason.**
* `Rule.LosesPath`: the one case in which something is lost.
* `Rule.SpeltAlike`, `Rule.speltAlike_of_firstSpelled`: **what the rules of both spellings have in
  common.**
-/

namespace Admission

/-! ### Spellings -/

namespace Declaration

/-- The keys that have a second spelling, each with it. -/
def spellings : List (Text × Text) :=
  [("messageExpression", "message_expression"), ("fieldPath", "field_path"),
    ("optionalOldSelf", "optional_old_self")]

/-- The spelling of a name in which it is spelled the second way, if it is among those to be. -/
def respelling (which : Text → Bool) (name : Text) : Text :=
  if which name then (spellings.lookup name).getD name else name

/-- A name that is no second spelling. -/
def IsFirst (name : Text) : Prop := ∀ s ∈ spellings, s.2 ≠ name

instance (name : Text) : Decidable (IsFirst name) :=
  inferInstanceAs (Decidable (∀ s ∈ spellings, s.2 ≠ name))

variable {which : Text → Bool} {name name' : Text}

/-- A name is spelled as it is or the second way. -/
theorem respelling_cases (which : Text → Bool) (name : Text) :
    respelling which name = name ∨
      which name ∧ spellings.lookup name = some (respelling which name) := by
  rw [respelling]
  by_cases hw : which name
  · rw [if_pos hw]
    cases spellings.lookup name with
    | none => exact .inl rfl
    | some second => exact .inr ⟨hw, rfl⟩
  · exact .inl (if_neg hw)

/-- A name without a second spelling stays as it is. -/
theorem respelling_of_lookup_eq_none (h : spellings.lookup name = none) :
    respelling which name = name := by
  rw [respelling, h, Option.getD_none, ite_self]

theorem mem_of_lookup_spellings {second : Text} (h : spellings.lookup name = some second) :
    (name, second) ∈ spellings := by
  obtain ⟨before, after, hs, -⟩ := List.lookup_eq_some_iff.1 h
  rw [hs]
  exact List.mem_append_right _ List.mem_cons_self

/-- Different keys have different second spellings. -/
theorem eq_of_lookup_spellings {second : Text} (h : spellings.lookup name = some second)
    (h' : spellings.lookup name' = some second) : name = name' := by
  have hinj : ∀ s ∈ spellings, ∀ t ∈ spellings, s.2 = t.2 → s.1 = t.1 := by decide
  exact hinj _ (mem_of_lookup_spellings h) _ (mem_of_lookup_spellings h') rfl

/-- A second spelling is not a first one. -/
theorem ne_of_lookup_spellings {second : Text} (h : spellings.lookup name = some second)
    (hn : IsFirst name') : second ≠ name' :=
  hn _ (mem_of_lookup_spellings h)

/-- **Names that are spelled the same are the same.** -/
theorem eq_of_respelling_eq (hn : IsFirst name) (hn' : IsFirst name')
    (h : respelling which name = respelling which name') : name = name' := by
  -- a second spelling is neither a first one nor that of another key
  rcases respelling_cases which name with he | ⟨-, he⟩ <;>
    rcases respelling_cases which name' with he' | ⟨-, he'⟩
  · rw [← he, h, he']
  · exact absurd (h.symm.trans he) (ne_of_lookup_spellings he' hn)
  · exact absurd (h.trans he') (ne_of_lookup_spellings he hn')
  · rw [h] at he
    exact eq_of_lookup_spellings he he'

end Declaration

/-! ### Documents -/

namespace Document

open Declaration

/-- **The object in which the keys of declarations are spelled the second way,** if they are among
those to be. -/
def respelled (which : Text → Bool) : Document → Document
  | .object members => .object (members.map fun m => (respelling which m.1, m.2))
  | d => d

/-- A field path in its second spelling. A key without one stays as it is. -/
example (a b : Document) :
    (object [("rule", a), ("fieldPath", b)]).respelled (fun _ => true) =
      object [("rule", a), ("field_path", b)] := rfl

/-- A document with nothing under the second spelling of a key. -/
def FirstSpelled (d : Document) : Prop := ∀ s ∈ spellings, (d.member? s.2).isNone

instance (d : Document) : Decidable d.FirstSpelled :=
  inferInstanceAs (Decidable (∀ s ∈ spellings, (d.member? s.2).isNone))

variable {which : Text → Bool} {d : Document} {name : Text}

/-- A look-up among renamed members, where no other name is renamed to the one looked up. -/
theorem lookup_map_name {f : Text → Text} {name name' : Text}
    {members : List (Text × Document)} (hf : f name = name')
    (h : ∀ m ∈ members, f m.1 = name' → m.1 = name) :
    (members.map fun m => (f m.1, m.2)).lookup name' = members.lookup name := by
  induction members with
  | nil => rfl
  | cons m rest ih =>
    have ih := ih fun m hm => h m (List.mem_cons_of_mem _ hm)
    rw [List.map_cons, List.lookup_cons, List.lookup_cons]
    by_cases hm : m.1 = name
    · rw [hm, hf, beq_self_eq_true, beq_self_eq_true]
    · have hne : f m.1 ≠ name' := fun he => hm (h m List.mem_cons_self he)
      rw [beq_false_of_ne (Ne.symm hm), beq_false_of_ne (Ne.symm hne)]
      exact ih

/-- Among renamed members, a name that none is renamed to is not found. -/
theorem lookup_map_name_eq_none {f : Text → Text} {name : Text}
    {members : List (Text × Document)} (h : ∀ m ∈ members, f m.1 ≠ name) :
    (members.map fun m => (f m.1, m.2)).lookup name = none := by
  rw [List.lookup_eq_none_iff]
  intro m hm
  obtain ⟨m', hm', rfl⟩ := List.mem_map.1 hm
  simpa using Ne.symm (h m' hm')

/-- The names of members of a document without second spellings. -/
theorem FirstSpelled.isFirst {members : List (Text × Document)}
    (h : (object members).FirstSpelled) : ∀ m ∈ members, IsFirst m.1 := by
  intro m hm s hs he
  have hnone := List.lookup_eq_none_iff.1 (Option.isNone_iff_eq_none.1 (h s hs)) m hm
  simp [he] at hnone

/-- What is under a name is found under its spelling. -/
theorem member?_respelled (h : d.FirstSpelled) (hn : IsFirst name) :
    (d.respelled which).member? (respelling which name) = d.member? name := by
  cases d with
  | object members =>
    exact lookup_map_name rfl fun m hm he => eq_of_respelling_eq (h.isFirst m hm) hn he
  | _ => rfl

/-- Nothing is found under the spelling that a key has not got. -/
theorem member?_respelled_of_ne {name' : Text} (h : d.FirstSpelled) (hn : IsFirst name)
    (hname : name' = name ∨ spellings.lookup name = some name')
    (hne : respelling which name ≠ name') : (d.respelled which).member? name' = none := by
  cases d with
  | object members =>
    refine lookup_map_name_eq_none fun m hm he => ?_
    have hm := h.isFirst m hm
    -- another member would be spelled as a first spelling, or like this key
    have hother : m.1 ≠ name := by
      intro hm'
      rw [hm'] at he
      exact hne he
    rcases respelling_cases which m.1 with hsame | ⟨-, hsecond⟩
    · rcases hname with rfl | hname
      · exact hother (hsame.symm.trans he)
      · exact ne_of_lookup_spellings hname hm (he.symm.trans hsame)
    · rw [he] at hsecond
      rcases hname with rfl | hname
      · exact ne_of_lookup_spellings hsecond hn rfl
      · exact hother (eq_of_lookup_spellings hsecond hname)
  | _ => rfl

/-- What is under a name that has no other spelling stays there. -/
theorem member?_respelled_single (h : d.FirstSpelled) (hn : IsFirst name)
    (hs : spellings.lookup name = none) : (d.respelled which).member? name = d.member? name := by
  have hname : respelling which name = name := respelling_of_lookup_eq_none hs
  rw [← member?_respelled h hn, hname]

end Document

/-! ### Declarations -/

namespace Declaration

open Document

/-- A fault at the key as it is spelled. -/
def Fault.respelled (which : Text → Bool) (f : Fault) : Fault :=
  ⟨f.key.map (respelling which), f.problem⟩

/-- The key of a name, with its second spelling. -/
def keyOf (name : Text) : Key := ⟨name, spellings.lookup name⟩

variable {which : Text → Bool} {d : Document} {name : Text}

/-- Without second spellings, what is under a key is under its name. -/
theorem member?_keyOf (h : d.FirstSpelled) :
    (keyOf name).member? d = (d.member? name).map (name, ·) := by
  rw [Key.member?, keyOf]
  cases hs : spellings.lookup name with
  | none => exact Option.or_none
  | some second =>
    have hnone : d.member? second = none :=
      Option.isNone_iff_eq_none.1 (h _ (mem_of_lookup_spellings hs))
    rw [Option.bind_some, hnone]
    exact Option.or_none

/-- **What is under a key is found under it,** at its spelling. -/
theorem member?_keyOf_respelled (h : d.FirstSpelled) (hn : IsFirst name) :
    (keyOf name).member? (d.respelled which) =
      ((keyOf name).member? d).map fun m => (respelling which m.1, m.2) := by
  rw [member?_keyOf h, Option.map_map]
  have hfound : (d.respelled which).member? (respelling which name) = d.member? name :=
    member?_respelled h hn
  simp only [Key.member?, keyOf, Function.comp_def]
  -- it is found under one spelling, and nothing is under the other
  rcases respelling_cases which name with hsame | ⟨-, hsecond⟩
  · rw [hsame] at hfound ⊢
    rw [hfound]
    cases hs : spellings.lookup name with
    | none => exact Option.or_none
    | some second =>
      have hne : respelling which name ≠ second := by
        rw [hsame]
        exact Ne.symm (ne_of_lookup_spellings hs hn)
      rw [Option.bind_some, member?_respelled_of_ne h hn (.inr hs) hne]
      exact Option.or_none
  · have hne : respelling which name ≠ name := ne_of_lookup_spellings hsecond hn
    rw [hsecond, Option.bind_some, hfound, member?_respelled_of_ne h hn (.inl rfl) hne]
    rfl

/-- A key that may be missing is read as it was, up to the spelling of faults. -/
theorem optional_respelled {α : Type} (which : Text → Bool)
    (read : Document → Except Problem α) (h : d.FirstSpelled) (hn : IsFirst name) :
    optional read (keyOf name) (d.respelled which) =
      (optional read (keyOf name) d).mapError (Fault.respelled which) := by
  rw [optional, optional, member?_keyOf_respelled h hn]
  cases (keyOf name).member? d with
  | none => rfl
  | some m =>
    obtain ⟨found, v⟩ := m
    cases v with
    | null => rfl
    | _ =>
      simp only [Option.map_some]
      split <;> rfl

/-- So is a key that has to be there. -/
theorem required_respelled (which : Text → Bool) (h : d.FirstSpelled) (hn : IsFirst name)
    (hs : spellings.lookup name = none) : required (keyOf name) (d.respelled which) =
      (required (keyOf name) d).mapError (Fault.respelled which) := by
  rw [required, required, member?_keyOf_respelled h hn]
  cases (keyOf name).member? d with
  | none =>
    -- what is missing is called by its name, which has no other spelling
    have hname : respelling which name = name := respelling_of_lookup_eq_none hs
    simp only [Option.map_none, Except.mapError, Fault.respelled, Option.map_some, keyOf, hname]
  | some m =>
    obtain ⟨found, v⟩ := m
    simp only [Option.map_some]
    cases textOf v <;> rfl

/-- The declaration that an object is, read key by key. -/
theorem ofDocument_object (members : List (Text × Document)) :
    ofDocument (.object members) = do
      let rule ← required (keyOf "rule") (.object members)
      let message ← optional textOf (keyOf "message") (.object members)
      let messageExpression ← optional textOf (keyOf "messageExpression") (.object members)
      let reason ← optional textOf (keyOf "reason") (.object members)
      let fieldPath ← optional textOf (keyOf "fieldPath") (.object members)
      let optionalOldSelf ← optional booleanOf (keyOf "optionalOldSelf") (.object members)
      return { rule, message, messageExpression, reason, fieldPath, optionalOldSelf } := rfl

/-- **An object with keys in their second spelling is the same declaration,** or it is none for the
same reason. -/
theorem ofDocument_respelled (h : d.FirstSpelled) :
    ofDocument (d.respelled which) = (ofDocument d).mapError (Fault.respelled which) := by
  cases d with
  | object members =>
    have hrule := required_respelled which h (by decide : IsFirst "rule") (by decide)
    have hmessage := optional_respelled which textOf h (by decide : IsFirst "message")
    have hexpression := optional_respelled which textOf h (by decide : IsFirst "messageExpression")
    have hreason := optional_respelled which textOf h (by decide : IsFirst "reason")
    have hpath := optional_respelled which textOf h (by decide : IsFirst "fieldPath")
    have hold := optional_respelled which booleanOf h (by decide : IsFirst "optionalOldSelf")
    rw [respelled] at *
    -- the six keys are read in turn, and the first fault stops the reading in both
    simp only [ofDocument_object, Except.mapError_bind, hrule, hmessage, hexpression, hreason,
      hpath, hold]
    rfl
  | _ => rfl

/-- The text under a name that has no other spelling stays there. -/
theorem textAt?_respelled (which : Text → Bool) (h : d.FirstSpelled) (hn : IsFirst name)
    (hs : spellings.lookup name = none) : textAt? name (d.respelled which) = textAt? name d := by
  rw [textAt?, textAt?, member?_respelled_single h hn hs]

/-- A field path that is spelled the second way is not found under the first spelling. -/
theorem textAt?_fieldPath_respelled (h : d.FirstSpelled) :
    textAt? "fieldPath" (d.respelled which) =
      if which "fieldPath" then none else textAt? "fieldPath" d := by
  have hn : IsFirst "fieldPath" := by decide
  have hs : spellings.lookup ("fieldPath" : Text) = some (.plain "field_path") := by decide
  rw [textAt?, textAt?]
  split
  · next hw =>
    have hne : respelling which "fieldPath" ≠ "fieldPath" := by
      rw [respelling, if_pos hw, hs]
      decide
    rw [member?_respelled_of_ne h hn (.inl rfl) hne]
    rfl
  · next hw =>
    have hname : respelling which "fieldPath" = "fieldPath" := if_neg hw
    rw [← member?_respelled h hn, hname]

end Declaration

/-! ### Rules -/

/-- What a violation is about, and why it is one, whatever its message says. -/
def Violation.address (e : Violation) : Text × Option Text × Text :=
  (e.fieldPath, e.reason, e.rule)

namespace Rule

open Declaration Document

/-- What is no declaration, and has its field path spelled the second way. -/
structure LosesPath (which : Text → Bool) (d : Document) : Prop where
  invalid : ∀ decl, ofDocument d ≠ .ok decl
  chosen : which "fieldPath"
  path : (textAt? "fieldPath" d).isSome

/-- **What the rules of one declaration in two spellings have in common.** -/
structure SpeltAlike (c : Context) (which : Text → Bool) (d : Document) : Prop where
  /-- A declaration becomes the same rule. -/
  valid : ∀ decl, ofDocument d = .ok decl → compile c (d.respelled which) = compile c d
  /-- What is no declaration stays none, for the same reason. -/
  invalid : ∀ f, ofDocument d = .error f →
    ofDocument (d.respelled which) = .error (f.respelled which)
  rule : (compile c (d.respelled which)).declaration.rule = (compile c d).declaration.rule
  message : (compile c (d.respelled which)).declaration.message = (compile c d).declaration.message
  reason : (compile c (d.respelled which)).declaration.reason = (compile c d).declaration.reason
  isStatic : (compile c (d.respelled which)).isStatic = (compile c d).isStatic
  isTransition : (compile c (d.respelled which)).isTransition = (compile c d).isTransition
  /-- The field paths are the same, except where one is lost. -/
  fieldPath_iff : (compile c (d.respelled which)).declaration.fieldPath =
    (compile c d).declaration.fieldPath ↔ ¬ LosesPath which d
  /-- Where it is lost, there is none. -/
  lost : LosesPath which d → (compile c (d.respelled which)).declaration.fieldPath = none
  /-- Where none is lost, the rules report at the same addresses. -/
  address : ¬ LosesPath which d → ∀ env hasOld path,
    ((compile c (d.respelled which)).check env hasOld path).map Violation.address =
      ((compile c d).check env hasOld path).map Violation.address

variable {c : Context} {which : Text → Bool} {d : Document}

/-- The rule of a declaration in its other spelling. -/
theorem compile_respelled_of_ok {decl : Declaration} (h : d.FirstSpelled)
    (hd : ofDocument d = .ok decl) : compile c (d.respelled which) = compile c d := by
  have hd' : ofDocument (d.respelled which) = .ok decl := by
    rw [ofDocument_respelled h, hd]
    rfl
  rw [compile_of_ok hd, compile_of_ok hd']

/-- What is no declaration in either spelling. -/
theorem ofDocument_respelled_of_error {f : Declaration.Fault} (h : d.FirstSpelled)
    (hd : ofDocument d = .error f) :
    ofDocument (d.respelled which) = .error (f.respelled which) := by
  rw [ofDocument_respelled h, hd]
  rfl

/-- A field path that is no part of a declaration is kept in its first spelling only. -/
theorem fieldPath_respelled_of_error {f : Declaration.Fault} (h : d.FirstSpelled)
    (hd : ofDocument d = .error f) : (compile c (d.respelled which)).declaration.fieldPath =
      if which "fieldPath" then none else (compile c d).declaration.fieldPath := by
  rw [compile_of_error hd, compile_of_error (ofDocument_respelled_of_error h hd)]
  exact textAt?_fieldPath_respelled h

/-- A declaration loses nothing. -/
theorem not_losesPath_of_ok {decl : Declaration} (hd : ofDocument d = .ok decl) :
    ¬ LosesPath which d := fun hl => hl.invalid decl hd

/-- What is no declaration loses its field path where it has one that is spelled the second way. -/
theorem losesPath_iff_of_error {f : Declaration.Fault} (hd : ofDocument d = .error f) :
    LosesPath which d ↔ which "fieldPath" ∧ (compile c d).declaration.fieldPath.isSome := by
  rw [compile_of_error hd]
  constructor
  · intro hl
    exact ⟨hl.chosen, hl.path⟩
  · rintro ⟨hw, hp⟩
    exact ⟨by rw [hd]; exact nofun, hw, hp⟩

/-- **Both spellings have the same field path,** except where one is lost. -/
theorem fieldPath_respelled_iff (c : Context) (h : d.FirstSpelled) :
    (compile c (d.respelled which)).declaration.fieldPath = (compile c d).declaration.fieldPath ↔
      ¬ LosesPath which d := by
  cases hd : ofDocument d with
  | ok decl =>
    rw [compile_respelled_of_ok h hd]
    exact iff_of_true rfl (not_losesPath_of_ok hd)
  | error f =>
    rw [fieldPath_respelled_of_error h hd, losesPath_iff_of_error hd]
    by_cases hw : which "fieldPath"
    · cases (compile c d).declaration.fieldPath <;> simp [hw]
    · simp [hw]

/-- What is no declaration is a rule without a program. -/
theorem isStatic_of_error (c : Context) {f : Declaration.Fault} (hd : ofDocument d = .error f) :
    (compile c d).isStatic ∧ (compile c d).isTransition = false := by
  rw [compile_of_error hd]
  exact ⟨rfl, rfl⟩

/-- The rules of both spellings have the same text, the same message and the same reason. -/
theorem words_respelled (c : Context) (which : Text → Bool) (h : d.FirstSpelled) :
    (compile c (d.respelled which)).declaration.rule = (compile c d).declaration.rule ∧
      (compile c (d.respelled which)).declaration.message = (compile c d).declaration.message ∧
      (compile c (d.respelled which)).declaration.reason = (compile c d).declaration.reason := by
  simp only [compile_rule, compile_message, compile_reason]
  have hrule := textAt?_respelled which h (by decide : IsFirst "rule") (by decide)
  have hmessage := textAt?_respelled which h (by decide : IsFirst "message") (by decide)
  have hreason := textAt?_respelled which h (by decide : IsFirst "reason") (by decide)
  exact ⟨by rw [hrule], hmessage, hreason⟩

/-- The address of a violation is told from what the rule declares, whatever is said. -/
theorem violation_address {r r' : Rule} (hp : r.declaration.fieldPath = r'.declaration.fieldPath)
    (hreason : r.declaration.reason = r'.declaration.reason)
    (hrule : r.declaration.rule = r'.declaration.rule) (path message message' : Text) :
    (r.violation path message).address = (r'.violation path message').address := by
  simp only [violation, Violation.address, hp, hreason, hrule]

/-- **Where no path is lost, both spellings report at the same addresses.** -/
theorem address_respelled (c : Context) (h : d.FirstSpelled) (hl : ¬ LosesPath which d)
    (env : Option Bindings) (hasOld : Bool) (path : Text) :
    ((compile c (d.respelled which)).check env hasOld path).map Violation.address =
      ((compile c d).check env hasOld path).map Violation.address := by
  cases hd : ofDocument d with
  | ok decl => rw [compile_respelled_of_ok h hd]
  | error f =>
    obtain ⟨hrule, -, hreason⟩ := words_respelled c which h
    have hpath : (compile c (d.respelled which)).declaration.fieldPath = _ :=
      (fieldPath_respelled_iff c h).2 hl
    have hd' : ofDocument (d.respelled which) = _ := ofDocument_respelled_of_error h hd
    -- neither has a program, so both report whatever the values are
    have hstatic := (isStatic_of_error c hd).1
    have hstatic' := (isStatic_of_error c hd').1
    rw [check_of_isStatic hstatic, check_of_isStatic hstatic', Option.map_some, Option.map_some,
      violation_address hpath hreason hrule]

/-- **The rules of both spellings are alike.** -/
theorem speltAlike_of_firstSpelled (c : Context) (which : Text → Bool) (h : d.FirstSpelled) :
    SpeltAlike c which d where
  valid _ hd := compile_respelled_of_ok h hd
  invalid _ hd := ofDocument_respelled_of_error h hd
  rule := (words_respelled c which h).1
  message := (words_respelled c which h).2.1
  reason := (words_respelled c which h).2.2
  isStatic := by
    cases hd : ofDocument d with
    | ok decl => rw [compile_respelled_of_ok h hd]
    | error f =>
      rw [(isStatic_of_error c hd).1, (isStatic_of_error c (ofDocument_respelled_of_error h hd)).1]
  isTransition := by
    cases hd : ofDocument d with
    | ok decl => rw [compile_respelled_of_ok h hd]
    | error f =>
      rw [(isStatic_of_error c hd).2, (isStatic_of_error c (ofDocument_respelled_of_error h hd)).2]
  fieldPath_iff := fieldPath_respelled_iff c h
  lost hl := by
    cases hd : ofDocument d with
    | ok decl => exact absurd hd (hl.invalid decl)
    | error f => rw [fieldPath_respelled_of_error h hd, if_pos hl.chosen]
  address hl := address_respelled c h hl

end Rule

end Admission
