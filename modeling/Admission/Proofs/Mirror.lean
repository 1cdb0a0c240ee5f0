import Admission.Proofs.Alike

/-!
# Mirrored schemas

The view of a document and the tree compiled from it answer every question alike, node for node.
Whatever only asks questions of nodes therefore comes out the same on both, and so does the report
of a walk.

* `SchemaNode.Mirror`: a map of nodes that keeps all answers.
* `SchemaNode.Mirror.walk`: mirrored nodes report the same.
* `RawSchema.compiled`, `RawSchema.mirror_compiled`: compiling is such a map.
* `Validator.validate_eq_validateCompiled`: **a schema reports the same compiled or not.**
-/

namespace Admission

namespace SchemaNode

variable {σ τ : Type} [SchemaNode σ] [SchemaNode τ]

/-- A map of nodes that keeps the answer to every question, up to itself where the answer has
nodes. -/
structure Mirror (f : σ → τ) : Prop where
  type? : ∀ n, SchemaNode.type? (f n) = SchemaNode.type? n
  format? : ∀ n, SchemaNode.format? (f n) = SchemaNode.format? n
  rules : ∀ n, SchemaNode.rules (f n) = SchemaNode.rules n
  properties : ∀ n, SchemaNode.properties (f n) = (SchemaNode.properties n).map (Prod.map id f)
  child? : ∀ n name, SchemaNode.child? (f n) name = (SchemaNode.child? n name).map f
  hasProperty : ∀ n name, SchemaNode.hasProperty (f n) name = SchemaNode.hasProperty n name
  items? : ∀ n, SchemaNode.items? (f n) = (SchemaNode.items? n).map f
  additional? : ∀ n, SchemaNode.additional? (f n) = (SchemaNode.additional? n).map f

namespace Mirror

variable {f : σ → τ}

theorem alike (hf : Mirror f) : Alike f :=
  ⟨hf.type?, hf.format?, hf.properties, hf.child?, hf.hasProperty, hf.items?, hf.additional?⟩

/-! ### The walk -/

open Validator

theorem checkRules (hf : Mirror f) (n : σ) (path : Text) (new : Datum) (old : Option Datum) :
    Validator.checkRules (f n) path new old = Validator.checkRules n path new old := by
  simp only [Validator.checkRules, hf.rules, hf.alike.activation?]

/-- **Mirrored nodes report the same about a value.** -/
theorem walk (hf : Mirror f) (n : σ) (path : Text) (old : Option Datum) (d : Datum) :
    Validator.walk (f n) path old d = Validator.walk n path old d := by
  rw [walk_eq, walk_eq, hf.checkRules, hf.alike.branches, List.flatMapM_map]
  congr 1
  funext own
  congr 1
  -- the branches are the same, and they are smaller
  refine List.flatMapM_congr fun b hb => ?_
  have := branches_lt hb
  exact hf.walk b.node _ _ b.value
termination_by sizeOf d

end Mirror

end SchemaNode

/-! ### Compiling -/

/-- What is found under a key after all values were mapped, each beside its key. -/
theorem lookup_map_entry {α β : Type} (f : Text → α → β) (key : Text)
    (l : List (Text × α)) :
    (l.map fun e => (e.1, f e.1 e.2)).lookup key = (l.lookup key).map (f key) := by
  induction l with
  | nil => rfl
  | cons e l ih =>
    obtain ⟨k, a⟩ := e
    by_cases h : key = k
    · simp [h]
    · simp [List.lookup_cons, beq_false_of_ne h, ih]

/-- What is found under a key after all values were mapped. -/
theorem lookup_map_snd {α β : Type} (f : α → β) (key : Text) (l : List (Text × α)) :
    (l.map (Prod.map id f)).lookup key = (l.lookup key).map f :=
  lookup_map_entry (fun _ => f) key l

/-- What is found under a key once among others is found there after some were dropped. -/
theorem lookup_filterMap {α β : Type} (f : α → Option β) {l : List (Text × α)}
    (hl : (l.map Prod.fst).Nodup) (key : Text) :
    (l.filterMap fun p => (f p.2).map (p.1, ·)).lookup key = (l.lookup key).bind f := by
  induction l with
  | nil => rfl
  | cons p l ih =>
    obtain ⟨k, a⟩ := p
    obtain ⟨hk, hnodup⟩ := List.nodup_cons.1 hl
    by_cases h : key = k
    · subst h
      cases hf : f a with
      | some b => simp [hf]
      | none =>
        -- the only entry under the key was dropped
        have hno : l.lookup key = none := by
          refine List.lookup_eq_none_iff.2 fun p hp => bne_iff_ne.2 fun h => hk ?_
          exact List.mem_map.2 ⟨p, hp, h.symm⟩
        rw [List.filterMap_cons_none (by rw [hf]; rfl), ih hnodup, hno, List.lookup_cons_self,
          Option.bind_some, hf]
        rfl
    · cases hf : f a <;> simp [hf, List.lookup_cons, beq_false_of_ne h, ih hnodup]

/-- A text is found under a key as before if the member there was changed into one of its text. -/
theorem textMember?_of_lookup {g : Document → Document} (hg : ∀ d, (g d).text? = d.text?)
    {key : Text} {members members' : List (Text × Document)}
    (h : members'.lookup key = (members.lookup key).map g) :
    textMember? key members' = textMember? key members := by
  rw [textMember?, textMember?, h, Option.bind_map]
  congr 1
  funext d
  exact hg d

namespace RawSchema

/-- Where changing a document changes its view alike, it changes the node of a member alike. -/
theorem nodeAt?_of_lookup {g : Document → Document} {m : RawSchema → RawSchema} {s s' : RawSchema}
    (hg : ∀ d, wrap? s'.context (g d) = (wrap? s.context d).map m) {key : Text}
    (h : s'.members.lookup key = (s.members.lookup key).map g) :
    s'.nodeAt? key = (s.nodeAt? key).map m := by
  rw [nodeAt?, nodeAt?, h]
  cases s.members.lookup key with
  | none => rfl
  | some d => exact hg d

/-- Where changing documents changes their views alike, it changes the nodes of properties alike. -/
theorem filterMap_wrap?_map {c : Context} {g : Text → Document → Document}
    {m : Text → RawSchema → RawSchema}
    (hg : ∀ name d, wrap? c (g name d) = (wrap? c d).map (m name)) (ps : List (Text × Document)) :
    ((ps.map fun p => (p.1, g p.1 p.2)).filterMap fun p => (wrap? c p.2).map (p.1, ·)) =
      (ps.filterMap fun p => (wrap? c p.2).map (p.1, ·)).map fun p => (p.1, m p.1 p.2) := by
  rw [List.filterMap_map, List.map_filterMap]
  refine List.filterMap_congr fun p _ => ?_
  simp only [Function.comp_apply, hg, Option.map_map]
  rfl

/-- The compiled tree of the document that is viewed. -/
def compiled (s : RawSchema) : CompiledSchema :=
  CompiledSchema.compile s.context (.object s.members)

/-- The tree of a document that is an object is that of its view. -/
theorem wrap?_map_compiled (c : Context) (d : Document) :
    (wrap? c d).map compiled = if d.isObject then some (CompiledSchema.compile c d) else none := by
  cases d <;> rfl

open CompiledSchema

theorem compileAt_eq (c : Context) (key : Text) (members : List (Text × Document)) :
    compileAt c key members = ((members.lookup key).bind (wrap? c)).map compiled := by
  induction members with
  | nil => rfl
  | cons m rest ih =>
    obtain ⟨k, d⟩ := m
    rw [compileAt, List.lookup_cons]
    cases key == k with
    | true => exact (wrap?_map_compiled c d).symm
    | false => exact ih

/-- The trees that are kept for their names are those of the properties that are. -/
theorem filterMap_filter_map_compiled (c : Context) (keep : Text → Bool)
    (ps : List (Text × Document)) :
    ((ps.filter fun p => keep p.1).filterMap fun p => (wrap? c p.2).map (p.1, ·)).map
        (Prod.map id compiled) =
      ((ps.filterMap fun p => (wrap? c p.2).map (p.1, ·)).map (Prod.map id compiled)).filter
        fun p => keep p.1 := by
  induction ps with
  | nil => rfl
  | cons p rest ih =>
    cases hk : keep p.1 <;> cases hw : wrap? c p.2 <;> simp [hk, hw, ih]

theorem compileNodes_eq (c : Context) (declared : List (Text × Document)) :
    compileNodes c declared =
      ((Document.distinct declared).filterMap fun p => (wrap? c p.2).map (p.1, ·)).map
        (Prod.map id compiled) := by
  induction declared with
  | nil => rfl
  | cons p rest ih =>
    obtain ⟨name, d⟩ := p
    have hrest := filterMap_filter_map_compiled c (· != name) (Document.distinct rest)
    rw [Document.distinct, List.filterMap_cons, compileNodes, ih, ← hrest]
    cases d <;> rfl

theorem compileProperties_eq (c : Context) (members : List (Text × Document)) :
    compileProperties c members =
      compileNodes c (membersOf (members.lookup ("properties" : Text))) := by
  induction members with
  | nil => rfl
  | cons m rest ih =>
    obtain ⟨k, d⟩ := m
    rw [compileProperties, List.lookup_cons]
    cases "properties" == k with
    | true => cases d <;> rfl
    | false => exact ih

theorem properties_compiled (s : RawSchema) :
    s.compiled.properties = s.nodes.map (Prod.map id compiled) := by
  rw [compiled, compile, compileProperties_eq, compileNodes_eq]
  rfl

/-- A property with a node is a declared one whose document is an object. -/
theorem mem_nodes {s : RawSchema} {p : Text × RawSchema} :
    p ∈ s.nodes ↔ ∃ d, (p.1, d) ∈ s.declared ∧ wrap? s.context d = some p.2 := by
  constructor
  · intro h
    obtain ⟨⟨name, d⟩, hd, hm⟩ := List.mem_filterMap.1 h
    obtain ⟨child, hw, rfl⟩ := Option.map_eq_some_iff.1 hm
    exact ⟨d, hd, hw⟩
  · rintro ⟨d, hd, hw⟩
    exact List.mem_filterMap.2 ⟨(p.1, d), hd, Option.map_eq_some_iff.2 ⟨p.2, hw, rfl⟩⟩

/-- **A property has the node that is found under its name.** -/
theorem lookup_nodes (s : RawSchema) (name : Text) :
    s.nodes.lookup name = SchemaNode.child? s name :=
  lookup_filterMap _ (Document.nodup_distinct _) name

/-- A property with a node is among the declared ones. -/
theorem lookup_declared_of_child? {s : RawSchema} {name : Text}
    (h : (SchemaNode.child? s name).isSome) : (s.declared.lookup name).isSome :=
  Option.isSome_of_isSome_bind h

theorem hasProperty_compiled (s : RawSchema) (name : Text) :
    ((s.compiled.properties.lookup name).isSome || s.compiled.declaredNames.contains name) =
      (s.declared.lookup name).isSome := by
  have hd : s.compiled.declaredNames =
      (membersOf (s.members.lookup ("properties" : Text))).map Prod.fst := by
    rw [compiled, compile]
  have hnames : s.compiled.declaredNames.contains name = (s.declared.lookup name).isSome := by
    rw [declared, Document.lookup_distinct, Bool.eq_iff_iff, List.contains_iff_mem,
      List.lookup_isSome_iff, hd, List.mem_map]
    constructor
    · rintro ⟨p, hp, rfl⟩
      exact ⟨p, hp, beq_self_eq_true p.1⟩
    · rintro ⟨p, hp, h⟩
      exact ⟨p, hp, (eq_of_beq h).symm⟩
  -- the properties with a node add nothing to the names
  rw [hnames, properties_compiled, lookup_map_snd, Option.isSome_map, lookup_nodes]
  cases h : (SchemaNode.child? s name).isSome with
  | true => rw [lookup_declared_of_child? h]; rfl
  | false => rfl

/-- **Compiling keeps all answers.** -/
theorem mirror_compiled : SchemaNode.Mirror compiled where
  type? s := by rw [compiled, compile]; rfl
  format? s := by rw [compiled, compile]; rfl
  rules s := by rw [compiled, compile]; rfl
  properties := properties_compiled
  child? s name := by
    change s.compiled.properties.lookup name = _
    rw [properties_compiled, lookup_map_snd, lookup_nodes]
  hasProperty := hasProperty_compiled
  items? s := compileAt_eq s.context "items" s.members
  additional? s := compileAt_eq s.context "additionalProperties" s.members

end RawSchema

namespace Validator

/-- Where nothing is asked for, nothing is reported. -/
theorem walk_blank (path : Text) (old : Option Datum) (d : Datum) :
    walk CompiledSchema.blank path old d = .ok [] := by
  rw [walk_eq]
  cases d <;> rfl

/-- The tree of a document is walked as the view of the document is. Where there is no view, nothing
is reported. -/
theorem walk_compile (c : Context) (schema : Document) (path : Text) (old : Option Datum)
    (d : Datum) : walk (CompiledSchema.compile c schema) path old d =
      (RawSchema.wrap? c schema).elim (.ok []) fun node => walk node path old d := by
  cases schema with
  | object members => exact RawSchema.mirror_compiled.walk ⟨c, members⟩ path old d
  | _ => exact walk_blank path old d

/-- **A schema reports the same compiled or not,** or both validations stop at the same fault:
for every document taken as a schema, be it an object or not, every context, and all data. -/
theorem validate_eq_validateCompiled (c : Context) (schema : Document) (new : Datum)
    (old : Option Datum) :
    validate c schema new old = validateCompiled (CompiledSchema.compile c schema) new old := by
  rw [validateCompiled, walk_compile, validate]
  cases RawSchema.wrap? c schema <;> rfl

end Validator

end Admission
