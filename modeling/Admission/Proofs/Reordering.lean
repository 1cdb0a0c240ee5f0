import Admission.Proofs.Alignment
import Admission.Proofs.Coverage
import Admission.Text.Order
import Mathlib.Data.List.Infix
import Mathlib.Data.List.Perm.Basic

/-!
# Properties in another order

The properties of a node are walked in the order of their declaration, but they are looked up by
name wherever a value is converted. So in whatever order they are declared, the same places are
visited and the same is reported there.

Two schemas that differ in the order of properties only have one sorted form, in which the
properties of all nodes stand in the order of their names. Each is compared with that form, by a map
of nodes that keeps all answers up to the order of properties.

* `Document.Reorders`: schemas that differ in the order of properties only.
* `Document.sorted`, `Document.Reorders.sorted_eq`: the sorted form, which such schemas share.
* `SchemaNode.Permutes`: a map of nodes that keeps all answers up to the order of properties.
* `SchemaNode.Permutes.visits`: **the same places are visited, in some order.**
* `RawSchema.permutes_sorted`: sorting is such a map.
* `Validator.validate_reorders`: **validations under such schemas report the same, in some order,**
  and below a node that they share in the same order.
-/

namespace Admission

open SchemaNode Datum

/-! ### Schemas in another order -/

namespace Document

/-- **The second document is the first one as a schema with the declared properties of any number of
its nodes in another order.** -/
inductive Reorders : Document → Document → Prop
  | refl (d) : Reorders d d
  | trans {d d' d''} (h : Reorders d d') (h' : Reorders d' d'') : Reorders d d''
  /-- The properties of the node itself are declared in another order. -/
  | declared {before after ps ps'} (h : ps'.Perm ps) :
      Reorders (.object (before ++ (("properties" : Text), .object ps) :: after))
        (.object (before ++ (("properties" : Text), .object ps') :: after))
  /-- A property is reordered. -/
  | property {before after first last name d d'} (h : Reorders d d') :
      Reorders
        (.object (before ++ (("properties" : Text), .object (first ++ (name, d) :: last)) :: after))
        (.object
          (before ++ (("properties" : Text), .object (first ++ (name, d') :: last)) :: after))
  /-- The node of items or that of additional properties is reordered. -/
  | inside {before after} {key : Text} {d d'} (hk : key = "items" ∨ key = "additionalProperties")
      (h : Reorders d d') :
      Reorders (.object (before ++ (key, d) :: after)) (.object (before ++ (key, d') :: after))

/-- Members in the order of their keys. -/
def inOrder (members : List (Text × Document)) : List (Text × Document) :=
  members.mergeSort fun m n => decide (m.1 ≤ n.1)

mutual

/-- **The sorted form of a schema:** the properties of all its nodes in the order of their names. -/
def sorted : Document → Document
  | .object members => .object (membersSorted members)
  | d => d
termination_by structural d => d

/-- The members of a node, with the nodes in them sorted. -/
def membersSorted : List (Text × Document) → List (Text × Document)
  | [] => []
  | (key, d) :: rest => (key, memberSorted key d) :: membersSorted rest
termination_by structural members => members

/-- A member of a node, with the nodes in it sorted. -/
def memberSorted (key : Text) : Document → Document
  | .object members => .object (
      if key = "properties" then inOrder (propertiesSorted members)
      else if key = "items" ∨ key = "additionalProperties" then membersSorted members
      else members)
  | d => d
termination_by structural d => d

/-- The declared properties of a node in their order, each one sorted. -/
def propertiesSorted : List (Text × Document) → List (Text × Document)
  | [] => []
  | (name, d) :: rest => (name, sorted d) :: propertiesSorted rest
termination_by structural declared => declared

end

theorem membersSorted_eq (members : List (Text × Document)) :
    membersSorted members = members.map fun m => (m.1, memberSorted m.1 m.2) := by
  induction members with
  | nil => rfl
  | cons m rest ih => rw [membersSorted, ih, List.map_cons]

theorem propertiesSorted_eq (declared : List (Text × Document)) :
    propertiesSorted declared = declared.map (Prod.map id sorted) := by
  induction declared with
  | nil => rfl
  | cons p rest ih => rw [propertiesSorted, ih, List.map_cons]; rfl

/-- The declared properties of a node are sorted each and put in order. -/
theorem memberSorted_properties (ps : List (Text × Document)) :
    memberSorted "properties" (.object ps) =
      .object (inOrder (ps.map (Prod.map id sorted))) := by
  rw [memberSorted, if_pos rfl, propertiesSorted_eq]

/-- The node of items or of additional properties is sorted as a schema is. -/
theorem memberSorted_eq_sorted {key : Text} (hk : key = "items" ∨ key = "additionalProperties")
    (d : Document) : memberSorted key d = sorted d := by
  have hne : key ≠ "properties" := by rcases hk with rfl | rfl <;> decide
  cases d with
  | object members => simp only [memberSorted, sorted, if_neg hne, if_pos hk]
  | _ => rfl

/-- What is found under a key of a sorted node. -/
theorem lookup_membersSorted (key : Text) (members : List (Text × Document)) :
    (membersSorted members).lookup key = (members.lookup key).map (memberSorted key) := by
  rw [membersSorted_eq]
  exact lookup_map_entry memberSorted key members

theorem textMember?_membersSorted (key : Text) (members : List (Text × Document)) :
    textMember? key (membersSorted members) = textMember? key members :=
  textMember?_of_lookup (fun d => by cases d <;> rfl) (lookup_membersSorted key members)

/-! ### The sorted form -/

theorem inOrder_perm (members : List (Text × Document)) : (inOrder members).Perm members :=
  List.mergeSort_perm members _

theorem inOrder_pairwise (members : List (Text × Document)) :
    (inOrder members).Pairwise fun m n => m.1 ≤ n.1 := by
  have h := @List.pairwise_mergeSort _ (fun m n : Text × Document => decide (m.1 ≤ n.1))
    (fun a b c hab hbc => decide_eq_true (le_trans (of_decide_eq_true hab) (of_decide_eq_true hbc)))
    (fun a b => by simpa using le_total a.1 b.1) members
  exact h.imp of_decide_eq_true

/-- **Members without a key twice have one order of their keys.** -/
theorem inOrder_eq_of_perm {members members' : List (Text × Document)}
    (h : members'.Perm members) (hk : (members.map Prod.fst).Nodup) :
    inOrder members' = inOrder members := by
  refine List.Perm.eq_of_pairwise (fun m n hm hn hle hge => ?_) (inOrder_pairwise members')
    (inOrder_pairwise members) ((inOrder_perm members').trans (h.trans (inOrder_perm members).symm))
  -- two members that are not in order have one key, so they are one member
  have hm := lookup_of_mem (h.subset ((inOrder_perm members').subset hm)) hk
  have hn := lookup_of_mem ((inOrder_perm members).subset hn) hk
  have hkey : m.1 = n.1 := le_antisymm hle hge
  rw [hkey, hn] at hm
  exact Prod.ext hkey (Option.some.inj hm).symm

/-- A member is well-keyed on its own, whatever stands around it. -/
theorem wellKeyed_append_cons {before after : List (Text × Document)} {key : Text}
    {d : Document} : (Document.object (before ++ (key, d) :: after)).wellKeyed ↔
      (Document.object (before ++ (key, .null) :: after)).wellKeyed ∧ d.wellKeyed := by
  simp only [wellKeyed_object, List.map_append, List.map_cons, List.forall_mem_append,
    List.forall_mem_cons]
  have hnull : Document.null.wellKeyed := rfl
  tauto

theorem sorted_append_cons {before after : List (Text × Document)} {key : Text}
    {d d' : Document} (h : memberSorted key d' = memberSorted key d) :
    sorted (.object (before ++ (key, d') :: after)) =
      sorted (.object (before ++ (key, d) :: after)) := by
  simp only [sorted, membersSorted_eq, List.map_append, List.map_cons, h]

/-- **Schemas that differ in the order of properties only have one sorted form,** where no object
has a key twice. -/
theorem Reorders.sorted_eq {d d' : Document} (h : Reorders d d') :
    d.wellKeyed → d'.wellKeyed ∧ d'.sorted = d.sorted := by
  induction h with
  | refl d => exact fun hd => ⟨hd, rfl⟩
  | trans _ _ ih ih' =>
    intro hd
    obtain ⟨hd', heq⟩ := ih hd
    obtain ⟨hd'', heq'⟩ := ih' hd'
    exact ⟨hd'', heq'.trans heq⟩
  | @declared before after ps ps' h =>
    intro hd
    obtain ⟨hrest, hps⟩ := wellKeyed_append_cons.1 hd
    obtain ⟨hk, hwell⟩ := wellKeyed_object.1 hps
    have hps' : (Document.object ps').wellKeyed :=
      wellKeyed_object.2 ⟨(h.map Prod.fst).nodup_iff.2 hk, fun m hm => hwell m (h.subset hm)⟩
    refine ⟨wellKeyed_append_cons.2 ⟨hrest, hps'⟩, sorted_append_cons ?_⟩
    -- no name is declared twice, so there is one row in order with these members
    have hnames : ((ps.map (Prod.map id sorted)).map Prod.fst).Nodup := by
      rw [List.map_map]
      exact hk
    rw [memberSorted_properties, memberSorted_properties, inOrder_eq_of_perm (h.map _) hnames]
  | @property before after first last name d d' h ih =>
    intro hd
    obtain ⟨hrest, hps⟩ := wellKeyed_append_cons.1 hd
    obtain ⟨hpsrest, hd⟩ := wellKeyed_append_cons.1 hps
    obtain ⟨hd', heq⟩ := ih hd
    refine ⟨wellKeyed_append_cons.2 ⟨hrest, wellKeyed_append_cons.2 ⟨hpsrest, hd'⟩⟩,
      sorted_append_cons ?_⟩
    simp only [memberSorted_properties, List.map_append, List.map_cons, Prod.map_apply, heq]
  | @inside before after key d d' hk h ih =>
    intro hd
    obtain ⟨hrest, hd⟩ := wellKeyed_append_cons.1 hd
    obtain ⟨hd', heq⟩ := ih hd
    refine ⟨wellKeyed_append_cons.2 ⟨hrest, hd'⟩, sorted_append_cons ?_⟩
    rw [memberSorted_eq_sorted hk, memberSorted_eq_sorted hk, heq]

end Document

/-! ### Nodes with their properties in another order -/

namespace SchemaNode

variable {σ τ : Type} [SchemaNode σ] [SchemaNode τ]

/-- A map of the nodes of a family that keeps the answer to every question, up to itself where the
answer has nodes and up to the order of properties. -/
structure Permutes (P : σ → Prop) (f : σ → τ) : Prop extends KeepsValues P f where
  rules : ∀ {n}, P n → SchemaNode.rules (f n) = SchemaNode.rules n
  properties : ∀ {n}, P n →
    (SchemaNode.properties (f n)).Perm ((SchemaNode.properties n).map (Prod.map id f))

namespace Permutes

open Validator

variable {P : σ → Prop} {f : σ → τ} {n : σ}

/-- **A value has the same branches, in some order.** -/
theorem branches_perm (hf : Permutes P f) (hn : P n) (d : Datum) :
    (branches (f n) d).Perm ((branches n d).map (branch f)) := by
  cases d with
  | map entries =>
    simp only [branches, List.map_append, hf.otherBranches hn]
    refine List.Perm.append_right _ ?_
    rw [declaredBranches_eq, declaredBranches_eq, ← fieldBranches_map]
    exact (hf.properties hn).filterMap _
  | list items =>
    simp only [branches, hf.itemBranches hn]
    exact List.Perm.refl _
  | _ => exact List.Perm.refl _

/-- **The same places are visited, in some order.** -/
theorem visits (hf : Permutes P f) (hP : Regular P) {v : Visit σ} (hv : P v.node) :
    (Validator.visits (v.mirrored f)).Perm ((Validator.visits v).map (Visit.mirrored f)) := by
  have hnext : (v.mirrored f).next.Perm (v.next.map (Visit.mirrored f)) := by
    rw [Visit.next, Visit.next, List.map_map]
    have h := (hf.branches_perm hv v.value).map (v.mirrored f).down
    rwa [List.map_map] at h
  rw [visits_eq, visits_eq, List.map_cons, List.map_flatMap]
  refine List.Perm.cons _ ((hnext.flatMap_right _).trans ?_)
  rw [List.flatMap_map]
  refine List.Perm.flatMap_left _ fun w hw => ?_
  have := Visit.next_lt hw
  obtain ⟨b, hb, rfl⟩ := List.mem_map.1 hw
  exact hf.visits hP (hP.of_mem_branches hv hb)
termination_by sizeOf v.value

/-- Whole validations visit the same places, in some order. -/
theorem visited (hf : Permutes P f) (hP : Regular P) {root : Option σ}
    (hroot : ∀ n, root = some n → P n) (new : Datum) (old : Option Datum) :
    (Validator.visited (root.map f) new old).Perm
      ((Validator.visited root new old).map (Visit.mirrored f)) := by
  cases root with
  | none => exact .nil
  | some n => exact hf.visits hP (v := ⟨[], n, new, oldRoot old⟩) (hroot n rfl)

/-- A place reports what the mirrored place reports, rule by rule. -/
theorem outcomes (hf : Permutes P f) {v : Visit σ} (hv : P v.node) :
    (v.mirrored f).occasions.filterMap Occasion.outcome =
      v.occasions.filterMap Occasion.outcome := by
  have hb : (v.mirrored f).bindings? = v.bindings? := by
    rw [Visit.bindings?, Visit.bindings?]
    simp only [Visit.mirrored, hf.convert_some hv, hf.oldValue hv]
  rw [outcomes_eq, outcomes_eq, hb]
  simp only [Visit.mirrored, hf.rules hv]
  rfl

theorem converts (hf : Permutes P f) {v : Visit σ} (hv : P v.node) :
    (v.mirrored f).Converts ↔ v.Converts := by
  rw [Visit.Converts, Visit.Converts]
  simp only [Visit.mirrored, hf.rules hv, hf.convert_some hv]

end Permutes

end SchemaNode

namespace RawSchema

open Document

/-- The view of the sorted form. -/
def sorted (s : RawSchema) : RawSchema := ⟨s.context, membersSorted s.members⟩

theorem wrap?_sorted (c : Context) (d : Document) :
    wrap? c d.sorted = (wrap? c d).map sorted := by
  cases d <;> rfl

theorem nodeAt?_sorted (s : RawSchema) {key : Text}
    (hk : key = "items" ∨ key = "additionalProperties") :
    s.sorted.nodeAt? key = (s.nodeAt? key).map sorted :=
  nodeAt?_of_lookup (fun d => memberSorted_eq_sorted hk d ▸ wrap?_sorted s.context d)
    (lookup_membersSorted key s.members)

theorem rules_sorted (s : RawSchema) : rules s.sorted = rules s := by
  change rulesOf s.context (membersSorted s.members) = rulesOf s.context s.members
  rw [rulesOf, rulesOf, lookup_membersSorted]
  cases s.members.lookup validationsKey with
  | none => rfl
  | some d => cases d <;> rfl

/-- The declared properties are sorted each, and stand in some other order. -/
theorem declared_sorted {s : RawSchema} (hs : s.WellKeyed) :
    s.sorted.declared.Perm (s.declared.map (Prod.map id Document.sorted)) := by
  rw [declared, declared, sorted, lookup_membersSorted]
  cases hp : s.members.lookup ("properties" : Text) with
  | none => exact .nil
  | some d =>
    cases d with
    | object ps =>
      have hnodup := (Document.wellKeyed_object.1 (hs.mem _ (Document.mem_of_lookup hp))).1
      have hsorted : ((ps.map (Prod.map id Document.sorted)).map Prod.fst).Nodup := by
        rw [List.map_map]
        exact hnodup
      -- no name is there twice, before and after
      rw [Option.map_some, memberSorted_properties]
      change (distinct (inOrder _)).Perm ((distinct ps).map _)
      rw [distinct_eq_self hnodup,
        distinct_eq_self (((inOrder_perm _).map Prod.fst).nodup_iff.2 hsorted)]
      exact inOrder_perm _
    | _ => exact .nil

theorem nodes_sorted {s : RawSchema} (hs : s.WellKeyed) :
    s.sorted.nodes.Perm (s.nodes.map (Prod.map id sorted)) := by
  refine ((declared_sorted hs).filterMap _).trans (List.Perm.of_eq ?_)
  exact filterMap_wrap?_map (fun _ d => wrap?_sorted s.context d) s.declared

/-- **Sorting keeps the answer to every question, up to the order of properties,** where no object
has a key twice. -/
theorem permutes_sorted : Permutes WellKeyed sorted where
  type? {s} _ := textMember?_membersSorted "type" s.members
  format? {s} _ := textMember?_membersSorted "format" s.members
  child? {s} hs name := by
    have hnames : ((s.nodes.map (Prod.map id sorted)).map Prod.fst).Nodup := by
      rw [List.map_map]
      exact regular.nodup hs
    rw [← lookup_nodes, ← lookup_nodes]
    exact (lookup_eq_of_perm (nodes_sorted hs) hnames name).trans
      (lookup_map_snd sorted name s.nodes)
  hasProperty {s} hs name := by
    have hnames : ((s.declared.map (Prod.map id Document.sorted)).map Prod.fst).Nodup := by
      rw [List.map_map]
      exact nodup_distinct _
    have hlookup := (lookup_eq_of_perm (declared_sorted hs) hnames name).trans
      (lookup_map_snd Document.sorted name s.declared)
    exact (congrArg Option.isSome hlookup).trans Option.isSome_map
  items? {s} _ := s.nodeAt?_sorted (.inl rfl)
  additional? {s} _ := s.nodeAt?_sorted (.inr rfl)
  child {s name m} hs h :=
    regular.property hs (name, m) (Document.mem_of_lookup ((s.lookup_nodes name).trans h))
  item hs h := hs.nodeAt? h
  additional hs h := hs.nodeAt? h
  rules {s} _ := s.rules_sorted
  properties hs := nodes_sorted hs

end RawSchema

/-! ### Whole validations -/

namespace Validator

variable {σ : Type} [SchemaNode σ]

/-- **What it means that two reports differ in their order only,** where they are made at given
places. -/
structure Reordered (places places' : List (Visit σ)) (report report' : List Violation) :
    Prop where
  /-- The same values are visited, beside the same old values. -/
  same_places : (places'.map fun v => (v.way, v.value, v.old)).Perm
    (places.map fun v => (v.way, v.value, v.old))
  /-- The same violations are reported, each one as often. -/
  perm : report'.Perm report
  /-- Where one node governs a place in both, it reports one and the same stretch of both from there
  on. -/
  stretch : ∀ v ∈ places, ∀ w ∈ places', w.way = v.way → w.node = v.node →
    ∃ part, walk v.node v.path v.old v.value = .ok part ∧ part <:+: report ∧ part <:+: report'

/-- A place is told by its way and its node. -/
theorem visited_ext {root root' : Option σ} {new : Datum} {old : Option Datum} (hn : new.WellKeyed)
    {v w : Visit σ} (hv : v ∈ visited root new old) (hw : w ∈ visited root' new old)
    (hway : w.way = v.way) (hnode : w.node = v.node) : w = v := by
  have hvalue := visited_value hn hw
  rw [hway, visited_value hn hv] at hvalue
  have hold := visited_old hw
  rw [hway, ← visited_old hv] at hold
  cases v
  cases w
  cases hway
  cases hnode
  cases hvalue
  cases hold
  rfl

/-- What is visited from a visited place on is visited in one stretch. -/
theorem visited_stretch {root : Option σ} {new : Datum} {old : Option Datum} {v : Visit σ}
    (h : v ∈ visited root new old) : visits v <:+: visited root new old := by
  cases root with
  | none => cases h
  | some node => exact visits_stretch h

/-- What is reported from a place on is a stretch of the report, where all values convert. -/
theorem walk_stretch {root : Option σ} {new : Datum} {old : Option Datum}
    (hb : ∀ v ∈ visited root new old, v.Converts) {v : Visit σ} (hv : v ∈ visited root new old) :
    walk v.node v.path v.old v.value =
        .ok (((visits v).flatMap Visit.occasions).filterMap Occasion.outcome) ∧
      ((visits v).flatMap Visit.occasions).filterMap Occasion.outcome <:+:
        ((visited root new old).flatMap Visit.occasions).filterMap Occasion.outcome := by
  have hstretch := visited_stretch hv
  refine ⟨?_, (hstretch.flatMap _).filterMap _⟩
  rw [walk_eq_visits]
  exact flatMapM_report fun w hw => hb w (hstretch.subset hw)

variable {c : Context} {schema schema' : Document} {new : Datum} {old : Option Datum}

/-- All nodes of a schema without a key twice are such nodes. -/
theorem visited_wellKeyed (hs : schema.wellKeyed) :
    ∀ v ∈ visited (RawSchema.wrap? c schema) new old, v.node.WellKeyed := by
  refine visited_invariant (Q := fun v : Visit RawSchema => v.node.WellKeyed) ?_
    fun node h => RawSchema.wellKeyed_of_wrap? hs h
  intro v hv w hw
  obtain ⟨b, hb, rfl⟩ := List.mem_map.1 hw
  exact RawSchema.regular.of_mem_branches hv hb

/-- The place in the sorted form of the schema. -/
def sortedPlace : Visit RawSchema → Visit RawSchema := Visit.mirrored RawSchema.sorted

/-- **Under schemas that differ in the order of properties only, the same places are visited,** up
to their order and up to sorting. -/
theorem visited_reorders (h : schema.Reorders schema') (hs : schema.wellKeyed) :
    ((visited (RawSchema.wrap? c schema') new old).map sortedPlace).Perm
      ((visited (RawSchema.wrap? c schema) new old).map sortedPlace) := by
  obtain ⟨hs', hsorted⟩ := h.sorted_eq hs
  have hperm {d : Document} (hd : d.wellKeyed) :
      (visited (RawSchema.wrap? c d.sorted) new old).Perm
        ((visited (RawSchema.wrap? c d) new old).map sortedPlace) := by
    rw [RawSchema.wrap?_sorted]
    exact RawSchema.permutes_sorted.visited RawSchema.regular
      (fun _ h => RawSchema.wellKeyed_of_wrap? hd h) new old
  -- both are compared with the one sorted form
  have hperm' := hperm hs'
  rw [hsorted] at hperm'
  exact hperm'.symm.trans (hperm hs)

/-- The outcomes at the places of a schema are those at the places of its sorted form. -/
theorem outcomes_sortedPlace (hs : schema.wellKeyed) :
    ((visited (RawSchema.wrap? c schema) new old).flatMap Visit.occasions).filterMap
        Occasion.outcome =
      ((visited (RawSchema.wrap? c schema) new old).map sortedPlace).flatMap fun v =>
        v.occasions.filterMap Occasion.outcome := by
  rw [List.filterMap_flatMap, List.flatMap_map]
  exact List.flatMap_congr fun v hv =>
    (RawSchema.permutes_sorted.outcomes (visited_wellKeyed hs v hv)).symm

/-- Where the values convert, a validation reports the outcomes at the places that it visits. -/
theorem validate_eq_outcomes (hb : ∀ v ∈ visited (RawSchema.wrap? c schema) new old, v.Converts) :
    validate c schema new old = .ok (((visited (RawSchema.wrap? c schema) new old).flatMap
        Visit.occasions).filterMap Occasion.outcome) ∧
      validateCompiled (CompiledSchema.compile c schema) new old =
        .ok (((visited (RawSchema.wrap? c schema) new old).flatMap
          Visit.occasions).filterMap Occasion.outcome) := by
  rw [validate_eq_visited, validateCompiled_compile, flatMapM_report hb]
  exact ⟨rfl, rfl⟩

/-- Where the values convert under a schema, they do with its properties in another order. -/
theorem converts_of_reorders (h : schema.Reorders schema') (hs : schema.wellKeyed)
    (hb : ∀ v ∈ visited (RawSchema.wrap? c schema) new old, v.Converts) :
    ∀ v ∈ visited (RawSchema.wrap? c schema') new old, v.Converts := by
  intro v hv
  have hmem := (visited_reorders h hs).subset (List.mem_map_of_mem hv)
  obtain ⟨w, hw, heq⟩ := List.mem_map.1 hmem
  rw [← RawSchema.permutes_sorted.converts (visited_wellKeyed (h.sorted_eq hs).1 v hv)]
  change (sortedPlace v).Converts
  rw [← heq]
  exact (RawSchema.permutes_sorted.converts (visited_wellKeyed hs w hw)).2 (hb w hw)

/-- **In whatever order properties are declared, validations report the same, in some order.** Let
no object of the schema and no map of the value have a key twice, and let the values convert
wherever there are rules to ask. Then the validations under both schemas come to an end, with the
documents as with the trees compiled from them, and their reports differ in their order only. -/
theorem validate_reorders (c : Context) (h : schema.Reorders schema') (hs : schema.wellKeyed)
    (hn : new.WellKeyed) (old : Option Datum)
    (hb : ∀ v ∈ visited (RawSchema.wrap? c schema) new old, v.Converts) :
    ∃ report report',
      (validate c schema new old = .ok report ∧
        validateCompiled (CompiledSchema.compile c schema) new old = .ok report) ∧
      (validate c schema' new old = .ok report' ∧
        validateCompiled (CompiledSchema.compile c schema') new old = .ok report') ∧
      Reordered (visited (RawSchema.wrap? c schema) new old)
        (visited (RawSchema.wrap? c schema') new old) report report' := by
  have hb' := converts_of_reorders h hs hb
  have hperm := @visited_reorders c schema schema' new old h hs
  refine ⟨_, _, validate_eq_outcomes hb, validate_eq_outcomes hb', ?_⟩
  exact {
    same_places := by
      have hmap := hperm.map fun v => (v.way, v.value, v.old)
      rwa [List.map_map, List.map_map] at hmap
    perm := by
      rw [outcomes_sortedPlace hs, outcomes_sortedPlace (h.sorted_eq hs).1]
      exact hperm.flatMap_right _
    stretch := fun v hv w hw hway hnode => by
      obtain rfl := visited_ext hn hv hw hway hnode
      exact ⟨_, (walk_stretch hb hv).1, (walk_stretch hb hv).2, (walk_stretch hb' hw).2⟩ }

/-- A property with a rule that zero does not pass. -/
def positiveProperty (name : Text) : Text × Document :=
  (name, .object [("x-kubernetes-validations", .list [.object [("rule", .text "self > 0")]])])

/-- A schema for the items of a list, with given properties. -/
def boxSchema (ps : List (Text × Document)) : Document :=
  .object [("items", .object [("properties", .object ps)])]

/-- A list of one box, of which both sides are reported. -/
def boxes : Document := .list [.object [("width", .int 0), ("height", .int 0)]]

theorem boxSchema_reorders :
    (boxSchema [positiveProperty "width", positiveProperty "height"]).Reorders
      (boxSchema [positiveProperty "height", positiveProperty "width"]) :=
  @Document.Reorders.inside [] [] _ _ _ (.inl rfl)
    (@Document.Reorders.declared [] [] _ _ (List.Perm.swap _ _ []))

theorem boxes_converts :
    ∀ v ∈ visited (RawSchema.wrap? .plain
        (boxSchema [positiveProperty "width", positiveProperty "height"]))
      (ofDocument boxes) none, v.Converts :=
  visited_converts_ofDocument boxes none (by decide +kernel) (by decide +kernel)

/-- The sides of a box are reported in the order of their declaration, whichever it is. -/
theorem validate_reorders_boxes :
    (boxSchema [positiveProperty "width", positiveProperty "height"]).Reorders
        (boxSchema [positiveProperty "height", positiveProperty "width"]) ∧
      (boxSchema [positiveProperty "width", positiveProperty "height"]).wellKeyed ∧
      (ofDocument boxes).WellKeyed ∧
      (∀ v ∈ visited (RawSchema.wrap? .plain
          (boxSchema [positiveProperty "width", positiveProperty "height"]))
        (ofDocument boxes) none, v.Converts) ∧
      ∃ report report',
        (validate .plain (boxSchema [positiveProperty "width", positiveProperty "height"])
            (ofDocument boxes) none = .ok report ∧
          validateCompiled (CompiledSchema.compile .plain
              (boxSchema [positiveProperty "width", positiveProperty "height"]))
            (ofDocument boxes) none = .ok report) ∧
        (validate .plain (boxSchema [positiveProperty "height", positiveProperty "width"])
            (ofDocument boxes) none = .ok report' ∧
          validateCompiled (CompiledSchema.compile .plain
              (boxSchema [positiveProperty "height", positiveProperty "width"]))
            (ofDocument boxes) none = .ok report') ∧
        Reordered
          (visited (RawSchema.wrap? .plain
            (boxSchema [positiveProperty "width", positiveProperty "height"]))
            (ofDocument boxes) none)
          (visited (RawSchema.wrap? .plain
            (boxSchema [positiveProperty "height", positiveProperty "width"]))
            (ofDocument boxes) none) report report' := by
  have hs : (boxSchema [positiveProperty "width", positiveProperty "height"]).wellKeyed := by decide
  have hn : (ofDocument boxes).WellKeyed := wellKeyed_ofDocument (by decide)
  exact ⟨boxSchema_reorders, hs, hn, boxes_converts,
    validate_reorders .plain boxSchema_reorders hs hn none boxes_converts⟩

end Validator

end Admission
