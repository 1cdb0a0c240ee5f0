import Mathlib.Data.List.Nodup
import Admission.Proofs.Entries
import Admission.Proofs.Governing

/-!
# Compiled trees, node by node

A schema document has a node at each position that leads through objects only. The view of the
document and the compiled tree have nodes at the same positions, and two nodes at one position give
the same answers: those that stand in the document there. The number of rules of the tree is the
number of the entries at all positions together.

* `Document.nodeAt?`, `SchemaNode.along?`: the node at a position, in a document and from a node.
* `RawSchema.along?_view`: **a view has nodes where its document has them.**
* `SchemaNode.Mirror.along?`: mirrored nodes have nodes at the same positions.
* `RawSchema.placed`: all nodes of a view, each at its position.
* `RawSchema.ruleCount_compiled`: the number of rules of a tree is counted over all nodes.
* `CompiledSchema.Answers`: what the nodes at one position answer.
* `CompiledSchema.compile_mirrorsNodes`: **a compiled tree mirrors its document at every node.**
-/

namespace Admission

open SchemaNode

/-! ### Positions -/

namespace Document

/-- What a schema has in the place of a node below it, an object or not. -/
def part? (schema : Document) : SchemaStep → Option Document
  | .property name => schema.declared? name
  | .items => schema.member? "items"
  | .additional => schema.member? "additionalProperties"

/-- **The schema at a position:** an object that is reached from an object through objects. -/
def nodeAt? (schema : Document) : List SchemaStep → Option Document
  | [] => schema.object?
  | step :: position => (schema.part? step).bind (nodeAt? · position)

/-- The entries that declare the rules of a schema. Whatever is no list has none. -/
def ruleEntries (schema : Document) : List Document :=
  match schema.member? validationsKey with
  | some (.list entries) => entries
  | _ => []

/-- What is no object has no nodes. -/
theorem nodeAt?_of_not_isObject {schema : Document} (h : schema.isObject = false)
    (position : List SchemaStep) : schema.nodeAt? position = none := by
  cases schema with
  | object members => cases h
  | _ => cases position with
    | nil => rfl
    | cons step position => cases step <;> rfl

/-- What is found at a position is an object. -/
theorem isObject_of_nodeAt? {schema d : Document} {position : List SchemaStep}
    (h : schema.nodeAt? position = some d) : d.isObject := by
  induction position generalizing schema with
  | nil =>
    obtain ⟨hobject, rfl⟩ := object?_eq_some_iff.1 h
    exact hobject
  | cons step position ih =>
    obtain ⟨part, -, hpart⟩ := Option.bind_eq_some_iff.1 h
    exact ih hpart

end Document

namespace SchemaNode

variable {σ τ : Type} [SchemaNode σ] [SchemaNode τ]

/-- The node one step below a node. -/
def below? (n : σ) : SchemaStep → Option σ
  | .property name => child? n name
  | .items => items? n
  | .additional => additional? n

/-- **The node at a position below a node.** -/
def along? (n : σ) : List SchemaStep → Option σ
  | [] => some n
  | step :: position => (below? n step).bind (along? · position)

theorem Mirror.below? {f : σ → τ} (hf : Mirror f) (n : σ) (step : SchemaStep) :
    SchemaNode.below? (f n) step = (SchemaNode.below? n step).map f := by
  cases step with
  | property name => exact hf.child? n name
  | items => exact hf.items? n
  | additional => exact hf.additional? n

/-- **Mirrored nodes have nodes at the same positions,** which are mirrored again. -/
theorem Mirror.along? {f : σ → τ} (hf : Mirror f) (n : σ) (position : List SchemaStep) :
    SchemaNode.along? (f n) position = (SchemaNode.along? n position).map f := by
  induction position generalizing n with
  | nil => rfl
  | cons step position ih =>
    rw [SchemaNode.along?, SchemaNode.along?, hf.below?, Option.bind_map, Option.map_bind]
    exact congrArg _ (funext fun m => ih m)

end SchemaNode

namespace RawSchema

variable {c : Context} {members : List (Text × Document)}

/-- The node below a view is the view of what its document has there. -/
theorem below?_view (c : Context) (members : List (Text × Document)) (step : SchemaStep) :
    below? (⟨c, members⟩ : RawSchema) step =
      ((Document.object members).part? step).bind (wrap? c) := by
  cases step with
  | property name => exact Bridge.child?_view c members name
  | items | additional => rfl

/-- **A view has nodes where its document has them,** and they are views of these. -/
theorem along?_view (c : Context) (schema : Document) (position : List SchemaStep) :
    (wrap? c schema).bind (along? · position) = (schema.nodeAt? position).bind (wrap? c) := by
  induction position generalizing schema with
  | nil =>
    simp only [along?, Document.nodeAt?, Bridge.object?_bind_wrap?]
    exact Option.bind_fun_some _
  | cons step position ih =>
    cases schema with
    | object members =>
      have hview : wrap? c (.object members) = some ⟨c, members⟩ := rfl
      rw [hview, Option.bind_some, along?, below?_view, Document.nodeAt?, Option.bind_assoc,
        Option.bind_assoc]
      -- the parts are schemas again
      exact congrArg _ (funext ih)
    | _ => cases step <;> rfl

/-- The nodes at positions below a view are the views of the objects there. -/
theorem along?_eq_some_iff {position : List SchemaStep} {n : RawSchema} :
    along? (⟨c, members⟩ : RawSchema) position = some n ↔
      ∃ ms, (Document.object members).nodeAt? position = some (.object ms) ∧ ⟨c, ms⟩ = n := by
  have hview : along? (⟨c, members⟩ : RawSchema) position =
      ((Document.object members).nodeAt? position).bind (wrap? c) :=
    along?_view c (.object members) position
  rw [hview, Option.bind_eq_some_iff]
  constructor
  · rintro ⟨d, hd, hn⟩
    cases d with
    | object ms => exact ⟨ms, hd, Option.some.inj hn⟩
    | _ => cases hn
  · rintro ⟨ms, hd, rfl⟩
    exact ⟨_, hd, rfl⟩

end RawSchema

/-! ### All nodes -/

namespace SchemaNode

variable {σ τ : Type} [SchemaNode σ] [SchemaNode τ]

/-- The nodes one step below a node: those of its properties in the order of their declaration, that
of items, and that of further keys. -/
def below (n : σ) : List (SchemaStep × σ) :=
  (properties n).map (fun p => (.property p.1, p.2)) ++ (items? n).toList.map (.items, ·) ++
    (additional? n).toList.map (.additional, ·)

theorem mem_below {n : σ} {b : SchemaStep × σ} :
    b ∈ below n ↔ (∃ p ∈ properties n, (.property p.1, p.2) = b) ∨
      (∃ m, items? n = some m ∧ (.items, m) = b) ∨
      ∃ m, additional? n = some m ∧ (.additional, m) = b := by
  simp only [below, List.mem_append, List.mem_map, Option.mem_toList, or_assoc]

theorem Mirror.below {f : σ → τ} (hf : Mirror f) (n : σ) :
    SchemaNode.below (f n) = (SchemaNode.below n).map fun b => (b.1, f b.2) := by
  simp only [SchemaNode.below, hf.properties, hf.items?, hf.additional?, Option.toList_map,
    List.map_append, List.map_map]
  rfl

end SchemaNode

namespace CompiledSchema

theorem ruleCounts_eq (properties : List (Text × CompiledSchema)) :
    ruleCounts properties = (properties.map fun p => ruleCount p.2).sum := by
  induction properties with
  | nil => rfl
  | cons p rest ih => rw [ruleCounts, ih, List.map_cons, List.sum_cons]

theorem ruleCountOf_eq (t : Option CompiledSchema) :
    ruleCountOf t = (t.toList.map ruleCount).sum := by
  cases t <;> rfl

/-- A tree has the rules of its root and those of the trees one step below. -/
theorem ruleCount_eq (t : CompiledSchema) :
    ruleCount t = (SchemaNode.rules t).length + ((below t).map fun b => ruleCount b.2).sum := by
  obtain ⟨type, format, rules, properties, items, additional, names⟩ := t
  rw [ruleCount, ruleCounts_eq, ruleCountOf_eq, ruleCountOf_eq]
  simp only [below, List.map_append, List.map_map, List.sum_append, ← Nat.add_assoc]
  rfl

end CompiledSchema

namespace RawSchema

/-- The members of a node under a key are smaller than the whole. -/
theorem nodeAt?_lt {s m : RawSchema} {key : Text} (h : s.nodeAt? key = some m) :
    sizeOf m.members < sizeOf s.members := by
  obtain ⟨d, hd, hm⟩ := Option.bind_eq_some_iff.1 h
  obtain ⟨members, hmembers, rfl⟩ := Option.map_eq_some_iff.1 hm
  cases d with
  | object =>
    cases hmembers
    have := List.sizeOf_lt_of_mem (Document.mem_of_lookup hd)
    simp only [Prod.mk.sizeOf_spec, Document.object.sizeOf_spec] at this ⊢
    omega
  | _ => cases hmembers

/-- So are the members of the node of a property. -/
theorem nodes_lt {s : RawSchema} {p : Text × RawSchema} (h : p ∈ s.nodes) :
    sizeOf p.2.members < sizeOf s.members := by
  obtain ⟨d, hd, hw⟩ := mem_nodes.1 h
  obtain ⟨members, hmembers, hp⟩ := Option.map_eq_some_iff.1 hw
  rw [← hp]
  cases d with
  | object =>
    cases hmembers
    rw [RawSchema.declared, membersOf] at hd
    cases hps : s.members.lookup ("properties" : Text) with
    | none =>
      rw [hps] at hd
      cases hd
    | some ps =>
      rw [hps] at hd
      cases ps with
      | object declared =>
        -- the node is a part of the declared properties, and they are a part of its parent
        have hdeclared := List.sizeOf_lt_of_mem (Document.mem_of_lookup hps)
        have hmember := List.sizeOf_lt_of_mem (show (p.1, _) ∈ declared from
          (Document.distinct_sublist _).mem hd)
        simp only [Prod.mk.sizeOf_spec, Document.object.sizeOf_spec] at hdeclared hmember ⊢
        omega
      | _ => cases hd
  | _ => cases hmembers

/-- **Nodes get smaller on the way down.** -/
theorem below_lt {s : RawSchema} {b : SchemaStep × RawSchema} (h : b ∈ below s) :
    sizeOf b.2.members < sizeOf s.members := by
  rcases mem_below.1 h with ⟨p, hp, rfl⟩ | ⟨m, hm, rfl⟩ | ⟨m, hm, rfl⟩
  · exact nodes_lt hp
  · exact nodeAt?_lt hm
  · exact nodeAt?_lt hm

/-- **All nodes of a view,** each at its position: the root, then all nodes from the first node
below it on, from the second, and so on. -/
def placed (s : RawSchema) : List (Placed RawSchema) :=
  ⟨[], s⟩ :: (below s).attach.flatMap fun b =>
    (placed b.1.2).map fun p => ⟨b.1.1 :: p.position, p.node⟩
termination_by sizeOf s.members
decreasing_by exact below_lt b.2

theorem placed_eq (s : RawSchema) : placed s = ⟨[], s⟩ :: (below s).flatMap fun b =>
    (placed b.2).map fun p => ⟨b.1 :: p.position, p.node⟩ := by
  rw [placed]
  congr 1
  conv_rhs => rw [← List.attach_map_subtype_val (below s), List.flatMap_map]

/-- Where no property is declared twice, the nodes below are those that are found one step below. -/
theorem mem_below_iff {s : RawSchema} (hs : s.WellKeyed) {b : SchemaStep × RawSchema} :
    b ∈ below s ↔ below? s b.1 = some b.2 := by
  rw [mem_below]
  obtain ⟨step, m⟩ := b
  cases step with
  | property name =>
    simp only [Prod.mk.injEq, reduceCtorEq, false_and, and_false, exists_false, or_false,
      SchemaStep.property.injEq]
    constructor
    · rintro ⟨p, hp, rfl, rfl⟩
      exact (s.lookup_nodes p.1).symm.trans (Document.lookup_of_mem hp (regular.nodup hs))
    · intro h
      exact ⟨_, Document.mem_of_lookup ((s.lookup_nodes name).trans h), rfl, rfl⟩
  | items | additional => simp [below?]

theorem wellKeyed_of_mem_below {s : RawSchema} (hs : s.WellKeyed) {b : SchemaStep × RawSchema}
    (h : b ∈ below s) : b.2.WellKeyed := by
  rcases mem_below.1 h with ⟨p, hp, rfl⟩ | ⟨m, hm, rfl⟩ | ⟨m, hm, rfl⟩
  · exact regular.property hs p hp
  · exact regular.item hs hm
  · exact regular.additional hs hm

/-- No two nodes one step below are reached by the same step. -/
theorem below_nodup {s : RawSchema} (hs : s.WellKeyed) : ((below s).map Prod.fst).Nodup := by
  have hproperties : ((properties s).map fun p => SchemaStep.property p.1).Nodup := by
    have hnames := (regular.nodup hs).map fun _ _ h => SchemaStep.property.inj h
    rwa [List.map_map] at hnames
  have hitems : ((items? s).toList.map fun _ => SchemaStep.items).Nodup := by
    cases items? s <;> simp
  have hadditional : ((additional? s).toList.map fun _ => SchemaStep.additional).Nodup := by
    cases additional? s <;> simp
  simp only [below, List.map_append, List.map_map, Function.comp_def]
  refine (hproperties.append hitems ?_).append hadditional ?_
  · intro step h h'
    obtain ⟨p, -, rfl⟩ := List.mem_map.1 h
    obtain ⟨m, -, hm⟩ := List.mem_map.1 h'
    cases hm
  · intro step h h'
    obtain ⟨m, -, rfl⟩ := List.mem_map.1 h'
    rcases List.mem_append.1 h with h | h
    · obtain ⟨p, -, hp⟩ := List.mem_map.1 h
      cases hp
    · obtain ⟨m', -, hm'⟩ := List.mem_map.1 h
      cases hm'

/-- **A node is among all nodes at a position iff it is found there.** -/
theorem mem_placed_iff {s : RawSchema} (hs : s.WellKeyed) {p : Placed RawSchema} :
    p ∈ placed s ↔ along? s p.position = some p.node := by
  obtain ⟨position, n⟩ := p
  rw [placed_eq, List.mem_cons, List.mem_flatMap]
  -- a step down leads to the node of a smaller document
  cases position with
  | nil =>
    constructor
    · rintro (h | ⟨b, -, h⟩)
      · cases h
        rfl
      · obtain ⟨q, -, hq⟩ := List.mem_map.1 h
        cases hq
    · intro h
      obtain rfl : s = n := Option.some.inj h
      exact .inl rfl
  | cons step position =>
    rw [along?, Option.bind_eq_some_iff]
    constructor
    · rintro (h | ⟨b, hb, h⟩)
      · cases h
      · obtain ⟨q, hq, he⟩ := List.mem_map.1 h
        cases he
        have := below_lt hb
        exact ⟨b.2, (mem_below_iff hs).1 hb,
          (mem_placed_iff (wellKeyed_of_mem_below hs hb)).1 hq⟩
    · rintro ⟨m, hm, h⟩
      have hb : (step, m) ∈ below s := (mem_below_iff hs).2 hm
      have := below_lt hb
      have hq := (mem_placed_iff (wellKeyed_of_mem_below hs hb) (p := ⟨position, n⟩)).2 h
      exact .inr ⟨_, hb, List.mem_map.2 ⟨_, hq, rfl⟩⟩
termination_by sizeOf s.members

/-- **No position comes twice.** -/
theorem placed_nodup {s : RawSchema} (hs : s.WellKeyed) :
    ((placed s).map Placed.position).Nodup := by
  rw [placed_eq, List.map_cons, List.map_flatMap, List.nodup_cons]
  simp only [List.map_map, Function.comp_def]
  refine ⟨?_, ?_⟩
  · -- all other positions have a first step
    simp
  · rw [List.nodup_flatMap]
    refine ⟨fun b hb => ?_, ?_⟩
    · have := below_lt hb
      have hnodup := placed_nodup (wellKeyed_of_mem_below hs hb)
      have hcons : Function.Injective (b.1 :: ·) := fun _ _ h => (List.cons.inj h).2
      have hbehind := hnodup.map hcons
      rwa [List.map_map] at hbehind
    · refine (List.pairwise_map.1 (below_nodup hs)).imp fun {b b'} hne position h h' => hne ?_
      obtain ⟨p, -, rfl⟩ := List.mem_map.1 h
      obtain ⟨p', -, hp'⟩ := List.mem_map.1 h'
      exact (List.cons.inj hp').1.symm
termination_by sizeOf s.members

/-- **The rules of a tree are counted over all nodes.** -/
theorem ruleCount_compiled (s : RawSchema) :
    s.compiled.ruleCount = ((placed s).map fun p => (rules p.node).length).sum := by
  have hbelow : ((below s.compiled).map fun b => b.2.ruleCount).sum =
      ((below s).map fun b => ((placed b.2).map fun p => (rules p.node).length).sum).sum := by
    rw [mirror_compiled.below, List.map_map]
    refine congrArg List.sum (List.map_congr_left fun b hb => ?_)
    have := below_lt hb
    exact ruleCount_compiled b.2
  have hroot : (rules s.compiled).length = (rules s).length := by rw [mirror_compiled.rules]
  rw [CompiledSchema.ruleCount_eq, hroot, hbelow, placed_eq, List.map_cons, List.sum_cons,
    List.map_flatMap, List.flatMap_def, List.sum_flatten, List.map_map]
  simp only [List.map_map, Function.comp_def]
termination_by sizeOf s.members

end RawSchema

/-! ### Documents, views and trees -/

namespace CompiledSchema

/-- **A node of a view and a node of a tree answer alike,** and as the document says that is
viewed. -/
structure Answers (c : Context) (d : Document) (n : RawSchema) (t : CompiledSchema) : Prop where
  type? : SchemaNode.type? t = SchemaNode.type? n
  format? : SchemaNode.format? t = SchemaNode.format? n
  rules : SchemaNode.rules t = SchemaNode.rules n
  /-- There is one rule for each entry, in the order of the entries. -/
  rules_entries : SchemaNode.rules n = d.ruleEntries.map (Rule.compile c)
  /-- The properties have the same names in the same order, each with the tree of its node. -/
  properties : SchemaNode.properties t =
    (SchemaNode.properties n).map (Prod.map id RawSchema.compiled)
  items? : SchemaNode.items? t = (SchemaNode.items? n).map RawSchema.compiled
  additional? : SchemaNode.additional? t = (SchemaNode.additional? n).map RawSchema.compiled
  child? : ∀ name, SchemaNode.child? t name = (SchemaNode.child? n name).map RawSchema.compiled
  /-- A property has a node iff an object is declared for it. -/
  child?_iff : ∀ name, (SchemaNode.child? n name).isSome ↔
    ∃ members, d.declared? name = some (.object members)
  hasProperty : ∀ name, SchemaNode.hasProperty t name = SchemaNode.hasProperty n name
  /-- A property is there iff anything is declared for it. -/
  hasProperty_iff : ∀ name, SchemaNode.hasProperty n name ↔ ∃ part, d.declared? name = some part

/-- **A compiled tree mirrors a schema document,** node by node. -/
structure MirrorsNodes (c : Context) (schema : Document) (tree : CompiledSchema) : Prop where
  /-- Where the document has a node, the view and the tree have nodes that answer alike. -/
  same : ∀ position d, schema.nodeAt? position = some d →
    ∃ n t, (RawSchema.wrap? c schema).bind (along? · position) = some n ∧
      along? tree position = some t ∧ Answers c d n t
  /-- Where it has none, they have none. The tree of what is no object has a root all the same. -/
  noOther : ∀ position, schema.nodeAt? position = none →
    (RawSchema.wrap? c schema).bind (along? · position) = none ∧
      (schema.isObject → along? tree position = none)
  /-- The number of rules is that of the entries at all positions of nodes, each taken once. -/
  ruleCount : ∃ positions : List (List SchemaStep), positions.Nodup ∧
    (∀ p, p ∈ positions ↔ ∃ d, schema.nodeAt? p = some d) ∧
    tree.ruleCount = (positions.map fun p =>
      (schema.nodeAt? p).elim 0 fun d => d.ruleEntries.length).sum

variable {c : Context} {members : List (Text × Document)}

theorem rules_view (c : Context) (members : List (Text × Document)) :
    SchemaNode.rules (⟨c, members⟩ : RawSchema) =
      (Document.object members).ruleEntries.map (Rule.compile c) := by
  rw [RawSchema.rules_eq, RawSchema.entries?, Document.ruleEntries, Document.member?_object]
  cases members.lookup validationsKey with
  | none => rfl
  | some d => cases d <;> rfl

theorem answers_compiled (c : Context) (members : List (Text × Document)) :
    Answers c (.object members) ⟨c, members⟩ (RawSchema.compiled ⟨c, members⟩) where
  type? := RawSchema.mirror_compiled.type? _
  format? := RawSchema.mirror_compiled.format? _
  rules := RawSchema.mirror_compiled.rules _
  rules_entries := rules_view c members
  properties := RawSchema.mirror_compiled.properties _
  items? := RawSchema.mirror_compiled.items? _
  additional? := RawSchema.mirror_compiled.additional? _
  child? := RawSchema.mirror_compiled.child? _
  child?_iff name := by
    rw [Bridge.child?_view]
    cases (Document.object members).declared? name with
    | none => simp
    | some d => cases d <;> simp [RawSchema.wrap?, Document.members?]
  hasProperty := RawSchema.mirror_compiled.hasProperty _
  hasProperty_iff name := by
    rw [Bridge.hasProperty_view]
    exact Option.isSome_iff_exists

/-- The tree of an object has the trees of the nodes of its view. -/
theorem along?_compile (c : Context) (members : List (Text × Document))
    (position : List SchemaStep) : along? (compile c (.object members)) position =
      (along? (⟨c, members⟩ : RawSchema) position).map RawSchema.compiled :=
  RawSchema.mirror_compiled.along? ⟨c, members⟩ position

/-- All nodes of the view of an object are at the positions where its document has nodes. -/
theorem mem_positions_iff (hm : (Document.object members).wellKeyed) {position : List SchemaStep} :
    position ∈ (⟨c, members⟩ : RawSchema).placed.map Placed.position ↔
      ∃ d, (Document.object members).nodeAt? position = some d := by
  have hplaced : ∀ p, p ∈ (⟨c, members⟩ : RawSchema).placed ↔
      along? (⟨c, members⟩ : RawSchema) p.position = some p.node :=
    fun p => RawSchema.mem_placed_iff (s := ⟨c, members⟩) hm
  rw [List.mem_map]
  constructor
  · rintro ⟨p, hp, rfl⟩
    obtain ⟨ms, hd, -⟩ := RawSchema.along?_eq_some_iff.1 ((hplaced p).1 hp)
    exact ⟨_, hd⟩
  · rintro ⟨d, hd⟩
    cases d with
    | object ms =>
      have hnode := (RawSchema.along?_eq_some_iff (c := c)).2 ⟨ms, hd, rfl⟩
      exact ⟨⟨position, ⟨c, ms⟩⟩, (hplaced _).2 hnode, rfl⟩
    | _ => cases Document.isObject_of_nodeAt? hd

/-- The number of rules of the tree of an object, counted by the entries of its document. -/
theorem ruleCount_compile (c : Context) (hm : (Document.object members).wellKeyed) :
    (compile c (.object members)).ruleCount =
      (((⟨c, members⟩ : RawSchema).placed.map Placed.position).map fun p =>
        ((Document.object members).nodeAt? p).elim 0 fun d => d.ruleEntries.length).sum := by
  rw [List.map_map]
  refine (RawSchema.ruleCount_compiled ⟨c, members⟩).trans ?_
  refine congrArg List.sum (List.map_congr_left fun p hp => ?_)
  -- the node at the position is the view of the document there
  have hnode := (RawSchema.mem_placed_iff (s := ⟨c, members⟩) hm).1 hp
  obtain ⟨ms, hd, hn⟩ := RawSchema.along?_eq_some_iff.1 hnode
  rw [← hn, rules_view, List.length_map, Function.comp_apply, hd, Option.elim_some]

/-- A schema that is no object has no nodes, and its tree says nothing at its root. -/
theorem mirrorsNodes_of_not_isObject (c : Context) {schema : Document}
    (hobject : schema.isObject = false) : MirrorsNodes c schema (compile c schema) := by
  have hview := RawSchema.along?_view c schema
  have hnone := Document.nodeAt?_of_not_isObject hobject
  refine ⟨fun position d h => ?_, fun position _ => ⟨?_, ?_⟩, [], List.nodup_nil, ?_, ?_⟩
  · rw [hnone] at h
    cases h
  · rw [hview, hnone]
    rfl
  · intro h
    rw [hobject] at h
    cases h
  · simp [hnone]
  · cases schema with
    | object => cases hobject
    | _ => rfl

/-- At every node of an object its tree stands beside its view. -/
theorem mirrorsNodes_object (c : Context) (hm : (Document.object members).wellKeyed) :
    MirrorsNodes c (.object members) (compile c (.object members)) := by
  refine ⟨fun position d h => ?_, fun position h => ?_, _,
    RawSchema.placed_nodup (s := ⟨c, members⟩) hm, fun p => mem_positions_iff hm,
    ruleCount_compile c hm⟩
  · obtain ⟨ms, rfl⟩ : ∃ ms, d = .object ms := by
      cases d with
      | object ms => exact ⟨ms, rfl⟩
      | _ => cases Document.isObject_of_nodeAt? h
    have hnode := (RawSchema.along?_eq_some_iff (c := c)).2 ⟨ms, h, rfl⟩
    refine ⟨⟨c, ms⟩, RawSchema.compiled ⟨c, ms⟩, hnode, ?_, answers_compiled c ms⟩
    rw [along?_compile, hnode]
    rfl
  · have hnode : along? (⟨c, members⟩ : RawSchema) position = none :=
      (RawSchema.along?_view c (.object members) position).trans (by rw [h]; rfl)
    exact ⟨hnode, fun _ => by rw [along?_compile, hnode]; rfl⟩

/-- **A compiled tree mirrors its document at every node,** where no object of the document has a
key twice. -/
theorem compile_mirrorsNodes (c : Context) {schema : Document} (hs : schema.wellKeyed) :
    MirrorsNodes c schema (compile c schema) := by
  cases schema with
  | object members => exact mirrorsNodes_object c hs
  | _ => exact mirrorsNodes_of_not_isObject c rfl

/-- A schema with parts of all kinds in the wrong places: a type that is no text, an entry that is
no declaration, a property that is no object, entries that are no list, and further keys that are
no object. -/
def crookedSchema : Document :=
  .object [
    ("type", .int 1),
    ("x-kubernetes-validations", .list [.object [("rule", .text "self")], .int 0]),
    ("properties", .object [
      ("free", .bool true),
      ("tags", .object [
        ("x-kubernetes-validations", .text "self"),
        ("items", .object [("x-kubernetes-validations", .list [.null])])])]),
    ("additionalProperties", .bool false)]

example : (compile .plain crookedSchema).ruleCount = 3 := by rfl

/-- The tree that is compiled from it mirrors it all the same. -/
theorem compile_mirrorsNodes_crooked :
    crookedSchema.wellKeyed ∧
      MirrorsNodes .plain crookedSchema (compile .plain crookedSchema) :=
  ⟨by decide, compile_mirrorsNodes .plain (by decide)⟩

end CompiledSchema

end Admission
