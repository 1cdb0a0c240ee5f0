import Admission.Proofs.Coverage

/-!
# Positions of schema nodes

A node lies at a position in its schema: the row of steps that leads to it from the root. The same
node may govern many places, and two nodes that look the same lie at different positions.

* `SchemaStep`, `Placed`: one step to a node below, and a node at its position.
* `Placed.mirror_node`: forgetting positions keeps the answer to every question.
* `Validator.places`, `Validator.validate_eq_places`: **a validation reports what is reported at the
  places that it visits,** where each is governed by a node at its position.
* `Validator.validate_of_converts`: where the values convert, that is what the rules report.
-/

namespace Admission

open SchemaNode

/-- One step from a schema node to a node below it. -/
inductive SchemaStep where
  /-- To the node of a declared property. -/
  | property (name : Text)
  /-- To the node of the items of lists. -/
  | items
  /-- To the node of the values under keys that are not declared. -/
  | additional
  deriving DecidableEq, Repr

/-- A schema node at its position. -/
structure Placed (σ : Type) where
  position : List SchemaStep
  node : σ

namespace Placed

variable {σ : Type}

/-- The root of a schema. -/
def root (n : σ) : Placed σ := ⟨[], n⟩

/-- A node one step below. -/
def below (p : Placed σ) (s : SchemaStep) (n : σ) : Placed σ := ⟨p.position ++ [s], n⟩

variable [SchemaNode σ]

instance : SchemaNode (Placed σ) where
  type? p := type? p.node
  format? p := format? p.node
  rules p := rules p.node
  properties p := (properties p.node).map fun q => (q.1, p.below (.property q.1) q.2)
  child? p name := (child? p.node name).map (p.below (.property name))
  hasProperty p := hasProperty p.node
  items? p := (items? p.node).map (p.below .items)
  additional? p := (additional? p.node).map (p.below .additional)

omit [SchemaNode σ] in
theorem map_node_below (p : Placed σ) (s : SchemaStep) (n : Option σ) :
    (n.map (p.below s)).map (fun q => q.node) = n := by
  cases n <;> rfl

/-- **Forgetting positions keeps the answer to every question.** -/
theorem mirror_node : Mirror fun p : Placed σ => p.node where
  type? _ := rfl
  format? _ := rfl
  rules _ := rfl
  properties p := by
    change _ = ((properties p.node).map _).map _
    rw [List.map_map]
    exact (List.map_id _).symm
  child? p name := (p.map_node_below (.property name) (child? p.node name)).symm
  hasProperty _ _ := rfl
  items? p := (p.map_node_below .items (items? p.node)).symm
  additional? p := (p.map_node_below .additional (additional? p.node)).symm

end Placed

/-- All nodes of a document compile their rules in one context. -/
theorem RawSchema.context_of_reaches {root s : RawSchema} (h : Validator.Reaches root s) :
    s.context = root.context := by
  have hwrap {c : Context} {d : Document} {t : RawSchema} (ht : wrap? c d = some t) :
      t.context = c := by
    obtain ⟨_, -, rfl⟩ := Option.map_eq_some_iff.1 ht
    rfl
  induction h with
  | root => rfl
  | property _ hp ih =>
    obtain ⟨d, -, hd⟩ := mem_nodes.1 hp
    exact (hwrap hd).trans ih
  | item _ hc ih | additional _ hc ih =>
    obtain ⟨d, -, hd⟩ := Option.bind_eq_some_iff.1 hc
    exact (hwrap hd).trans ih

namespace Validator

/-- **The places that a validation visits,** each governed by a node at its position in the
schema. -/
def places (c : Context) (schema : Document) (new : Datum) (old : Option Datum) :
    List (Visit (Placed RawSchema)) :=
  visited ((RawSchema.wrap? c schema).map Placed.root) new old

/-- Without their positions, these are the visited places. -/
theorem map_places (c : Context) (schema : Document) (new : Datum) (old : Option Datum) :
    (places c schema new old).map (Visit.mirrored fun p => p.node) =
      visited (RawSchema.wrap? c schema) new old := by
  rw [places, ← Placed.mirror_node.alike.visited, Option.map_map]
  exact congrArg (visited · new old) Option.map_id'

/-- At every place, rules are compiled in the context of the validation. -/
theorem places_context {c : Context} {schema : Document} {new : Datum} {old : Option Datum} :
    ∀ v ∈ places c schema new old, v.node.node.context = c := by
  intro v hv
  have hmem := List.mem_map_of_mem (f := Visit.mirrored fun p : Placed RawSchema => p.node) hv
  rw [map_places] at hmem
  obtain ⟨root, hroot, hreach⟩ := visited_reaches _ hmem
  obtain ⟨_, -, rfl⟩ := Option.map_eq_some_iff.1 hroot
  exact RawSchema.context_of_reaches hreach

/-- **A validation reports what is reported at its places,** with the document as with the tree
compiled from it. -/
theorem validate_eq_places (c : Context) (schema : Document) (new : Datum) (old : Option Datum) :
    validate c schema new old = (places c schema new old).flatMapM Visit.report ∧
      validateCompiled (CompiledSchema.compile c schema) new old =
        (places c schema new old).flatMapM Visit.report := by
  have h : (visited (RawSchema.wrap? c schema) new old).flatMapM Visit.report =
      (places c schema new old).flatMapM Visit.report := by
    rw [← map_places, List.flatMapM_map]
    exact List.flatMapM_congr fun v _ => Placed.mirror_node.report v
  exact ⟨(validate_eq_visited c schema new old).trans h,
    (validateCompiled_compile c schema new old).trans h⟩

/-- **Where the values convert, a validation reports what the rules report** on all occasions at its
places. -/
theorem validate_of_converts {c : Context} {schema : Document} {new : Datum} {old : Option Datum}
    (hb : ∀ v ∈ places c schema new old, v.Converts) :
    validate c schema new old =
        .ok (((places c schema new old).flatMap Visit.occasions).filterMap Occasion.outcome) ∧
      validateCompiled (CompiledSchema.compile c schema) new old =
        .ok (((places c schema new old).flatMap Visit.occasions).filterMap Occasion.outcome) := by
  rw [← flatMapM_report hb]
  exact validate_eq_places c schema new old

end Validator

end Admission
