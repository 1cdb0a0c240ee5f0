import Admission.Proofs.Position

/-!
# Schemas with other entries

The entries of a schema are the declarations under its nodes. Whatever is done to the entries of
each node, its position considered, the schema keeps its shape: the same places are visited, and a
node has the rules that its new entries declare.

* `Document.mapEntries`: a schema with the entries of all nodes changed.
* `RawSchema.entries?`, `RawSchema.rules_eq`: the entries of a node, and the rules they declare.
* `Placed.alike_mapEntries`: a schema with other entries differs in its rules only.
* `Validator.places_mapEntries`: **it is visited at the same places.**
-/

namespace Admission

open SchemaNode

/-! ### Changing entries -/

namespace Document

mutual

/-- The document of a node at a position, with the entries of all nodes in it changed. -/
def entriesMapped (f : List SchemaStep → List Document → List Document)
    (pos : List SchemaStep) : Document → Document
  | .object members => .object (membersMapped f pos members)
  | d => d
termination_by structural d => d

/-- The members of a node, with the entries of all nodes in them changed. -/
def membersMapped (f : List SchemaStep → List Document → List Document)
    (pos : List SchemaStep) : List (Text × Document) → List (Text × Document)
  | [] => []
  | (key, d) :: rest => (key, memberMapped f pos key d) :: membersMapped f pos rest
termination_by structural members => members

/-- A member of a node: its entries are changed, the nodes below it looked into, and all else left
as it is. -/
def memberMapped (f : List SchemaStep → List Document → List Document)
    (pos : List SchemaStep) (key : Text) : Document → Document
  | .list items => .list (if key = validationsKey then f pos items else items)
  | .object members => .object (
      if key = "properties" then propertiesMapped f pos members
      else if key = "items" then membersMapped f (pos ++ [.items]) members
      else if key = "additionalProperties" then membersMapped f (pos ++ [.additional]) members
      else members)
  | d => d
termination_by structural d => d

/-- The declared properties of a node, with the entries of all nodes in them changed. -/
def propertiesMapped (f : List SchemaStep → List Document → List Document)
    (pos : List SchemaStep) : List (Text × Document) → List (Text × Document)
  | [] => []
  | (name, d) :: rest =>
    (name, entriesMapped f (pos ++ [.property name]) d) :: propertiesMapped f pos rest
termination_by structural declared => declared

end

/-- **The schema in which the entries of every node,** those at its position, are changed by a
function. -/
def mapEntries (f : List SchemaStep → List Document → List Document) (schema : Document) :
    Document := entriesMapped f [] schema

variable (f : List SchemaStep → List Document → List Document) (pos : List SchemaStep)

theorem membersMapped_eq (members : List (Text × Document)) :
    membersMapped f pos members = members.map fun m => (m.1, memberMapped f pos m.1 m.2) := by
  induction members with
  | nil => rfl
  | cons m rest ih => rw [membersMapped, ih, List.map_cons]

theorem propertiesMapped_eq (declared : List (Text × Document)) :
    propertiesMapped f pos declared =
      declared.map fun p => (p.1, entriesMapped f (pos ++ [.property p.1]) p.2) := by
  induction declared with
  | nil => rfl
  | cons p rest ih => rw [propertiesMapped, ih, List.map_cons]

/-- What is found under a key of a node with other entries. -/
theorem lookup_membersMapped (key : Text) (members : List (Text × Document)) :
    (membersMapped f pos members).lookup key =
      (members.lookup key).map (memberMapped f pos key) := by
  rw [membersMapped_eq]
  exact lookup_map_entry (memberMapped f pos) key members

/-- Texts are left as they are. -/
theorem text?_memberMapped (key : Text) (d : Document) :
    (memberMapped f pos key d).text? = d.text? := by
  cases d <;> rfl

theorem textMember?_membersMapped (key : Text) (members : List (Text × Document)) :
    textMember? key (membersMapped f pos members) = textMember? key members :=
  textMember?_of_lookup (text?_memberMapped f pos key) (lookup_membersMapped f pos key members)

end Document

/-! ### Nodes with other entries -/

namespace RawSchema

open Document

/-- The entries of a node, if it has a list of them. -/
def entries? (s : RawSchema) : Option (List Document) :=
  match s.members.lookup validationsKey with
  | some (.list entries) => some entries
  | _ => none

/-- **The rules of a node are those that its entries declare,** one for each. -/
theorem rules_eq (s : RawSchema) :
    rules s = (s.entries?.getD []).map (Rule.compile s.context) := by
  change rulesOf s.context s.members = _
  rw [rulesOf, entries?]
  cases s.members.lookup validationsKey with
  | none => rfl
  | some d => cases d <;> rfl

variable (f : List SchemaStep → List Document → List Document) (pos : List SchemaStep)

/-- The node at a position with the entries of all nodes in it changed. -/
def mapped (s : RawSchema) : RawSchema := ⟨s.context, membersMapped f pos s.members⟩

/-- The entries of the node itself are changed as its position says. -/
theorem entries?_mapped (s : RawSchema) : (s.mapped f pos).entries? = s.entries?.map (f pos) := by
  rw [entries?, entries?, mapped, lookup_membersMapped]
  cases s.members.lookup validationsKey with
  | none => rfl
  | some d =>
    cases d with
    | list items => simp [memberMapped]
    | _ => rfl

theorem wrap?_entriesMapped (c : Context) (d : Document) :
    wrap? c (entriesMapped f pos d) = (wrap? c d).map (mapped f pos) := by
  cases d <;> rfl

theorem nodeAt?_mapped (s : RawSchema) {key : Text} (step : SchemaStep)
    (h : ∀ d, memberMapped f pos key d = entriesMapped f (pos ++ [step]) d) :
    (s.mapped f pos).nodeAt? key = (s.nodeAt? key).map (mapped f (pos ++ [step])) :=
  nodeAt?_of_lookup (fun d => h d ▸ wrap?_entriesMapped f _ s.context d)
    (lookup_membersMapped f pos key s.members)

theorem declared_mapped (s : RawSchema) :
    (s.mapped f pos).declared = propertiesMapped f pos s.declared := by
  rw [declared, declared, mapped, lookup_membersMapped, propertiesMapped_eq]
  refine Eq.trans ?_ (distinct_map (fun name => entriesMapped f (pos ++ [.property name])) _)
  rw [← propertiesMapped_eq]
  cases s.members.lookup ("properties" : Text) with
  | none => rfl
  | some d => cases d <;> rfl

theorem nodes_mapped (s : RawSchema) : (s.mapped f pos).nodes =
    s.nodes.map fun p => (p.1, p.2.mapped f (pos ++ [.property p.1])) := by
  rw [nodes, declared_mapped, propertiesMapped_eq]
  exact filterMap_wrap?_map
    (fun name d => wrap?_entriesMapped f (pos ++ [.property name]) s.context d) s.declared

theorem child?_mapped (s : RawSchema) (name : Text) :
    child? (s.mapped f pos) name =
      (child? s name).map (mapped f (pos ++ [.property name])) := by
  rw [← lookup_nodes, ← lookup_nodes, nodes_mapped]
  exact lookup_map_entry (fun name s => s.mapped f (pos ++ [SchemaStep.property name])) name s.nodes

theorem isSome_lookup_declared_mapped (s : RawSchema) (name : Text) :
    ((s.mapped f pos).declared.lookup name).isSome = (s.declared.lookup name).isSome := by
  rw [declared_mapped, propertiesMapped_eq]
  exact (congrArg Option.isSome (lookup_map_entry
    (fun name d => entriesMapped f (pos ++ [SchemaStep.property name]) d) name s.declared)).trans
      Option.isSome_map

end RawSchema

namespace Placed

variable (f : List SchemaStep → List Document → List Document)

/-- The node with the entries of all nodes in it changed, at the same position. -/
def mapEntries (p : Placed RawSchema) : Placed RawSchema :=
  ⟨p.position, p.node.mapped f p.position⟩

/-- **A schema with other entries differs in its rules only.** -/
theorem alike_mapEntries : Alike (mapEntries f) where
  type? p := Document.textMember?_membersMapped f p.position "type" p.node.members
  format? p := Document.textMember?_membersMapped f p.position "format" p.node.members
  properties p := by
    change ((p.node.mapped f p.position).nodes).map _ = (p.node.nodes.map _).map _
    rw [RawSchema.nodes_mapped, List.map_map, List.map_map]
    rfl
  child? p name := by
    change (child? (p.node.mapped f p.position) name).map _ = ((child? p.node name).map _).map _
    rw [RawSchema.child?_mapped, Option.map_map, Option.map_map]
    rfl
  hasProperty p name := p.node.isSome_lookup_declared_mapped f p.position name
  items? p := by
    change ((p.node.mapped f p.position).nodeAt? "items").map _ =
      ((p.node.nodeAt? "items").map _).map _
    rw [RawSchema.nodeAt?_mapped f p.position p.node .items
      fun d => by cases d <;> rfl, Option.map_map, Option.map_map]
    rfl
  additional? p := by
    change ((p.node.mapped f p.position).nodeAt? "additionalProperties").map _ =
      ((p.node.nodeAt? "additionalProperties").map _).map _
    rw [RawSchema.nodeAt?_mapped f p.position p.node .additional
      fun d => by cases d <;> rfl, Option.map_map, Option.map_map]
    rfl

/-- The rules of a node at its position are those that its entries declare. -/
theorem rules_eq (p : Placed RawSchema) :
    rules p = (p.node.entries?.getD []).map (Rule.compile p.node.context) :=
  RawSchema.rules_eq p.node

/-- A node with other entries has the rules that these declare. -/
theorem rules_mapEntries (p : Placed RawSchema) : rules (p.mapEntries f) =
    ((p.node.entries?.map (f p.position)).getD []).map (Rule.compile p.node.context) := by
  change rules (p.node.mapped f p.position) = _
  rw [RawSchema.rules_eq, RawSchema.entries?_mapped]
  rfl

end Placed

namespace Validator

/-- **A schema with other entries is visited at the same places.** -/
theorem places_mapEntries (f : List SchemaStep → List Document → List Document) (c : Context)
    (schema : Document) (new : Datum) (old : Option Datum) :
    places c (schema.mapEntries f) new old =
      (places c schema new old).map (Visit.mirrored (Placed.mapEntries f)) := by
  rw [places, places, ← (Placed.alike_mapEntries f).visited, Document.mapEntries,
    RawSchema.wrap?_entriesMapped, Option.map_map, Option.map_map]
  rfl

end Validator

end Admission
