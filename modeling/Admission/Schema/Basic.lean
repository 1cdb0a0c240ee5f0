import Admission.Rule.Basic

/-!
# Schemas

A schema node has a type, a format, rules, and nodes for the parts of a value. There are two
shapes of nodes: a view of a document, which compiles rules whenever they are asked for, and a
tree in which they are compiled once. Only objects are nodes. A property whose schema is not an
object has no node, but it is declared all the same.

* `SchemaNode`: what can be asked of a node of either shape.
* `RawSchema`, `RawSchema.wrap?`: the view of a document.
* `SchemaSource`: a document or a view, given as a schema.
* `CompiledSchema`, `CompiledSchema.compile`: the compiled tree.
-/

namespace Admission

/-- What can be asked of a schema node. -/
class SchemaNode (σ : Type) where
  type? : σ → Option Text
  format? : σ → Option Text
  rules : σ → List Rule
  /-- The declared properties that have a node, in the order of their declaration. -/
  properties : σ → List (Text × σ)
  /-- The node of a declared property. -/
  child? : σ → Text → Option σ
  /-- Whether a property is declared, with a node or without. -/
  hasProperty : σ → Text → Bool
  /-- The node of the items of lists. -/
  items? : σ → Option σ
  /-- The node of the values under keys that are not declared. -/
  additional? : σ → Option σ

/-- The key of the rules of a node. -/
def validationsKey : Text := "x-kubernetes-validations"

/-- The members of a document, none if it is not an object. -/
def membersOf (d : Option Document) : List (Text × Document) := (d.bind Document.members?).getD []

/-- The rules among the members of a node, in the order of their declaration. -/
def rulesOf (c : Context) (members : List (Text × Document)) : List Rule :=
  match members.lookup validationsKey with
  | some (.list entries) => entries.map (Rule.compile c)
  | _ => []

/-- The rules of a document taken as a schema node. -/
def Rule.ofSchema (c : Context) (schema : Document) : List Rule :=
  rulesOf c (membersOf (some schema))

/-- The text of a member, if it is one. -/
def textMember? (key : Text) (members : List (Text × Document)) : Option Text :=
  (members.lookup key).bind Document.text?

/-! ### Views of documents -/

/-- A view of an object as a schema node, which compiles rules in a context. -/
structure RawSchema where
  context : Context
  members : List (Text × Document)

namespace RawSchema

/-- The view of a document, if it is an object. -/
def wrap? (c : Context) (d : Document) : Option RawSchema := d.members?.map (⟨c, ·⟩)

/-- The declared properties with their documents. A name is declared once. -/
def declared (s : RawSchema) : List (Text × Document) :=
  Document.distinct (membersOf (s.members.lookup ("properties" : Text)))

/-- The declared properties that are objects, as nodes. -/
def nodes (s : RawSchema) : List (Text × RawSchema) :=
  s.declared.filterMap fun (name, d) => (wrap? s.context d).map (name, ·)

/-- The node of a member. -/
def nodeAt? (s : RawSchema) (key : Text) : Option RawSchema :=
  (s.members.lookup key).bind (wrap? s.context)

instance : SchemaNode RawSchema where
  type? s := textMember? "type" s.members
  format? s := textMember? "format" s.members
  rules s := rulesOf s.context s.members
  properties s := s.nodes
  child? s name := (s.declared.lookup name).bind (wrap? s.context)
  hasProperty s name := (s.declared.lookup name).isSome
  items? s := s.nodeAt? "items"
  additional? s := s.nodeAt? "additionalProperties"

end RawSchema

/-- What can be given as a schema that is not compiled. -/
inductive SchemaSource where
  | document (d : Document)
  /-- A view that was taken before. -/
  | view (s : RawSchema)

namespace SchemaSource

/-- The view of what is given as a schema, if it is an object; a view is taken as it is. Values do
not depend on rules, so any context will do for a document. -/
def node? : SchemaSource → Option RawSchema
  | .document d => RawSchema.wrap? .plain d
  | .view s => some s

/-- The view of a document, given in the place of the document; null, if there is none. -/
def wrapped (c : Context) (d : Document) : SchemaSource :=
  ((RawSchema.wrap? c d).map view).getD (.document .null)

end SchemaSource

/-! ### Compiled trees -/

/-- A schema node with compiled rules. -/
structure CompiledSchema where
  type : Option Text := none
  format : Option Text := none
  rules : List Rule := []
  properties : List (Text × CompiledSchema) := []
  items : Option CompiledSchema := none
  additional : Option CompiledSchema := none
  /-- The names of all declared properties, also of those without a node. -/
  declaredNames : List Text := []

namespace CompiledSchema

/-- The node that asks for nothing. -/
def blank : CompiledSchema := ⟨none, none, [], [], none, none, []⟩

instance : Inhabited CompiledSchema := ⟨blank⟩

mutual

/-- **The compiled tree of a document.** A document that is not an object asks for nothing. -/
def compile (c : Context) : Document → CompiledSchema
  | .object members => {
      type := textMember? "type" members
      format := textMember? "format" members
      rules := rulesOf c members
      properties := compileProperties c members
      items := compileAt c "items" members
      additional := compileAt c "additionalProperties" members
      declaredNames := (membersOf (members.lookup ("properties" : Text))).map Prod.fst }
  | _ => blank
termination_by structural d => d

/-- The tree of the member under a key. -/
def compileAt (c : Context) (key : Text) : List (Text × Document) → Option CompiledSchema
  | [] => none
  | (k, d) :: rest =>
    if key == k then (if d.isObject then some (compile c d) else none) else compileAt c key rest
termination_by structural members => members

/-- The trees of the declared properties among the members of a node. -/
def compileProperties (c : Context) : List (Text × Document) → List (Text × CompiledSchema)
  | [] => []
  | (k, d) :: rest =>
    if "properties" == k then compileDeclared c d else compileProperties c rest
termination_by structural members => members

/-- The trees of the properties that a document declares. -/
def compileDeclared (c : Context) : Document → List (Text × CompiledSchema)
  | .object declared => compileNodes c declared
  | _ => []
termination_by structural d => d

/-- The trees of the documents that are objects, under their names. A name that is there already is
passed over. -/
def compileNodes (c : Context) : List (Text × Document) → List (Text × CompiledSchema)
  | [] => []
  | (name, d) :: rest =>
    let others := (compileNodes c rest).filter fun p => p.1 != name
    if d.isObject then (name, compile c d) :: others else others
termination_by structural declared => declared

end

instance : SchemaNode CompiledSchema where
  type? s := s.type
  format? s := s.format
  rules s := s.rules
  properties s := s.properties
  child? s name := s.properties.lookup name
  hasProperty s name := (s.properties.lookup name).isSome || s.declaredNames.contains name
  items? s := s.items
  additional? s := s.additional

mutual

/-- The number of rules in a tree. -/
def ruleCount : CompiledSchema → Nat
  | ⟨_, _, rules, properties, items, additional, _⟩ =>
    rules.length + ruleCounts properties + ruleCountOf items + ruleCountOf additional

/-- The number of rules in the trees of properties. -/
def ruleCounts : List (Text × CompiledSchema) → Nat
  | [] => 0
  | (_, s) :: rest => ruleCount s + ruleCounts rest

/-- The number of rules in a tree that may be missing. -/
def ruleCountOf : Option CompiledSchema → Nat
  | none => 0
  | some s => ruleCount s

end

end CompiledSchema

end Admission
