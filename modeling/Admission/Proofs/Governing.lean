import Mathlib.Data.List.Induction
import Admission.Proofs.FormattedText
import Admission.Proofs.SameShape
import Admission.Proofs.SchemaForm

/-!
# Governing schemas

The schema that governs a part of JSON is found by descending from the root along the way to the
part. The value of JSON under a schema has the shape of its value on its own, and a text in it
differs only if the schema that governs it has a format, and the text writes a value of that format.

* `Document.governing?`: the schema that governs the part at a way.
* `Bridge.partNode?_field`, `Bridge.partNode?_index`: a view finds for parts what its document has.
* `Bridge.viewAlong?`: the view of the governing schema.
* `Bridge.withSchema_sameBut`: **a schema changes formatted texts only.**
-/

namespace Admission

/-! ### Descending along a way -/

namespace Document

/-- A document, if it is an object: only objects are schemas. -/
def object? (d : Document) : Option Document := if d.isObject then some d else none

/-- Whether a schema speaks of values of a JSON type: it has that type or none. A type that is not a
text is none. -/
def speaksOf (schema : Document) (type : Text) : Bool :=
  match (schema.member? "type").bind text? with
  | some t => t = type
  | none => true

/-- The format of a schema, if it is a text. -/
def format? (schema : Document) : Option Text := (schema.member? "format").bind text?

/-- What a schema declares for a property, an object or not. -/
def declared? (schema : Document) (name : Text) : Option Document :=
  (schema.member? "properties").bind (member? name)

/-- **The schema for the part at a step:** through an object, what is declared for the key, or what
holds of further keys if nothing is declared; through a list, what holds of items. -/
def partSchema? (schema : Document) : Step → Option Document
  | .field name =>
    if schema.speaksOf "object" then
      match schema.declared? name with
      | some child => child.object?
      | none => (schema.member? "additionalProperties").bind object?
    else none
  | .index _ =>
    if schema.speaksOf "array" then (schema.member? "items").bind object? else none

/-- **The schema that governs the part at a way.** Where a step leads to no schema, there is none
for the part there and for all of its parts. -/
def governing? (schema : Document) (way : List Step) : Option Document :=
  way.foldl (fun node step => node.bind (·.partSchema? step)) schema.object?

theorem governing?_concat (schema : Document) (way : List Step) (step : Step) :
    schema.governing? (way ++ [step]) =
      (schema.governing? way).bind (·.partSchema? step) := by
  rw [governing?, List.foldl_append]
  rfl

theorem object?_eq_some_iff {d d' : Document} : d.object? = some d' ↔ d.isObject ∧ d = d' := by
  simp [object?]

/-- Members of documents without a key twice are such documents. -/
theorem wellKeyed_of_member? {d child : Document} (hd : d.wellKeyed) {key : Text}
    (h : d.member? key = some child) : child.wellKeyed := by
  cases d with
  | object members => exact (wellKeyed_object.1 hd).2 _ (mem_of_lookup h)
  | _ => cases h

/-- The schema for a part is an object, and is without a key twice if the schema of the whole is. -/
theorem isObject_of_partSchema? {schema child : Document} (hs : schema.wellKeyed) {step : Step}
    (h : schema.partSchema? step = some child) : child.isObject ∧ child.wellKeyed := by
  have hmember : ∀ {key}, (schema.member? key).bind object? = some child →
      child.isObject ∧ child.wellKeyed := by
    intro key h
    obtain ⟨d, hd, h⟩ := Option.bind_eq_some_iff.1 h
    obtain ⟨hobject, rfl⟩ := object?_eq_some_iff.1 h
    exact ⟨hobject, wellKeyed_of_member? hs hd⟩
  cases step with
  | field name =>
    rw [partSchema?] at h
    split at h
    · split at h
      · next d hd =>
        obtain ⟨ps, hps, hd⟩ := Option.bind_eq_some_iff.1 hd
        obtain ⟨hobject, rfl⟩ := object?_eq_some_iff.1 h
        exact ⟨hobject, wellKeyed_of_member? (wellKeyed_of_member? hs hps) hd⟩
      · exact hmember h
    · cases h
  | index i =>
    rw [partSchema?] at h
    split at h
    · exact hmember h
    · cases h

/-- **Governing schemas are objects,** and are without a key twice if the schema at the root is. -/
theorem isObject_of_governing? {schema : Document} (hs : schema.wellKeyed) {way : List Step}
    {node : Document} (h : schema.governing? way = some node) :
    node.isObject ∧ node.wellKeyed := by
  induction way using List.reverseRecOn generalizing node with
  | nil =>
    obtain ⟨hobject, rfl⟩ := object?_eq_some_iff.1 h
    exact ⟨hobject, hs⟩
  | append_singleton way step ih =>
    rw [governing?_concat] at h
    obtain ⟨parent, hparent, h⟩ := Option.bind_eq_some_iff.1 h
    exact isObject_of_partSchema? (ih hparent).2 h

end Document

namespace Bridge

open Datum SchemaNode

/-! ### Views of governing schemas -/

section Views

variable {c : Context} {members : List (Text × Document)}

theorem object?_bind_wrap? (c : Context) (d : Document) :
    d.object?.bind (RawSchema.wrap? c) = RawSchema.wrap? c d := by
  cases d <;> rfl

theorem accepts_view (c : Context) (members : List (Text × Document)) (type : Text) :
    accepts (⟨c, members⟩ : RawSchema) type = (Document.object members).speaksOf type := by
  change (decide (textMember? "type" members = none) ||
    decide (textMember? "type" members = some type)) = _
  rw [Document.speaksOf, Document.member?_object, ← textMember?]
  cases textMember? "type" members <;> simp

theorem lookup_declared (c : Context) (members : List (Text × Document)) (name : Text) :
    (⟨c, members⟩ : RawSchema).declared.lookup name =
      (Document.object members).declared? name := by
  rw [RawSchema.declared, Document.lookup_distinct, membersOf, Document.declared?,
    Document.member?_object]
  cases members.lookup ("properties" : Text) with
  | none => rfl
  | some d => cases d <;> rfl

/-- The node of a property is the view of what is declared for it. -/
theorem child?_view (c : Context) (members : List (Text × Document)) (name : Text) :
    child? (⟨c, members⟩ : RawSchema) name =
      ((Document.object members).declared? name).bind (RawSchema.wrap? c) := by
  rw [← lookup_declared c members name]
  rfl

theorem hasProperty_view (c : Context) (members : List (Text × Document)) (name : Text) :
    hasProperty (⟨c, members⟩ : RawSchema) name =
      ((Document.object members).declared? name).isSome := by
  rw [← lookup_declared c members name]
  rfl

/-- A view finds for the value of a key what the document that is viewed has for it. -/
theorem partNode?_field (c : Context) (members : List (Text × Document)) (name : Text) :
    partNode? (⟨c, members⟩ : RawSchema) (.key (.text name)) =
      ((Document.object members).partSchema? (.field name)).bind (RawSchema.wrap? c) := by
  rw [partNode?_key, accepts_view, Document.partSchema?]
  split
  · rw [nodeOf?, child?_view, hasProperty_view]
    cases (Document.object members).declared? name with
    | some child =>
      -- a property that is declared without a node does not fall back to further keys
      dsimp only
      rw [object?_bind_wrap?, Option.bind_some]
      cases RawSchema.wrap? c child <;> rfl
    | none =>
      rw [Option.bind_assoc, funext (object?_bind_wrap? c)]
      rfl
  · rfl

/-- A view finds for items what the document that is viewed has for them. -/
theorem partNode?_index (c : Context) (members : List (Text × Document)) (i : Nat) :
    partNode? (⟨c, members⟩ : RawSchema) (.item i) =
      ((Document.object members).partSchema? (.index i)).bind (RawSchema.wrap? c) := by
  rw [partNode?_item, accepts_view, Document.partSchema?]
  split
  · rw [Option.bind_assoc, funext (object?_bind_wrap? c)]
    rfl
  · rfl

/-- The node along a way into a document. -/
def viewAlong? (c : Context) (schema : Document) (way : List Step) : Option RawSchema :=
  (schema.governing? way).bind (RawSchema.wrap? c)

/-- **The node along a longer way is what the node along the way has for the next step.** -/
theorem viewAlong?_concat {schema : Document} (hs : schema.wellKeyed) (way : List Step)
    {step : Step} {e : Edge}
    (he : ∀ {members}, (Document.object members).wellKeyed →
      partNode? (⟨c, members⟩ : RawSchema) e =
        ((Document.object members).partSchema? step).bind (RawSchema.wrap? c)) :
    viewAlong? c schema (way ++ [step]) = (viewAlong? c schema way).bind (partNode? · e) := by
  rw [viewAlong?, viewAlong?, Document.governing?_concat]
  cases hnode : schema.governing? way with
  | none => rfl
  | some node =>
    -- a governing schema is an object, so there is a view of it
    obtain ⟨hobject, hw⟩ := Document.isObject_of_governing? hs hnode
    cases node with
    | object members => exact (he hw).symm
    | _ => cases hobject

end Views

/-! ### Formatted texts -/

/-- **What a text at a way stands as under a schema:** as the value that it writes in the format of
the schema that governs it. If it writes none, or no schema with a format governs it, it stays. -/
def StandsAs (schema : Document) (way : List Step) (s : Text) (v : Value) : Prop :=
  let format := (schema.governing? way).bind Document.format?
  Writes format s v ∨ v = .text .typed s ∧ ∀ w, ¬ Writes format s w

theorem format?_viewAlong? {schema : Document} (hs : schema.wellKeyed) (c : Context)
    (way : List Step) : (viewAlong? c schema way).bind format? =
      (schema.governing? way).bind Document.format? := by
  rw [viewAlong?]
  cases hnode : schema.governing? way with
  | none => rfl
  | some node =>
    obtain ⟨hobject, -⟩ := Document.isObject_of_governing? hs hnode
    cases node with
    | object members => rfl
    | _ => cases hobject

/-- **A schema changes formatted texts only.** JSON that has a value on its own has one under every
schema, be it compiled or not. Both are of one shape, and a text in them differs only if the schema
that governs it has a format and the text writes a value of it. -/
theorem withSchema_sameBut (c : Context) {schema : Document} (hs : schema.wellKeyed) {d : Document}
    {x : Value} (hx : plain (.ofDocument d) = .ok x) :
    ∃ y, withSchema (.document schema) (.ofDocument d) = .ok y ∧
      withCompiled (some (.compile c schema)) (.ofDocument d) = .ok y ∧
      Value.SameBut (StandsAs schema) [] x y := by
  have hroot : viewAlong? .plain schema [] = (SchemaSource.document schema).node? :=
    object?_bind_wrap? .plain schema
  obtain ⟨y, hy⟩ := (exists_convert_iff (viewAlong? .plain schema [])).2 ⟨x, hx⟩
  have hshape : Value.SameBut (StandsAs schema) [] x y := by
    refine sameBut_of_convert (fun way name => viewAlong?_concat hs way fun _ => ?_)
      (fun way i => viewAlong?_concat hs way fun _ => ?_) (fun way s => ?_) ⟨d, rfl⟩ hx hy
    · exact partNode?_field _ _ name
    · exact partNode?_index _ _ i
    · rw [format?_viewAlong? hs]
      exact ofText_writes _ s
  rw [hroot] at hy
  exact ⟨y, hy, (withCompiled_eq_ok_iff c).2 hy, hshape⟩

/-- A schema with a property of one format, a property without a schema, a list of objects with
further keys of another format, and further keys of that format. -/
def rotaSchema : Document :=
  let lengths : Document := .object [("format", .text "duration")]
  .object [
    ("properties", .object [
      ("start", .object [("format", .text "date-time")]),
      ("note", .bool true),
      ("shifts", .object [
        ("type", .text "array"),
        ("items", .object [("type", .text "object"), ("additionalProperties", lengths)])])]),
    ("additionalProperties", lengths)]

/-- An object with a text at each of these places, and with texts where no schema governs. -/
def rota : Document :=
  .object [("start", .text "2024-01-01T00:00:00Z"), ("note", .text "5s"), ("late", .text "5s"),
    ("shifts", .list [.object [("early", .text "8h")], .list [.text "8h"], .int 8])]

example : (rotaSchema.governing? [.field "shifts", .index 0, .field "early"]).bind
    Document.format? = some (.plain "duration") := by decide

example : rotaSchema.governing? [.field "note"] = none := by rfl

/-- A rota keeps its shape under its schema. -/
theorem withSchema_sameBut_rota :
    rotaSchema.wellKeyed ∧ ∃ x, plain (.ofDocument rota) = .ok x ∧
      ∃ y, withSchema (.document rotaSchema) (.ofDocument rota) = .ok y ∧
        withCompiled (some (.compile .plain rotaSchema)) (.ofDocument rota) = .ok y ∧
        Value.SameBut (StandsAs rotaSchema) [] x y := by
  have hs : rotaSchema.wellKeyed := by decide
  exact ⟨hs, _, rfl, withSchema_sameBut .plain hs (d := rota) rfl⟩

end Bridge

end Admission
