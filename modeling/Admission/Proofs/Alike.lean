import Admission.Proofs.Branch

/-!
# Schemas under which values are the same

A map of schema nodes may keep the answers that values depend on: types, formats, and the nodes for
parts of values. Data have the same values under such nodes. If it keeps the declared properties in
their order as well, data have the same branches too, so they differ only in what the rules report.

* `SchemaNode.KeepsValues`: a map of the nodes of a family that keeps the answers for values.
* `SchemaNode.KeepsValues.convert`: **values are the same under such nodes.**
* `SchemaNode.Alike`: a map of nodes that keeps all answers but the rules.
* `SchemaNode.Alike.branches`: the branches under nodes that are alike.
-/

namespace Admission.SchemaNode

variable {σ τ : Type} [SchemaNode σ] [SchemaNode τ]

/-! ### Values -/

/-- A map of the nodes of a family that keeps the answer to every question on which values depend,
up to itself where the answer is a node. The family holds with a node the nodes that are looked up
for parts of values. -/
structure KeepsValues (P : σ → Prop) (f : σ → τ) : Prop where
  type? : ∀ {n}, P n → SchemaNode.type? (f n) = SchemaNode.type? n
  format? : ∀ {n}, P n → SchemaNode.format? (f n) = SchemaNode.format? n
  child? : ∀ {n}, P n → ∀ name, SchemaNode.child? (f n) name = (SchemaNode.child? n name).map f
  hasProperty : ∀ {n}, P n → ∀ name,
    SchemaNode.hasProperty (f n) name = SchemaNode.hasProperty n name
  items? : ∀ {n}, P n → SchemaNode.items? (f n) = (SchemaNode.items? n).map f
  additional? : ∀ {n}, P n → SchemaNode.additional? (f n) = (SchemaNode.additional? n).map f
  child : ∀ {n name m}, P n → SchemaNode.child? n name = some m → P m
  item : ∀ {n m}, P n → SchemaNode.items? n = some m → P m
  additional : ∀ {n m}, P n → SchemaNode.additional? n = some m → P m

namespace KeepsValues

variable {P : σ → Prop} {f : σ → τ} {n : σ}

theorem accepts (hf : KeepsValues P f) (hn : P n) (type : Text) :
    Bridge.accepts (f n) type = Bridge.accepts n type := by
  rw [Bridge.accepts, Bridge.accepts, hf.type? hn]

theorem nodeOf? (hf : KeepsValues P f) (hn : P n) (k : Datum) :
    Bridge.nodeOf? (f n) k = (Bridge.nodeOf? n k).map f := by
  cases k with
  | text name =>
    simp only [Bridge.nodeOf?, hf.child? hn, hf.hasProperty hn, hf.additional? hn]
    cases SchemaNode.child? n name with
    | some child => rfl
    | none => by_cases h : SchemaNode.hasProperty n name <;> simp [h]
  | _ => exact hf.additional? hn

/-- The node for the value under a key is one of the family. -/
theorem of_nodeOf? (hf : KeepsValues P f) (hn : P n) {k : Datum} {m : σ}
    (h : Bridge.nodeOf? n k = some m) : P m := by
  cases k with
  | text name =>
    rw [Bridge.nodeOf?] at h
    split at h
    · next child hc => exact Option.some.inj h ▸ hf.child hn hc
    · split at h
      · cases h
      · exact hf.additional hn h
  | _ => exact hf.additional hn h

theorem convertItems {node : Option σ} {items : List Datum}
    (ih : ∀ d ∈ items, Bridge.convert (node.map f) d = Bridge.convert node d) :
    Bridge.convertItems (node.map f) items = Bridge.convertItems node items := by
  induction items with
  | nil => rfl
  | cons d ds ihs =>
    rw [Bridge.convertItems, Bridge.convertItems, ih d List.mem_cons_self,
      ihs fun d hd => ih d (List.mem_cons_of_mem _ hd)]

theorem convertEntries (hf : KeepsValues P f) (hn : P n) {entries : List (Datum × Datum)}
    (ih : ∀ e ∈ entries, ∀ node : Option σ, (∀ m, node = some m → P m) →
      Bridge.convert (node.map f) e.2 = Bridge.convert node e.2)
    (before : List (Value × Value)) :
    Bridge.convertEntries (f n) before entries = Bridge.convertEntries n before entries := by
  induction entries generalizing before with
  | nil => rfl
  | cons e rest ihs =>
    obtain ⟨k, v⟩ := e
    have ihs := ihs fun e he => ih e (List.mem_cons_of_mem _ he)
    have hv := ih (k, v) List.mem_cons_self (Bridge.nodeOf? n k) fun m => hf.of_nodeOf? hn
    simp only [Bridge.convertEntries, hf.nodeOf? hn, hv, ihs]

/-- **A datum has the same value under a node and under the one it is mapped to.** -/
theorem convert (hf : KeepsValues P f) (node : Option σ) (hn : ∀ m, node = some m → P m)
    (d : Datum) : Bridge.convert (node.map f) d = Bridge.convert node d := by
  induction d using Datum.byParts generalizing node with
  | list items ih =>
    cases node with
    | none => rfl
    | some n =>
      have hn : P n := hn n rfl
      have hi := convertItems (f := f) fun d hd => ih d hd _ fun m => hf.item hn
      simp only [Bridge.convert, Option.map_some, hf.accepts hn, hf.items? hn, hi]
  | map entries ih =>
    cases node with
    | none => rfl
    | some n =>
      have hn : P n := hn n rfl
      have he := hf.convertEntries hn fun e he node hnode => (ih e he).2 node hnode
      simp only [Bridge.convert, Option.map_some, hf.accepts hn, he]
  | leaf d hd =>
    cases d with
    | text s =>
      cases node with
      | none => rfl
      | some n => simp [Bridge.convert, hf.format? (hn n rfl)]
    | list | map => cases hd
    | _ => simp [Bridge.convert]

/-- The same of a value under a node. -/
theorem convert_some (hf : KeepsValues P f) (hn : P n) (d : Datum) :
    Bridge.convert (some (f n)) d = Bridge.convert (some n) d :=
  hf.convert (some n) (fun _ h => Option.some.inj h ▸ hn) d

theorem oldValue (hf : KeepsValues P f) (hn : P n) (old : Option Datum) :
    Validator.oldValue (f n) old = Validator.oldValue n old := by
  cases old with
  | none => rfl
  | some o => exact hf.convert_some hn o

theorem activation? (hf : KeepsValues P f) (hn : P n) (new : Datum) (old : Option Datum) :
    Validator.activation? (f n) new old = Validator.activation? n new old := by
  simp only [Validator.activation?, hf.convert_some hn, hf.oldValue hn]

end KeepsValues

/-! ### Branches -/

/-- A branch with its node mapped. -/
def branch (f : σ → τ) (b : Validator.Branch σ) : Validator.Branch τ :=
  ⟨b.edge, f b.node, b.value⟩

namespace KeepsValues

variable {P : σ → Prop} {f : σ → τ} {n : σ}

theorem isAdditional (hf : KeepsValues P f) (hn : P n) (k : Datum) :
    Validator.isAdditional (f n) k = Validator.isAdditional n k := by
  cases k <;> simp [Validator.isAdditional, hf.hasProperty hn]

theorem otherBranches (hf : KeepsValues P f) (hn : P n) (entries : List (Datum × Datum)) :
    Validator.otherBranches (f n) entries =
      (Validator.otherBranches n entries).map (branch f) := by
  simp only [Validator.otherBranches, hf.additional? hn, hf.isAdditional hn]
  cases SchemaNode.additional? n with
  | none => rfl
  | some child => simp [branch]

theorem itemBranches (hf : KeepsValues P f) (hn : P n) (items : List Datum) :
    Validator.itemBranches (f n) items = (Validator.itemBranches n items).map (branch f) := by
  simp only [Validator.itemBranches, hf.items? hn]
  cases SchemaNode.items? n with
  | none => rfl
  | some child => simp [branch]

end KeepsValues

/-- The branches of a map at given properties, in the order of these. -/
def fieldBranches (ps : List (Text × σ)) (entries : List (Datum × Datum)) :
    List (Validator.Branch σ) :=
  ps.filterMap fun p =>
    (Datum.lookup (.text p.1) entries).map fun v => ⟨.key (.text p.1), p.2, v⟩

theorem declaredBranches_eq (n : σ) (entries : List (Datum × Datum)) :
    Validator.declaredBranches n entries = fieldBranches (SchemaNode.properties n) entries := rfl

omit [SchemaNode σ] [SchemaNode τ] in
/-- What a map does to the nodes of properties, it does to the nodes of branches. -/
theorem fieldBranches_map (f : σ → τ) (ps : List (Text × σ)) (entries : List (Datum × Datum)) :
    fieldBranches (ps.map (Prod.map id f)) entries = (fieldBranches ps entries).map (branch f) := by
  rw [fieldBranches, fieldBranches, List.filterMap_map, List.map_filterMap]
  congr 1
  funext p
  simp only [Function.comp_apply, Prod.map_fst, id_eq, Option.map_map]
  rfl

/-! ### Schemas that differ in their rules only -/

/-- A map of nodes that keeps the answer to every question about the parts of values, up to itself
where the answer has nodes. Nothing is said of the rules. -/
structure Alike (f : σ → τ) : Prop where
  type? : ∀ n, SchemaNode.type? (f n) = SchemaNode.type? n
  format? : ∀ n, SchemaNode.format? (f n) = SchemaNode.format? n
  properties : ∀ n, SchemaNode.properties (f n) = (SchemaNode.properties n).map (Prod.map id f)
  child? : ∀ n name, SchemaNode.child? (f n) name = (SchemaNode.child? n name).map f
  hasProperty : ∀ n name, SchemaNode.hasProperty (f n) name = SchemaNode.hasProperty n name
  items? : ∀ n, SchemaNode.items? (f n) = (SchemaNode.items? n).map f
  additional? : ∀ n, SchemaNode.additional? (f n) = (SchemaNode.additional? n).map f

namespace Alike

variable {f : σ → τ}

/-- Such a map keeps the values under all nodes. -/
theorem keepsValues (hf : Alike f) : KeepsValues (fun _ => True) f where
  type? _ := hf.type? _
  format? _ := hf.format? _
  child? _ := hf.child? _
  hasProperty _ := hf.hasProperty _
  items? _ := hf.items? _
  additional? _ := hf.additional? _
  child _ _ := trivial
  item _ _ := trivial
  additional _ _ := trivial

/-- A datum has the same value under nodes that are alike. -/
theorem convert_some (hf : Alike f) (n : σ) (d : Datum) :
    Bridge.convert (some (f n)) d = Bridge.convert (some n) d :=
  hf.keepsValues.convert_some trivial d

theorem oldValue (hf : Alike f) (n : σ) (old : Option Datum) :
    Validator.oldValue (f n) old = Validator.oldValue n old := hf.keepsValues.oldValue trivial old

theorem activation? (hf : Alike f) (n : σ) (new : Datum) (old : Option Datum) :
    Validator.activation? (f n) new old = Validator.activation? n new old :=
  hf.keepsValues.activation? trivial new old

theorem branches (hf : Alike f) (n : σ) (d : Datum) :
    Validator.branches (f n) d = (Validator.branches n d).map (branch f) := by
  cases d with
  | map entries =>
    simp only [Validator.branches, List.map_append, hf.keepsValues.otherBranches trivial]
    congr 1
    rw [declaredBranches_eq, declaredBranches_eq, hf.properties, fieldBranches_map]
  | list items => exact hf.keepsValues.itemBranches trivial items
  | _ => rfl

end Alike

end Admission.SchemaNode
