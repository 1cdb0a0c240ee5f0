import Admission.Proofs.Mirror
import Admission.Proofs.Overflow

/-!
# Forms of a schema

A schema can be given as a document, as a view of one, and as the tree compiled from one. Data have
the same values under all three. Where the document is an object they also fail alike; where it is
not, there is no view of it, but there is a tree, which asks for nothing. Entries of a map then fail
for their keys first on their own, and for their values first under the tree.

* `RawSchema.alike_withContext`: values do not depend on the context of a view.
* `Bridge.Clashes`: entries with a key and a value that fail for different reasons.
* `Bridge.convert_blank_eq_ok_iff`, `Bridge.convert_blank_eq_iff`: the tree that asks for nothing.
* `Bridge.convertsAlike`: **data have one value under all forms of a schema**, and fail alike unless
  they clash.
* `Bridge.clashingEntry_compiled`: data that clash.
-/

namespace Admission

/-! ### Contexts -/

namespace RawSchema

/-- A view that compiles rules in another context. -/
def withContext (c : Context) (s : RawSchema) : RawSchema := { s with context := c }

theorem wrap?_withContext (c c' : Context) (d : Document) :
    wrap? c' d = (wrap? c d).map (withContext c') := by
  cases d <;> rfl

theorem nodeAt?_withContext (c : Context) (s : RawSchema) (key : Text) :
    (s.withContext c).nodeAt? key = (s.nodeAt? key).map (withContext c) :=
  nodeAt?_of_lookup (g := id) (wrap?_withContext s.context c) Option.map_id'.symm

theorem nodes_withContext (c : Context) (s : RawSchema) :
    (s.withContext c).nodes = s.nodes.map (Prod.map id (withContext c)) := by
  change (s.declared.filterMap fun p => (wrap? c p.2).map (p.1, ·)) = _
  rw [nodes, List.map_filterMap]
  refine List.filterMap_congr fun p _ => ?_
  rw [wrap?_withContext s.context c, Option.map_map, Option.map_map]
  rfl

/-- **The context of a view has a say in its rules only.** -/
theorem alike_withContext (c : Context) : SchemaNode.Alike (withContext c) where
  type? _ := rfl
  format? _ := rfl
  properties s := nodes_withContext c s
  child? s name := by
    rw [← lookup_nodes, ← lookup_nodes, nodes_withContext, lookup_map_snd]
  hasProperty _ _ := rfl
  items? s := nodeAt?_withContext c s "items"
  additional? s := nodeAt?_withContext c s "additionalProperties"

end RawSchema

namespace Bridge

open CompiledSchema (blank)

/-! ### The tree that asks for nothing -/

/-- Behind entries that were converted before, the key and the value of an entry fail for different
reasons, and no entry fails before it. -/
inductive ClashBehind : List (Value × Value) → List (Datum × Datum) → Prop
  | here {before k d rest f g} (hkey : plain k = .error f) (hv : plain d = .error g)
      (hne : f ≠ g) : ClashBehind before ((k, d) :: rest)
  | later {before mid k d rest key v} (hkey : plain k = .ok key) (hv : plain d = .ok v)
      (hput : putEntry key v before = .ok mid) (h : ClashBehind mid rest) :
      ClashBehind before ((k, d) :: rest)

/-- **The first entry of a map that fails does so for two different reasons.** -/
def Clashes (d : Datum) : Prop := ∃ entries, d = .map entries ∧ ClashBehind [] entries

theorem clashes_map {entries : List (Datum × Datum)} :
    Clashes (.map entries) ↔ ClashBehind [] entries := by
  constructor
  · rintro ⟨_, he, h⟩
    cases he
    exact h
  · exact fun h => ⟨entries, rfl, h⟩

theorem clashBehind_cons {before : List (Value × Value)} {k d : Datum}
    {rest : List (Datum × Datum)} :
    ClashBehind before ((k, d) :: rest) ↔
      (∃ f g, plain k = .error f ∧ plain d = .error g ∧ f ≠ g) ∨
        ∃ key v mid, plain k = .ok key ∧ plain d = .ok v ∧ putEntry key v before = .ok mid ∧
          ClashBehind mid rest := by
  constructor
  · rintro (⟨hkey, hv, hne⟩ | ⟨hkey, hv, hput, h⟩)
    · exact .inl ⟨_, _, hkey, hv, hne⟩
    · exact .inr ⟨_, _, _, hkey, hv, hput, h⟩
  · rintro (⟨f, g, hkey, hv, hne⟩ | ⟨key, v, mid, hkey, hv, hput, h⟩)
    · exact .here hkey hv hne
    · exact .later hkey hv hput h

/-- No entry clashes if the keys have values. -/
theorem not_clashBehind {before : List (Value × Value)} {entries : List (Datum × Datum)}
    (hk : ∀ e ∈ entries, HasValue e.1) : ¬ ClashBehind before entries := by
  intro h
  induction h with
  | here hkey _ _ =>
    obtain ⟨key, hkey'⟩ := hk _ List.mem_cons_self
    rw [hkey] at hkey'
    cases hkey'
  | later _ _ _ _ ih => exact ih fun e he => hk e (List.mem_cons_of_mem _ he)

theorem nodeOf?_blank (k : Datum) : nodeOf? blank k = none := by
  cases k <;> rfl

/-- One entry under the tree that asks for nothing: the value comes before the key. -/
theorem convertEntries_blank_cons (before : List (Value × Value)) (k d : Datum)
    (rest : List (Datum × Datum)) :
    convertEntries blank before ((k, d) :: rest) = (plain d >>= fun v => plain k >>= fun key =>
      putEntry key v before >>= fun mid => convertEntries blank mid rest) := by
  rw [convertEntries, nodeOf?_blank, convert_none]

/-- **Entries fail alike unless they clash.** -/
theorem convertEntries_blank_eq_iff {before : List (Value × Value)}
    {entries : List (Datum × Datum)} :
    convertEntries blank before entries = plainEntries before entries ↔
      ¬ ClashBehind before entries := by
  induction entries generalizing before with
  | nil => exact ⟨fun _ h => (nomatch h), fun _ => rfl⟩
  | cons e rest ih =>
    obtain ⟨k, d⟩ := e
    rw [convertEntries_blank_cons, plainEntries, clashBehind_cons]
    cases hkey : plain k with
    | error f =>
      cases hv : plain d with
      | error g =>
        -- each order tells its own reason
        change Except.error g = Except.error f ↔ _
        simp [eq_comm]
      | ok v => simp [bind, Except.bind]
    | ok key =>
      cases hv : plain d with
      | error g => simp [bind, Except.bind]
      | ok v =>
        cases hput : putEntry key v before with
        | error f => simp [bind, Except.bind, hput]
        | ok mid => simpa [bind, Except.bind, hput] using ih

/-- What entries become is the same in both orders. -/
theorem convertEntries_blank_eq_ok_iff {before after : List (Value × Value)}
    {entries : List (Datum × Datum)} :
    convertEntries blank before entries = .ok after ↔ plainEntries before entries = .ok after := by
  have hf : (fun k => convert (nodeOf? blank k)) = fun _ : Datum => plain := by
    funext k d
    rw [nodeOf?_blank, convert_none]
  rw [convertEntries_eq_ok_iff, plainEntries_eq_ok_iff, hf]

theorem convert_blank_map (entries : List (Datum × Datum)) :
    convert (some blank) (.map entries) =
      (convertEntries blank [] entries).map (.map .plain) := by
  rw [convert, if_pos]
  rfl

theorem convert_blank_list (items : List Datum) :
    convert (some blank) (.list items) = plain (.list items) := by
  have hitems : convert (SchemaNode.items? blank) = plain := funext convert_none
  rw [convert, if_pos (by rfl), plain, convertItems_eq, plainItems_eq, hitems]

/-- **The tree that asks for nothing gives data the values that they have on their own.** -/
theorem convert_blank_eq_ok_iff {d : Datum} {x : Value} :
    convert (some blank) d = .ok x ↔ plain d = .ok x := by
  cases d with
  | list items => rw [convert_blank_list]
  | map entries =>
    rw [convert_blank_map, plain, Except.map_eq_ok_iff, Except.map_eq_ok_iff]
    simp only [convertEntries_blank_eq_ok_iff]
  | _ => exact Iff.rfl

/-- **Under the tree that asks for nothing, data fail as on their own unless they clash.** -/
theorem convert_blank_eq_iff {d : Datum} : convert (some blank) d = plain d ↔ ¬ Clashes d := by
  cases d with
  | map entries =>
    rw [convert_blank_map, plain, Except.map_inj fun _ _ h => (Value.map.inj h).2,
      convertEntries_blank_eq_iff, clashes_map]
  | list items =>
    refine iff_of_true (convert_blank_list items) ?_
    rintro ⟨_, h, -⟩
    cases h
  | _ =>
    refine iff_of_true rfl ?_
    rintro ⟨_, h, -⟩
    cases h

/-! ### All forms -/

/-- The three forms of a schema, and what data become under them. The views were taken and the tree
was compiled in the context `c`. -/
structure ConvertsAlike (c : Context) (schema : Document) (d : Datum) : Prop where
  /-- A view does as its document does. -/
  view : withSchema (.wrapped c schema) d = withSchema (.document schema) d
  /-- What has a value under one of them has that value under all. -/
  value : ∀ x, withCompiled (some (.compile c schema)) d = .ok x ↔
    withSchema (.document schema) d = .ok x
  /-- Under an object, data also fail alike. -/
  object : schema.isObject → withCompiled (some (.compile c schema)) d =
    withSchema (.document schema) d
  /-- Under anything else, they fail alike unless they clash. -/
  exact : ¬ schema.isObject → (withCompiled (some (.compile c schema)) d =
    withSchema (.document schema) d ↔ ¬ Clashes d)
  /-- In particular, they fail alike if the keys have values. -/
  keys : (∀ entries, d = .map entries → ∀ e ∈ entries, HasValue e.1) →
    withCompiled (some (.compile c schema)) d = withSchema (.document schema) d

/-- A view does as its document does, in every context. -/
theorem withSchema_wrapped (c : Context) (schema : Document) (d : Datum) :
    withSchema (.wrapped c schema) d = withSchema (.document schema) d := by
  cases schema with
  | object members =>
    exact (RawSchema.alike_withContext c).convert_some ⟨.plain, members⟩ d
  | _ => rfl

/-- The tree of an object does as the object does. -/
theorem withCompiled_of_isObject (c : Context) {schema : Document} (h : schema.isObject)
    (d : Datum) :
    withCompiled (some (.compile c schema)) d = withSchema (.document schema) d := by
  cases schema with
  | object members =>
    have htree := RawSchema.mirror_compiled.alike.convert_some ⟨c, members⟩ d
    exact htree.trans (withSchema_wrapped c (.object members) d)
  | _ => cases h

/-- Anything else is no schema, and its tree asks for nothing. -/
theorem withCompiled_of_not_isObject (c : Context) {schema : Document} (h : ¬ schema.isObject)
    (d : Datum) : withCompiled (some (.compile c schema)) d = convert (some blank) d ∧
      withSchema (.document schema) d = plain d := by
  cases schema with
  | object members => exact absurd rfl h
  | _ => exact ⟨rfl, convert_none d⟩

/-- **What data become under a document, they become under the tree compiled from it.** -/
theorem withCompiled_eq_ok_iff (c : Context) {schema : Document} {d : Datum} {x : Value} :
    withCompiled (some (.compile c schema)) d = .ok x ↔
      withSchema (.document schema) d = .ok x := by
  by_cases h : schema.isObject
  · rw [withCompiled_of_isObject c h]
  · obtain ⟨htree, hdoc⟩ := withCompiled_of_not_isObject c h d
    rw [htree, hdoc]
    exact convert_blank_eq_ok_iff

/-- **Data have one value under all forms of a schema,** and fail alike under them unless the schema
is not an object and they clash. -/
theorem convertsAlike (c : Context) (schema : Document) (d : Datum) :
    ConvertsAlike c schema d := by
  have hexact : ¬ schema.isObject → (withCompiled (some (.compile c schema)) d =
      withSchema (.document schema) d ↔ ¬ Clashes d) := by
    intro h
    obtain ⟨htree, hdoc⟩ := withCompiled_of_not_isObject c h d
    rw [htree, hdoc]
    exact convert_blank_eq_iff
  refine ⟨withSchema_wrapped c schema d, fun x => withCompiled_eq_ok_iff c,
    fun h => withCompiled_of_isObject c h d, hexact, fun hk => ?_⟩
  by_cases h : schema.isObject
  · exact withCompiled_of_isObject c h d
  · -- a clash needs a key without a value
    refine (hexact h).2 ?_
    rintro ⟨entries, rfl, hclash⟩
    exact not_clashBehind (hk entries rfl) hclash

/-- An entry with a key beyond every float, and with a value that has a list for a key. -/
def clashingEntry : Datum := .map [(.int (2 ^ 1024), .map [(.list [], .int 0)])]

/-- Null is no schema, and the tree compiled from it fails for another reason. -/
theorem clashingEntry_compiled :
    withSchema (.document .null) clashingEntry = .error .tooLarge ∧
      withCompiled (some (.compile .plain .null)) clashingEntry = .error .badKey := by
  have hkey : plain (.int (2 ^ 1024)) = .error .tooLarge :=
    (plain_stopsIff ⟨.int (2 ^ 1024), rfl⟩).error_iff.2
      (Datum.overflows_int.2 (by decide +kernel))
  have hv : plain (.map [(.list [], .int 0)]) = .error .badKey := by rfl
  have hplain : plain clashingEntry = .error .tooLarge := by
    rw [clashingEntry, plain, plainEntries, hkey]
    rfl
  have hblank : convert (some blank) clashingEntry = .error .badKey := by
    rw [clashingEntry, convert_blank_map, convertEntries_blank_cons, hv]
    rfl
  exact ⟨hplain, hblank⟩

end Bridge

end Admission
