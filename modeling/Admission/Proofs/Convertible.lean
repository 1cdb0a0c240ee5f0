import Admission.Bridge
import Admission.Proofs.Gather
import Admission.Proofs.Way

/-!
# Which data have a value

A schema node has a say in which value a datum has, but not in whether it has one: a conversion
stops at a thing without a value, a key that cannot be one or an integer beyond every float, and
none of these depends on a node. And what has a value has parts with values.

* `Bridge.HasValue`: data with a value.
* `Bridge.Puts`: entries that are converted and put one after the other, as a relation.
* `Bridge.Puts.transfer`: whether they can be put does not depend on the values.
* `Bridge.partNode?`: the node that a part is converted with, with the equations
  `Bridge.convert_list_eq` and `Bridge.convert_map_eq_ok_iff`.
* `Bridge.exists_convert_iff`: **a datum has a value under a node iff it has one on its own.**
* `Bridge.HasValue.of_part`: **the parts of a datum with a value have values.**
-/

namespace Admission.Bridge

open Datum SchemaNode

/-- The datum has a value on its own. -/
def HasValue (d : Datum) : Prop := ∃ x, plain d = .ok x

/-! ### Entries -/

/-- **Entries are converted and put, one after the other,** behind those that were put before. Keys
are converted on their own and values by `f`, which may look at the key. -/
inductive Puts (f : Datum → Datum → Except Fault Value) :
    List (Value × Value) → List (Datum × Datum) → List (Value × Value) → Prop
  | nil {before} : Puts f before [] before
  | cons {before mid after k d rest key v} (hkey : plain k = .ok key) (hv : f k d = .ok v)
      (hput : putEntry key v before = .ok mid) (h : Puts f mid rest after) :
      Puts f before ((k, d) :: rest) after

theorem plainEntries_eq_ok_iff {before after : List (Value × Value)}
    {entries : List (Datum × Datum)} :
    plainEntries before entries = .ok after ↔ Puts (fun _ => plain) before entries after := by
  induction entries generalizing before with
  | nil => exact ⟨fun h => Except.ok.inj h ▸ .nil, fun h => by cases h; rfl⟩
  | cons e rest ih =>
    obtain ⟨k, d⟩ := e
    simp only [plainEntries, Except.bind_eq_ok_iff, ih]
    constructor
    · rintro ⟨key, hkey, v, hv, mid, hput, h⟩
      exact .cons hkey hv hput h
    · rintro (_ | ⟨hkey, hv, hput, h⟩)
      exact ⟨_, hkey, _, hv, _, hput, h⟩

variable {σ : Type} [SchemaNode σ]

theorem convertEntries_eq_ok_iff {node : σ} {before after : List (Value × Value)}
    {entries : List (Datum × Datum)} :
    convertEntries node before entries = .ok after ↔
      Puts (fun k => convert (nodeOf? node k)) before entries after := by
  induction entries generalizing before with
  | nil => exact ⟨fun h => Except.ok.inj h ▸ .nil, fun h => by cases h; rfl⟩
  | cons e rest ih =>
    obtain ⟨k, d⟩ := e
    simp only [convertEntries, Except.bind_eq_ok_iff, ih]
    constructor
    · rintro ⟨v, hv, key, hkey, mid, hput, h⟩
      exact .cons hkey hv hput h
    · rintro (_ | ⟨hkey, hv, hput, h⟩)
      exact ⟨_, hv, _, hkey, _, hput, h⟩

/-- Which keys there are after an entry is put, if it can be, depends on the keys only. -/
theorem putEntry_keys (key v v' : Value) {before before' : List (Value × Value)}
    (h : before'.map Prod.fst = before.map Prod.fst) :
    (putEntry key v' before').map (List.map Prod.fst) =
      (putEntry key v before).map (List.map Prod.fst) := by
  induction before generalizing before' with
  | nil =>
    obtain rfl := List.map_eq_nil_iff.1 h
    simp only [putEntry]
    split <;> rfl
  | cons e rest ih =>
    obtain ⟨⟨k, w'⟩, rest', rfl, rfl, hrest⟩ := List.map_eq_cons_iff.1 h
    obtain ⟨k, w⟩ := e
    -- where an entry is put depends on the keys alone
    have hlater : ∀ (r : Except Fault (List (Value × Value))) (w : Value),
        (r.map ((k, w) :: ·)).map (List.map Prod.fst) = (r.map (List.map Prod.fst)).map (k :: ·) :=
      fun r _ => by cases r <;> rfl
    simp only [putEntry]
    split
    · rfl
    · split
      · rw [hlater, hlater, ih hrest]
      · split
        · rfl
        · simp only [Except.map, List.map_cons, hrest]
        · rw [hlater, hlater, ih hrest]

namespace Puts

variable {f g : Datum → Datum → Except Fault Value} {before before' after : List (Value × Value)}
  {entries : List (Datum × Datum)}

theorem value (h : Puts f before entries after) : ∀ e ∈ entries, ∃ v, f e.1 e.2 = .ok v := by
  induction h with
  | nil => exact fun _ he => nomatch he
  | cons _ hv _ _ ih => exact List.forall_mem_cons.2 ⟨⟨_, hv⟩, ih⟩

/-- **Entries that can be put with some values can be put with others.** -/
theorem transfer (h : Puts f before entries after) (hk : before'.map Prod.fst = before.map Prod.fst)
    (hg : ∀ e ∈ entries, ∃ v, g e.1 e.2 = .ok v) : ∃ after', Puts g before' entries after' := by
  induction h generalizing before' with
  | nil => exact ⟨before', .nil⟩
  | @cons before mid after k d rest key v hkey _ hput _ ih =>
    obtain ⟨⟨v', hv'⟩, hrest⟩ := List.forall_mem_cons.1 hg
    have hkeys := putEntry_keys key v v' hk
    rw [hput] at hkeys
    obtain ⟨mid', hput', hmid⟩ := Except.map_eq_ok_iff.1 hkeys
    obtain ⟨after', hafter⟩ := ih hmid hrest
    exact ⟨after', .cons hkey hv' hput' hafter⟩

end Puts

/-! ### Wholes and parts -/

theorem plainItems_eq (items : List Datum) : plainItems items = items.mapM plain := by
  induction items with
  | nil => rfl
  | cons d ds ih => rw [plainItems, List.mapM_cons, ih]

theorem convertItems_eq (node : Option σ) (items : List Datum) :
    convertItems node items = items.mapM (convert node) := by
  induction items with
  | nil => rfl
  | cons d ds ih => rw [convertItems, List.mapM_cons, ih]

/-- Without a node, a datum has the value that it has on its own. -/
theorem convert_none (d : Datum) : convert (none : Option σ) d = plain d := by
  cases d <;> rfl

/-! ### Nodes of parts -/

/-- The node for the part along an edge, as it is looked up when the whole is converted. -/
def nodeAlong? (node : σ) : Edge → Option σ
  | .key k => nodeOf? node k
  | .item _ => items? node

/-- The node that the part along an edge is converted with: there is none if the node of the whole
speaks of values of another type. -/
def partNode? (node : σ) (e : Edge) : Option σ :=
  if accepts node e.container then nodeAlong? node e else none

theorem partNode?_key (node : σ) (k : Datum) :
    partNode? node (.key k) = if accepts node "object" then nodeOf? node k else none := rfl

theorem partNode?_item (node : σ) (i : Nat) :
    partNode? node (.item i) = if accepts node "array" then items? node else none := rfl

/-- The items of a list are converted with their node. -/
theorem convert_list_eq (node : Option σ) (items : List Datum) (i : Nat) :
    convert node (.list items) =
      (items.mapM (convert (node.bind (partNode? · (.item i))))).map (.list .typed) := by
  have hplain : plain (.list items) =
      (items.mapM (convert (none : Option σ))).map (.list .typed) := by
    rw [plain, plainItems_eq, funext (convert_none (σ := σ))]
  cases node with
  | none => exact hplain
  | some n =>
    rw [convert, Option.bind_some, partNode?_item]
    split
    · rw [convertItems_eq]
    · exact hplain

/-- The values of a map are converted with the nodes for their keys. -/
theorem convert_map_eq_ok_iff {node : Option σ} {entries : List (Datum × Datum)} {y : Value} :
    convert node (.map entries) = .ok y ↔
      ∃ after, Puts (fun k => convert (node.bind (partNode? · (.key k)))) [] entries after ∧
        .map .plain after = y := by
  have hplain : plain (.map entries) = .ok y ↔
      ∃ after, Puts (fun _ => convert (none : Option σ)) [] entries after ∧
        .map .plain after = y := by
    rw [plain, Except.map_eq_ok_iff, funext (convert_none (σ := σ))]
    simp only [plainEntries_eq_ok_iff]
  cases node with
  | none => exact hplain
  | some n =>
    simp only [convert, Option.bind_some, partNode?_key]
    split
    · simp only [Except.map_eq_ok_iff, convertEntries_eq_ok_iff]
    · exact hplain

/-! ### Having a value -/

theorem hasValue_list {items : List Datum} :
    HasValue (.list items) ↔ ∀ d ∈ items, HasValue d := by
  rw [HasValue, plain, Except.exists_map_eq_ok_iff, plainItems_eq, List.exists_mapM_eq_ok_iff]
  rfl

theorem hasValue_map {entries : List (Datum × Datum)} :
    HasValue (.map entries) ↔ ∃ after, Puts (fun _ => plain) [] entries after := by
  rw [HasValue, plain, Except.exists_map_eq_ok_iff]
  simp only [plainEntries_eq_ok_iff]

/-- **The parts of a datum with a value have values.** -/
theorem HasValue.of_part {d d' : Datum} (hd : HasValue d) (h : IsPart d' d) : HasValue d' := by
  cases h with
  | item h => exact hasValue_list.1 hd _ h
  | value h =>
    obtain ⟨after, hputs⟩ := hasValue_map.1 hd
    exact hputs.value _ h

/-- **A datum has a value under a node iff it has one on its own.** -/
theorem exists_convert_iff {d : Datum} (node : Option σ) :
    (∃ x, convert node d = .ok x) ↔ HasValue d := by
  induction d using Datum.byParts generalizing node with
  | list items ih =>
    rw [convert_list_eq node items 0, Except.exists_map_eq_ok_iff, List.exists_mapM_eq_ok_iff,
      hasValue_list]
    exact forall₂_congr fun d hd => ih d hd _
  | map entries ih =>
    rw [hasValue_map]
    simp only [convert_map_eq_ok_iff]
    -- the nodes are for the values, and have no say in the keys
    constructor
    · rintro ⟨_, after, h, -⟩
      exact h.transfer rfl fun e he => ((ih e he).2 _).1 (h.value e he)
    · rintro ⟨after, h⟩
      obtain ⟨after', h'⟩ := h.transfer (g := fun k => convert (node.bind (partNode? · (.key k))))
        rfl fun e he => ((ih e he).2 _).2 (h.value e he)
      exact ⟨_, after', h', rfl⟩
  | leaf d hleaf =>
    cases d with
    | text s => exact ⟨fun _ => ⟨_, rfl⟩, fun _ => ⟨_, rfl⟩⟩
    | list | map => cases hleaf
    | _ => exact Iff.rfl

end Admission.Bridge
