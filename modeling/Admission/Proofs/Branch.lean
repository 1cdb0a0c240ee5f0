import Admission.Proofs.Gather
import Admission.Proofs.Json
import Admission.Validator

/-!
# The walk, one level at a time

A walk checks the rules of a node on a value and goes on with the branches of the value: those
parts of it that have nodes of their own.

* `Validator.Branch`, `Validator.branches`: the branches of a value, in the order of the walk.
* `Validator.walk_eq`: a walk is the check at the value, followed by the walks of the branches.
* `Validator.mem_branches_iff`: which parts are branches.
* `Validator.Reaches`: the nodes of a schema.
* `Validator.branches_edges`: no two branches of one value are reached along the same edge.
-/

namespace Admission.Validator

open SchemaNode Datum

variable {σ : Type} [SchemaNode σ]

/-- A part of a value together with the node that governs it. -/
structure Branch (σ : Type) where
  edge : Edge
  node : σ
  value : Datum

/-- The declared properties that a map has, in the order of their declaration. -/
def declaredBranches (node : σ) (entries : List (Datum × Datum)) : List (Branch σ) :=
  (properties node).filterMap fun p =>
    (lookup (.text p.1) entries).map fun v => ⟨.key (.text p.1), p.2, v⟩

/-- The values under keys that are not declared, in the order of the keys, if the node speaks of
them. -/
def otherBranches (node : σ) (entries : List (Datum × Datum)) : List (Branch σ) :=
  match additional? node with
  | some child =>
    (entries.filter fun e => isAdditional node e.1).map fun e => ⟨.key e.1, child, e.2⟩
  | none => []

/-- The items of a list, in their order, if the node speaks of them. -/
def itemBranches (node : σ) (items : List Datum) : List (Branch σ) :=
  match items? node with
  | some child => items.zipIdx.map fun d => ⟨.item d.2, child, d.1⟩
  | none => []

/-- **The branches of a value,** in the order in which they are walked. -/
def branches (node : σ) : Datum → List (Branch σ)
  | .map entries => declaredBranches node entries ++ otherBranches node entries
  | .list items => itemBranches node items
  | _ => []

/-- The walk of a branch, at the path and beside the old value of the whole. -/
def walkBranch (path : Text) (old : Option Datum) (b : Branch σ) :
    Except Bridge.Fault (List Violation) :=
  walk b.node (b.edge.step.join path) (old.bind (·.along? b.edge)) b.value

/-! ### One step of the walk -/

theorem walkField_eq (child : σ) (name path : Text) (old : Option Datum)
    (entries : List (Datum × Datum)) :
    walkField child name path old entries =
      (lookup (.text name) entries).elim (.ok []) fun v =>
        walkBranch path old ⟨.key (.text name), child, v⟩ := by
  induction entries with
  | nil => rfl
  | cons e rest ih =>
    obtain ⟨k, v⟩ := e
    rw [walkField, lookup]
    split
    · rfl
    · exact ih

theorem walkOthers_eq (node child : σ) (path : Text) (old : Option Datum)
    (entries : List (Datum × Datum)) :
    walkOthers node child path old entries =
      (entries.filter fun e => isAdditional node e.1).flatMapM fun e =>
        walkBranch path old ⟨.key e.1, child, e.2⟩ := by
  induction entries with
  | nil => rfl
  | cons e rest ih =>
    obtain ⟨k, v⟩ := e
    rw [walkOthers, List.filter_cons]
    split
    · rw [List.flatMapM_cons, ih]; rfl
    · exact ih

theorem walkItems_eq (child : σ) (path : Text) (old : Option Datum) (items : List Datum) :
    ∀ i, walkItems child path old i items =
      (items.zipIdx i).flatMapM fun d => walkBranch path old ⟨.item d.2, child, d.1⟩ := by
  induction items with
  | nil => intro i; rfl
  | cons d ds ih =>
    intro i
    rw [walkItems, ih, List.zipIdx_cons, List.flatMapM_cons]
    rfl

/-- What all properties of a node report is what the declared branches report. -/
theorem mapM_walkField (node : σ) (path : Text) (old : Option Datum)
    (entries : List (Datum × Datum)) :
    List.flatten <$> (properties node).mapM (fun p => walkField p.2 p.1 path old entries) =
      (declaredBranches node entries).flatMapM (walkBranch path old) := by
  rw [declaredBranches, List.flatMapM_filterMap, ← List.flatMapM_eq_mapM]
  refine List.flatMapM_congr fun p _ => ?_
  rw [walkField_eq]
  cases lookup (.text p.1) entries <;> rfl

/-- **A walk is the check at the value, followed by the walks of its branches.** -/
theorem walk_eq (node : σ) (path : Text) (old : Option Datum) (d : Datum) :
    walk node path old d = do
      let own ← checkRules node path d old
      let below ← (branches node d).flatMapM (walkBranch path old)
      return own ++ below := by
  have hnone : (Except.ok [] : Except Bridge.Fault (List Violation)) = pure [] := rfl
  cases d with
  | map entries =>
    rw [walk, branches, List.flatMapM_append, ← mapM_walkField]
    cases ha : additional? node with
    | none => simp [otherBranches, ha, hnone]
    | some child => simp [otherBranches, ha, List.flatMapM_map, walkOthers_eq]
  | list items =>
    rw [walk, branches]
    cases hi : items? node with
    | none => simp [itemBranches, hi, hnone]
    | some child => simp [itemBranches, hi, List.flatMapM_map, walkItems_eq]
  | _ => simp [walk, branches]

/-! ### Branches of a value -/

/-- How a part of a value comes to be governed: as a declared property that has a node, as the
value of a key that is not declared, or as an item. -/
inductive Governed (node : σ) : Datum → Branch σ → Prop
  | declared {entries name child v} (hp : (name, child) ∈ properties node)
      (hv : lookup (.text name) entries = some v) :
      Governed node (.map entries) ⟨.key (.text name), child, v⟩
  | other {entries child k v} (hc : additional? node = some child)
      (hk : isAdditional node k) (hv : (k, v) ∈ entries) :
      Governed node (.map entries) ⟨.key k, child, v⟩
  | item {items child i v} (hc : items? node = some child) (hv : items[i]? = some v) :
      Governed node (.list items) ⟨.item i, child, v⟩

theorem mem_declaredBranches {node : σ} {entries : List (Datum × Datum)} {b : Branch σ} :
    b ∈ declaredBranches node entries ↔ ∃ name child v, (name, child) ∈ properties node ∧
      lookup (.text name) entries = some v ∧ b = ⟨.key (.text name), child, v⟩ := by
  constructor
  · intro h
    obtain ⟨⟨name, child⟩, hp, hq⟩ := List.mem_filterMap.1 h
    obtain ⟨v, hv, rfl⟩ := Option.map_eq_some_iff.1 hq
    exact ⟨name, child, v, hp, hv, rfl⟩
  · rintro ⟨name, child, v, hp, hv, rfl⟩
    exact List.mem_filterMap.2 ⟨(name, child), hp, by rw [hv, Option.map_some]⟩

theorem mem_otherBranches {node : σ} {entries : List (Datum × Datum)} {b : Branch σ} :
    b ∈ otherBranches node entries ↔ ∃ child k v, additional? node = some child ∧
      isAdditional node k ∧ (k, v) ∈ entries ∧ b = ⟨.key k, child, v⟩ := by
  rw [otherBranches]
  cases additional? node with
  | none => simp
  | some child =>
    simp only [List.mem_map, List.mem_filter, Prod.exists, Option.some.injEq]
    constructor
    · rintro ⟨k, v, ⟨hv, hk⟩, rfl⟩
      exact ⟨child, k, v, rfl, hk, hv, rfl⟩
    · rintro ⟨_, k, v, rfl, hk, hv, rfl⟩
      exact ⟨k, v, ⟨hv, hk⟩, rfl⟩

theorem mem_itemBranches {node : σ} {items : List Datum} {b : Branch σ} :
    b ∈ itemBranches node items ↔ ∃ child i v, items? node = some child ∧ items[i]? = some v ∧
      b = ⟨.item i, child, v⟩ := by
  rw [itemBranches]
  cases items? node with
  | none => simp
  | some child =>
    simp only [List.mem_map, Prod.exists, List.mem_zipIdx_iff_getElem?, Option.some.injEq]
    constructor
    · rintro ⟨v, i, hv, rfl⟩
      exact ⟨child, i, v, rfl, hv, rfl⟩
    · rintro ⟨_, i, v, rfl, hv, rfl⟩
      exact ⟨v, i, hv, rfl⟩

/-- **The branches of a value are the governed ones.** -/
theorem mem_branches_iff {node : σ} {d : Datum} {b : Branch σ} :
    b ∈ branches node d ↔ Governed node d b := by
  constructor
  · intro h
    cases d with
    | map entries =>
      rcases List.mem_append.1 h with h | h
      · obtain ⟨name, child, v, hp, hv, rfl⟩ := mem_declaredBranches.1 h
        exact .declared hp hv
      · obtain ⟨child, k, v, hc, hk, hv, rfl⟩ := mem_otherBranches.1 h
        exact .other hc hk hv
    | list items =>
      obtain ⟨child, i, v, hc, hv, rfl⟩ := mem_itemBranches.1 h
      exact .item hc hv
    | _ => cases h
  · intro h
    cases h with
    | declared hp hv =>
      exact List.mem_append_left _ (mem_declaredBranches.2 ⟨_, _, _, hp, hv, rfl⟩)
    | other hc hk hv =>
      exact List.mem_append_right _ (mem_otherBranches.2 ⟨_, _, _, hc, hk, hv, rfl⟩)
    | item hc hv => exact mem_itemBranches.2 ⟨_, _, _, hc, hv, rfl⟩

/-- Branches are parts. -/
theorem part_of_mem_branches {node : σ} {d : Datum} {b : Branch σ} (h : b ∈ branches node d) :
    IsPart b.value d := by
  cases mem_branches_iff.1 h with
  | declared _ hv => exact part_of_lookup hv
  | other _ _ hv => exact .value hv
  | item _ hv => exact .item (List.mem_of_getElem? hv)

/-- Branches are smaller than the whole. -/
theorem branches_lt {node : σ} {d : Datum} {b : Branch σ} (h : b ∈ branches node d) :
    sizeOf b.value < sizeOf d := (part_of_mem_branches h).sizeOf_lt

/-- **A branch is found along its edge,** where no map has a key twice. -/
theorem along?_of_mem_branches {node : σ} {d : Datum} (hd : d.WellKeyed) {b : Branch σ}
    (h : b ∈ branches node d) : d.along? b.edge = some b.value := by
  cases mem_branches_iff.1 h with
  | declared _ hv => exact hv
  | other _ _ hv =>
    cases hd with
    | leaf h => cases h
    | map hr hk _ => exact lookup_of_mem hr hk hv
  | item _ hv => exact hv

/-! ### Nodes below a node -/

/-- **The nodes of a schema:** its root, and those that its nodes have for parts of values. -/
inductive Reaches (root : σ) : σ → Prop
  | root : Reaches root root
  | property {n p} (h : Reaches root n) (hp : p ∈ properties n) : Reaches root p.2
  | item {n child} (h : Reaches root n) (hc : items? n = some child) : Reaches root child
  | additional {n child} (h : Reaches root n) (hc : additional? n = some child) :
      Reaches root child

/-- The nodes of branches are nodes of the schema. -/
theorem Reaches.of_mem_branches {root node : σ} (h : Reaches root node) {d : Datum} {b : Branch σ}
    (hb : b ∈ branches node d) : Reaches root b.node := by
  cases mem_branches_iff.1 hb with
  | declared hp _ => exact .property h hp
  | other hc _ _ => exact .additional h hc
  | item hc _ => exact .item h hc

/-! ### Different branches, different edges -/

/-- A family of nodes that holds with a node the nodes below it, and in which a node declares no
property twice. -/
structure Regular (P : σ → Prop) : Prop where
  nodup : ∀ {n}, P n → ((properties n).map Prod.fst).Nodup
  declared : ∀ {n}, P n → ∀ p ∈ properties n, hasProperty n p.1
  property : ∀ {n}, P n → ∀ p ∈ properties n, P p.2
  item : ∀ {n child}, P n → items? n = some child → P child
  additional : ∀ {n child}, P n → additional? n = some child → P child

/-- The nodes of branches stay in the family. -/
theorem Regular.of_mem_branches {P : σ → Prop} (hP : Regular P) {node : σ} (hn : P node) {d : Datum}
    {b : Branch σ} (h : b ∈ branches node d) : P b.node := by
  cases mem_branches_iff.1 h with
  | declared hp _ => exact hP.property hn _ hp
  | other hc _ _ => exact hP.additional hn hc
  | item hc _ => exact hP.item hn hc

theorem declaredBranches_edges {node : σ} (hn : ((properties node).map Prod.fst).Nodup)
    (entries : List (Datum × Datum)) :
    (declaredBranches node entries).Pairwise fun b c => b.edge ≠ c.edge := by
  refine List.Pairwise.filterMap _ (fun a b hab p hp q hq => ?_) (List.pairwise_map.1 hn)
  obtain ⟨v, -, rfl⟩ := Option.map_eq_some_iff.1 hp
  obtain ⟨w, -, rfl⟩ := Option.map_eq_some_iff.1 hq
  simpa using hab

theorem otherBranches_edges (node : σ) {entries : List (Datum × Datum)}
    (hr : ∀ e ∈ entries, sameKey e.1 e.1) (hk : entries.Pairwise fun e f => ¬ sameKey e.1 f.1) :
    (otherBranches node entries).Pairwise fun b c => b.edge ≠ c.edge := by
  rw [otherBranches]
  cases additional? node with
  | none => exact .nil
  | some child =>
    refine List.pairwise_map.2 (List.Pairwise.imp_of_mem (fun he hf hne heq => ?_) (hk.filter _))
    rw [Edge.key.injEq] at heq
    exact hne (heq ▸ hr _ (List.mem_filter.1 he).1)

theorem itemBranches_edges (node : σ) (items : List Datum) :
    (itemBranches node items).Pairwise fun b c => b.edge ≠ c.edge := by
  rw [itemBranches]
  cases items? node with
  | none => exact .nil
  | some child =>
    have hidx : (items.zipIdx.map Prod.snd).Nodup := by
      rw [List.zipIdx_map_snd]
      exact List.nodup_range'
    exact List.pairwise_map.2 ((List.pairwise_map.1 hidx).imp fun hne heq =>
      hne (Edge.item.inj heq))

/-- **No two branches of a value are reached along the same edge.** The keys of the one kind are
declared, those of the other are not. -/
theorem branches_edges {P : σ → Prop} (hP : Regular P) {node : σ} (hn : P node) {d : Datum}
    (hd : d.WellKeyed) : (branches node d).Pairwise fun b c => b.edge ≠ c.edge := by
  cases hd with
  | leaf h => cases d <;> first | exact .nil | cases h
  | list _ => exact itemBranches_edges node _
  | map hr hk _ =>
    refine List.pairwise_append.2 ⟨declaredBranches_edges (hP.nodup hn) _,
      otherBranches_edges node hr hk, fun p hp q hq heq => ?_⟩
    obtain ⟨name, child, v, hname, -, rfl⟩ := mem_declaredBranches.1 hp
    obtain ⟨_, k, w, -, hadd, -, rfl⟩ := mem_otherBranches.1 hq
    -- one edge for both would be a declared key that is not declared
    obtain rfl : .text name = k := Edge.key.inj heq
    simp [isAdditional, hP.declared hn _ hname] at hadd

end Admission.Validator
