import Mathlib.Data.List.Basic
import Admission.Datum
import Admission.Location

/-!
# Ways into data

A part of a datum is reached along edges: from a map to the value of a key, from a list to an
item. A way is a row of edges from the root; the path of a location is its text.

* `Datum.byParts`, `Datum.IsPart`: induction over data, and the parts of a datum.
* `Datum.Edge`, `Datum.along?`, `Datum.follow?`: the datum that an edge or a way leads to.
* `Datum.Lacks`, `Datum.follow?_eq_none_iff`: a way leads nowhere iff one of its edges is missing.
* `Datum.WellKeyed`, `Datum.lookup_of_mem`: where no map has a key twice, every entry is found
  under its key.
-/

namespace Admission

namespace Datum

/-- Whether a datum has no parts of its own. -/
def isLeaf : Datum → Bool
  | .list _ | .map _ => false
  | _ => true

/-- The parts of a datum are its items or its values, not its keys. -/
inductive IsPart : Datum → Datum → Prop
  | item {items d} (h : d ∈ items) : IsPart d (.list items)
  | value {entries e} (h : e ∈ entries) : IsPart e.2 (.map entries)

/-- Parts are smaller than the whole. -/
theorem IsPart.sizeOf_lt {d d' : Datum} (h : IsPart d' d) : sizeOf d' < sizeOf d := by
  cases h with
  | item h =>
    have := List.sizeOf_lt_of_mem h
    simp only [Datum.list.sizeOf_spec]
    omega
  | @value entries e h =>
    have := List.sizeOf_lt_of_mem h
    obtain ⟨k, v⟩ := e
    simp only [Prod.mk.sizeOf_spec] at this
    simp only [Datum.map.sizeOf_spec]
    omega

/-- **Induction over data.** What passes from the items of a list to the list and from the keys
and values of a map to the map, and holds of all other data, holds of every datum. -/
@[elab_as_elim]
theorem byParts {motive : Datum → Prop}
    (list : ∀ items, (∀ d ∈ items, motive d) → motive (.list items))
    (map : ∀ entries, (∀ e ∈ entries, motive e.1 ∧ motive e.2) → motive (.map entries))
    (leaf : ∀ d, d.isLeaf → motive d) (d : Datum) : motive d :=
  match d with
  | .list items => list items fun d _h => byParts list map leaf d
  | .map entries =>
    map entries fun e _h => ⟨byParts list map leaf e.1, byParts list map leaf e.2⟩
  | .null | .bool _ | .int _ | .float _ | .text _ | .bytes _ | .foreign _ => leaf _ rfl
termination_by sizeOf d
decreasing_by
  · exact (IsPart.item _h).sizeOf_lt
  · -- keys are no parts, but they are smaller all the same
    obtain ⟨k, v⟩ := e
    have := List.sizeOf_lt_of_mem _h
    simp only [Prod.mk.sizeOf_spec] at this
    simp only [Datum.map.sizeOf_spec]
    omega
  · exact (IsPart.value _h).sizeOf_lt

/-! ### Values of keys -/

/-- The value of a key is that of an entry. -/
theorem mem_of_lookup {entries : List (Datum × Datum)} {key v : Datum}
    (h : lookup key entries = some v) : ∃ e ∈ entries, sameKey e.1 key ∧ e.2 = v := by
  induction entries with
  | nil => simp [lookup] at h
  | cons f rest ih =>
    by_cases hf : sameKey f.1 key
    · simp only [lookup, hf, if_true, Option.some.injEq] at h
      exact ⟨f, List.mem_cons_self, hf, h⟩
    · simp only [lookup, hf] at h
      obtain ⟨e, he, hs, hv⟩ := ih h
      exact ⟨e, List.mem_cons_of_mem f he, hs, hv⟩

theorem part_of_lookup {entries : List (Datum × Datum)} {key v : Datum}
    (h : lookup key entries = some v) : IsPart v (.map entries) := by
  obtain ⟨e, he, -, rfl⟩ := mem_of_lookup h
  exact .value he

/-! ### Edges and ways -/

/-- An edge from a datum to a part of it. -/
inductive Edge where
  /-- To the value of a key of a map. -/
  | key (k : Datum)
  /-- To an item of a list. -/
  | item (i : Nat)

/-- How an edge is written in paths. -/
def Edge.step : Edge → Step
  | .key k => .field k.keyText
  | .item i => .index i

/-- The JSON type of the data that have a part along an edge. -/
def Edge.container : Edge → Text
  | .key _ => "object"
  | .item _ => "array"

/-- The part that an edge leads to. -/
def along? (d : Datum) : Edge → Option Datum
  | .key k => d.field? k
  | .item i => d.item? i

/-- Edges lead to parts. -/
theorem part_of_along? {d d' : Datum} {e : Edge} (h : d.along? e = some d') : IsPart d' d := by
  cases e with
  | key k =>
    cases d with
    | map entries => exact part_of_lookup h
    | _ => cases h
  | item i =>
    cases d with
    | list items => exact .item (List.mem_of_getElem? h)
    | _ => cases h

/-- **The datum that a way leads to.** -/
def follow? (d : Datum) : List Edge → Option Datum
  | [] => some d
  | e :: way => (d.along? e).bind (·.follow? way)

@[simp] theorem follow?_nil (d : Datum) : d.follow? [] = some d := rfl

@[simp] theorem follow?_cons (d : Datum) (e : Edge) (way : List Edge) :
    d.follow? (e :: way) = (d.along? e).bind (·.follow? way) := rfl

/-- A way that goes on is followed from where its beginning leads. -/
theorem follow?_append (d : Datum) (way way' : List Edge) :
    d.follow? (way ++ way') = (d.follow? way).bind (·.follow? way') := by
  induction way generalizing d with
  | nil => rfl
  | cons e way ih =>
    cases h : d.along? e with
    | none => simp [h]
    | some d' => simp [h, ih d']

/-- The path of a way. -/
def pathOf (way : List Edge) : Text := Location.pathOf (way.map Edge.step)

/-- One more edge writes one more step behind the path. -/
theorem pathOf_concat (way : List Edge) (e : Edge) :
    pathOf (way ++ [e]) = Step.join (pathOf way) e.step := by
  simp [pathOf, Location.pathOf]

/-! ### Missing parts -/

/-- A datum misses an edge: it is not a map that has the key, or not a list that has the item. -/
inductive Misses : Datum → Edge → Prop
  | noMap {d k} (h : ∀ entries, d ≠ .map entries) : Misses d (.key k)
  | noKey {entries k} (h : ∀ e ∈ entries, sameKey e.1 k = false) : Misses (.map entries) (.key k)
  | noList {d i} (h : ∀ items, d ≠ .list items) : Misses d (.item i)
  | beyond {items : List Datum} {i} (h : items.length ≤ i) : Misses (.list items) (.item i)

/-- A datum lacks a way: some edge of it is missing where the way has led so far. -/
inductive Lacks : Datum → List Edge → Prop
  | here {d e way} (h : Misses d e) : Lacks d (e :: way)
  | further {d d' e way} (h : d.along? e = some d') (hw : Lacks d' way) : Lacks d (e :: way)

/-- A key is not found iff no entry has it. -/
theorem lookup_eq_none_iff {key : Datum} {entries : List (Datum × Datum)} :
    lookup key entries = none ↔ ∀ e ∈ entries, sameKey e.1 key = false := by
  induction entries with
  | nil => simp [lookup]
  | cons e rest ih =>
    obtain ⟨k, v⟩ := e
    cases h : sameKey k key with
    | true => simp [lookup, h]
    | false => simp [lookup, h, ih]

theorem along?_eq_none_iff {d : Datum} {e : Edge} : d.along? e = none ↔ d.Misses e := by
  constructor
  · intro h
    cases e with
    | key k =>
      by_cases hd : ∃ entries, d = .map entries
      · obtain ⟨entries, rfl⟩ := hd
        exact .noKey (lookup_eq_none_iff.1 h)
      · exact .noMap fun entries he => hd ⟨entries, he⟩
    | item i =>
      by_cases hd : ∃ items, d = .list items
      · obtain ⟨items, rfl⟩ := hd
        exact .beyond (List.getElem?_eq_none_iff.1 h)
      · exact .noList fun items he => hd ⟨items, he⟩
  · intro h
    cases h with
    | noKey h => exact lookup_eq_none_iff.2 h
    | beyond h => exact List.getElem?_eq_none_iff.2 h
    | noMap h => cases d <;> first | rfl | exact absurd rfl (h _)
    | noList h => cases d <;> first | rfl | exact absurd rfl (h _)

/-- **A way leads nowhere iff one of its edges is missing.** -/
theorem follow?_eq_none_iff {d : Datum} {way : List Edge} : d.follow? way = none ↔ d.Lacks way := by
  induction way generalizing d with
  | nil => exact ⟨fun h => (nomatch h), fun h => (nomatch h)⟩
  | cons e way ih =>
    constructor
    · intro h
      cases he : d.along? e with
      | none => exact .here (along?_eq_none_iff.1 he)
      | some d' => exact .further he (ih.1 (by simpa [he] using h))
    · intro h
      cases h with
      | here h => simp [along?_eq_none_iff.2 h]
      | further h hw => simp [h, ih.2 hw]

/-! ### Keys -/

/-- The key of a text is that text and nothing else. -/
@[simp] theorem sameKey_text {k : Datum} {s : Text} :
    sameKey k (.text s) = true ↔ k = .text s := by
  cases k <;> simp [sameKey, number?]

@[simp] theorem text_sameKey {k : Datum} {s : Text} :
    sameKey (.text s) k = true ↔ k = .text s := by
  cases k with
  | text t => rw [sameKey_text, Datum.text.injEq, Datum.text.injEq, eq_comm]
  | _ => simp [sameKey, number?]

/-- **No map in a datum has a key twice**, and every key is the same as itself. -/
inductive WellKeyed : Datum → Prop
  | leaf {d} (h : d.isLeaf) : WellKeyed d
  | list {items} (h : ∀ d ∈ items, WellKeyed d) : WellKeyed (.list items)
  | map {entries} (hr : ∀ e ∈ entries, sameKey e.1 e.1)
      (hk : entries.Pairwise fun e f => ¬ sameKey e.1 f.1)
      (h : ∀ e ∈ entries, WellKeyed e.2) : WellKeyed (.map entries)

/-- No part of a datum without a key twice has one. -/
theorem WellKeyed.of_part {d d' : Datum} (hd : d.WellKeyed) (h : IsPart d' d) : d'.WellKeyed := by
  cases h with
  | item h =>
    cases hd with
    | leaf hl => cases hl
    | list hd => exact hd _ h
  | value h =>
    cases hd with
    | leaf hl => cases hl
    | map _ _ hd => exact hd _ h

theorem WellKeyed.keys {entries : List (Datum × Datum)} (h : WellKeyed (.map entries)) :
    entries.Pairwise fun e f => ¬ sameKey e.1 f.1 := by
  cases h with
  | leaf h => cases h
  | map _ hk _ => exact hk

/-- Each entry of a map without a key twice is found under its key. -/
theorem lookup_of_mem {entries : List (Datum × Datum)} {e : Datum × Datum}
    (hr : ∀ e ∈ entries, sameKey e.1 e.1) (hk : entries.Pairwise fun e f => ¬ sameKey e.1 f.1)
    (he : e ∈ entries) : lookup e.1 entries = some e.2 := by
  induction entries with
  | nil => simp at he
  | cons f rest ih =>
    obtain ⟨hf, hrest⟩ := List.pairwise_cons.1 hk
    rcases List.mem_cons.1 he with rfl | he'
    · simp [lookup, hr e List.mem_cons_self]
    · have hne : sameKey f.1 e.1 = false := by simpa using hf e he'
      simp only [lookup, hne, Bool.false_eq_true, if_false]
      exact ih (fun e h => hr e (List.mem_cons_of_mem f h)) hrest he'

end Datum

end Admission
