import Admission.Proofs.Way

/-!
# JSON among the data

Data that are made of JSON have texts for keys, and their parts are made of JSON again.

* `Document.byParts`: induction over documents.
* `Document.wellKeyed`: no object in a document has a key twice, which can be decided.
* `Datum.wellKeyed_ofDocument`: such a document is a datum without a key twice.
* `Datum.IsJson`, `Datum.IsJson.of_part`: data that are made of JSON, and their parts.
-/

namespace Admission

namespace Document

/-- **Induction over documents.** -/
@[elab_as_elim]
theorem byParts {motive : Document → Prop}
    (list : ∀ items, (∀ d ∈ items, motive d) → motive (.list items))
    (object : ∀ members, (∀ m ∈ members, motive m.2) → motive (.object members))
    (null : motive .null) (bool : ∀ b, motive (.bool b)) (int : ∀ n, motive (.int n))
    (float : ∀ x, motive (.float x)) (text : ∀ s, motive (.text s)) (d : Document) : motive d :=
  match d with
  | .list items => list items fun d _hd => byParts list object null bool int float text d
  | .object members =>
    object members fun m _hm => byParts list object null bool int float text m.2
  | .null => null
  | .bool b => bool b
  | .int n => int n
  | .float x => float x
  | .text s => text s
termination_by sizeOf d
decreasing_by
  · have := List.sizeOf_lt_of_mem _hd
    simp only [Document.list.sizeOf_spec]
    omega
  · obtain ⟨k, v⟩ := m
    have := List.sizeOf_lt_of_mem _hm
    simp only [Prod.mk.sizeOf_spec] at this
    simp only [Document.object.sizeOf_spec]
    omega

mutual

/-- Whether no object in a document has a key twice. -/
def wellKeyed : Document → Bool
  | .list items => itemsWellKeyed items
  | .object members => decide (members.map Prod.fst).Nodup && membersWellKeyed members
  | _ => true

/-- Whether no object in a row of documents has a key twice. -/
def itemsWellKeyed : List Document → Bool
  | [] => true
  | d :: ds => wellKeyed d && itemsWellKeyed ds

/-- Whether no object in the values of members has a key twice. -/
def membersWellKeyed : List (Text × Document) → Bool
  | [] => true
  | (_, d) :: ms => wellKeyed d && membersWellKeyed ms

end

@[simp] theorem wellKeyed_list {items : List Document} :
    (Document.list items).wellKeyed ↔ ∀ d ∈ items, d.wellKeyed := by
  rw [wellKeyed]
  induction items with
  | nil => simp [itemsWellKeyed]
  | cons d ds ih => simp [itemsWellKeyed, ih]

@[simp] theorem wellKeyed_object {members : List (Text × Document)} :
    (Document.object members).wellKeyed ↔
      (members.map Prod.fst).Nodup ∧ ∀ m ∈ members, m.2.wellKeyed := by
  have hm : membersWellKeyed members ↔ ∀ m ∈ members, m.2.wellKeyed := by
    induction members with
    | nil => simp [membersWellKeyed]
    | cons m ms ih => simp [membersWellKeyed, ih]
  rw [wellKeyed, Bool.and_eq_true, decide_eq_true_eq, hm]

/-- Each member of an object without a key twice is found under its key. -/
theorem lookup_of_mem {α : Type} {members : List (Text × α)} {m : Text × α} (hm : m ∈ members)
    (hk : (members.map Prod.fst).Nodup) : members.lookup m.1 = some m.2 := by
  induction members with
  | nil => cases hm
  | cons n rest ih =>
    obtain ⟨hne, hrest⟩ := List.nodup_cons.1 hk
    rw [List.lookup_cons]
    rcases List.mem_cons.1 hm with rfl | hm
    · rw [beq_self_eq_true]
    · have h : m.1 ≠ n.1 := fun h => hne (h ▸ List.mem_map_of_mem hm)
      rw [beq_false_of_ne h]
      exact ih hm hrest

/-- The member under a key is one of the members. -/
theorem mem_of_lookup {α : Type} {members : List (Text × α)} {key : Text} {d : α}
    (h : members.lookup key = some d) : (key, d) ∈ members := by
  obtain ⟨before, after, rfl, -⟩ := List.lookup_eq_some_iff.1 h
  simp

/-- What is found under a key does not depend on the order of members without a key twice. -/
theorem lookup_eq_of_perm {α : Type} {members members' : List (Text × α)}
    (h : members'.Perm members) (hk : (members.map Prod.fst).Nodup) (key : Text) :
    members'.lookup key = members.lookup key := by
  have hk' : (members'.map Prod.fst).Nodup := (h.map Prod.fst).nodup_iff.2 hk
  ext d
  exact ⟨fun hd => lookup_of_mem (h.subset (mem_of_lookup hd)) hk,
    fun hd => lookup_of_mem (h.symm.subset (mem_of_lookup hd)) hk'⟩

end Document

namespace Datum

theorem ofItems_eq (items : List Document) : ofItems items = items.map ofDocument := by
  induction items with
  | nil => rfl
  | cons d ds ih => rw [ofItems, ih, List.map_cons]

theorem ofMembers_eq (members : List (Text × Document)) :
    ofMembers members = members.map fun m => (.text m.1, ofDocument m.2) := by
  induction members with
  | nil => rfl
  | cons m ms ih => rw [ofMembers, ih, List.map_cons]

@[simp] theorem ofDocument_list (items : List Document) :
    ofDocument (.list items) = .list (items.map ofDocument) := by
  rw [ofDocument, ofItems_eq]

@[simp] theorem ofDocument_object (members : List (Text × Document)) :
    ofDocument (.object members) = .map (members.map fun m => (.text m.1, ofDocument m.2)) := by
  rw [ofDocument, ofMembers_eq]

/-- **JSON without a key twice is a datum without a key twice.** -/
theorem wellKeyed_ofDocument {d : Document} : d.wellKeyed → (ofDocument d).WellKeyed := by
  induction d using Document.byParts with
  | list items ih =>
    intro h
    rw [Document.wellKeyed_list] at h
    rw [ofDocument_list]
    exact .list (by simpa using fun d hd => ih d hd (h d hd))
  | object members ih =>
    intro h
    obtain ⟨hk, h⟩ := Document.wellKeyed_object.1 h
    rw [ofDocument_object]
    refine .map (List.forall_mem_map.2 fun m _ => sameKey_text.2 rfl) ?_
      (List.forall_mem_map.2 fun m hm => ih m hm (h m hm))
    -- two members of one key would be one text twice
    rw [List.pairwise_map]
    refine (List.pairwise_map.1 hk).imp fun hne => ?_
    simpa using hne
  | null | bool | int | float | text => exact fun _ => .leaf rfl

/-- A datum that is made of JSON. -/
def IsJson (d : Datum) : Prop := ∃ doc, d = ofDocument doc

theorem not_isJson_bytes (octets : List UInt8) : ¬ (bytes octets).IsJson := by
  rintro ⟨doc, h⟩
  cases doc <;> simp [ofDocument] at h

theorem not_isJson_foreign (thing : Foreign) : ¬ (foreign thing).IsJson := by
  rintro ⟨doc, h⟩
  cases doc <;> simp [ofDocument] at h

/-- Keys of JSON are texts, and its values are JSON. -/
theorem IsJson.entries {entries : List (Datum × Datum)} (h : IsJson (.map entries)) :
    ∀ e ∈ entries, (∃ s, e.1 = .text s) ∧ e.2.IsJson := by
  obtain ⟨doc, hd⟩ := h
  cases doc with
  | object members =>
    rw [ofDocument_object, Datum.map.injEq] at hd
    subst hd
    intro e he
    obtain ⟨m, -, rfl⟩ := List.mem_map.1 he
    exact ⟨⟨m.1, rfl⟩, m.2, rfl⟩
  | _ => simp [ofDocument] at hd

/-- Items of JSON are JSON. -/
theorem IsJson.items {items : List Datum} (h : IsJson (.list items)) : ∀ d ∈ items, d.IsJson := by
  obtain ⟨doc, hd⟩ := h
  cases doc with
  | list docs =>
    rw [ofDocument_list, Datum.list.injEq] at hd
    subst hd
    intro d hd
    obtain ⟨doc, -, rfl⟩ := List.mem_map.1 hd
    exact ⟨doc, rfl⟩
  | _ => simp [ofDocument] at hd

/-- **Parts of JSON are JSON.** -/
theorem IsJson.of_part {d d' : Datum} (hd : d.IsJson) (h : IsPart d' d) : d'.IsJson := by
  cases h with
  | item h => exact hd.items _ h
  | value h => exact (hd.entries _ h).2

end Datum

end Admission
