import Admission.Text.Basic

/-!
# Documents

Decoded JSON. Members of an object keep their order, and integers and floats are different
values: `1` and `1.0` are two documents.

* `Document.member?`: the value of a key of an object.
* `putMember`: a member added or replaced in its place.
* `distinct`: the first member under each key.
-/

namespace Admission

/-- A JSON value. -/
inductive Document where
  | null
  | bool (b : Bool)
  | int (n : Int)
  | float (x : Float)
  | text (s : Text)
  | list (items : List Document)
  | object (members : List (Text × Document))
  deriving Inhabited

namespace Document

/-- The value of a key, if the document is an object that has it. -/
def member? (key : Text) : Document → Option Document
  | .object members => members.lookup key
  | _ => none

/-- The text of a document that is one. -/
def text? : Document → Option Text
  | .text s => some s
  | _ => none

/-- The members of a document that is an object. -/
def members? : Document → Option (List (Text × Document))
  | .object members => some members
  | _ => none

/-- Whether a document is an object. -/
def isObject : Document → Bool
  | .object _ => true
  | _ => false

/-- Members with `key` bound to `value`: in the place of the key if it is there, else at the
end. -/
def putMember (key : Text) (value : Document) :
    List (Text × Document) → List (Text × Document)
  | [] => [(key, value)]
  | (k, v) :: rest => if k = key then (k, value) :: rest else (k, v) :: putMember key value rest

@[simp] theorem member?_object (key : Text) (members : List (Text × Document)) :
    (Document.object members).member? key = members.lookup key := rfl

/-- The first member under each key. An object that was read has no other ones. -/
def distinct : List (Text × Document) → List (Text × Document)
  | [] => []
  | m :: rest => m :: (distinct rest).filter fun n => n.1 != m.1

theorem distinct_sublist : ∀ members : List (Text × Document), (distinct members).Sublist members
  | [] => .slnil
  | m :: rest => (List.filter_sublist.trans (distinct_sublist rest)).cons_cons m

theorem nodup_distinct (members : List (Text × Document)) :
    ((distinct members).map Prod.fst).Nodup := by
  induction members with
  | nil => exact .nil
  | cons m rest ih =>
    rw [distinct, List.map_cons, List.nodup_cons]
    refine ⟨fun h => ?_, ih.sublist (List.filter_sublist.map _)⟩
    obtain ⟨n, hn, hkey⟩ := List.mem_map.1 h
    exact bne_iff_ne.1 (List.mem_filter.1 hn).2 hkey

/-- Members without a key twice are the first ones under their keys. -/
theorem distinct_eq_self {members : List (Text × Document)}
    (h : (members.map Prod.fst).Nodup) : distinct members = members := by
  induction members with
  | nil => rfl
  | cons m rest ih =>
    obtain ⟨hm, hrest⟩ := List.nodup_cons.1 h
    rw [distinct, ih hrest, List.filter_eq_self.2]
    intro n hn
    exact bne_iff_ne.2 fun hkey => hm (hkey ▸ List.mem_map_of_mem hn)

/-- Changing values leaves the first members the first ones. -/
theorem distinct_map (f : Text → Document → Document) (members : List (Text × Document)) :
    distinct (members.map fun m => (m.1, f m.1 m.2)) =
      (distinct members).map fun m => (m.1, f m.1 m.2) := by
  induction members with
  | nil => rfl
  | cons m rest ih => simp only [List.map_cons, distinct, ih, List.filter_map]; rfl

theorem lookup_filter_ne {key other : Text} (h : other ≠ key)
    (members : List (Text × Document)) :
    (members.filter fun n => n.1 != key).lookup other = members.lookup other := by
  induction members with
  | nil => rfl
  | cons m rest ih =>
    obtain ⟨k, d⟩ := m
    by_cases hk : k = key
    · subst hk
      simp [List.lookup_cons, beq_false_of_ne h, ih]
    · simp [hk, List.lookup_cons, ih]

/-- A key has the value that it has first. -/
theorem lookup_distinct (key : Text) (members : List (Text × Document)) :
    (distinct members).lookup key = members.lookup key := by
  induction members with
  | nil => rfl
  | cons m rest ih =>
    obtain ⟨k, d⟩ := m
    by_cases hk : key = k
    · simp [distinct, hk]
    · rw [distinct, List.lookup_cons, List.lookup_cons, lookup_filter_ne hk, ih]

end Document

end Admission
