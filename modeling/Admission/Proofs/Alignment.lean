import Admission.Proofs.Visit

/-!
# Old values beside new ones

A validation of a changed object compares each place with the same place of the old object: the
value that the same keys and indices lead to. Where they lead nowhere, there is no old value, and
an old object that is null is none at all.

* `Validator.Aligned`: what it means that a visited place has the right old value.
* `Validator.lookup_oldSelf`: what `oldSelf` is bound to at a place.
* `Validator.validate_aligned`: **the old value at every visited place is the right one.**
-/

namespace Admission.Validator

open SchemaNode Datum

variable {σ : Type} [SchemaNode σ]

/-- **What it means that a place has the right old value,** in the validation of a new value beside
an old one. -/
structure Aligned (new : Datum) (old : Option Datum) (v : Visit σ) : Prop where
  /-- The place lies where its way leads in the new value, if no map there has a key twice. -/
  reached : new.WellKeyed → new.follow? v.way = some v.value
  /-- Its old value lies where the same way leads in the old value, be it null or not. -/
  followed : ∀ o, old = some o → o ≠ .null → v.old = o.follow? v.way
  /-- It has no old value iff the old value lacks the way. -/
  lacking : ∀ o, old = some o → o ≠ .null → (v.old = none ↔ o.Lacks v.way)
  /-- No place has an old value where there is none at all or null. -/
  absent : old = none ∨ old = some .null → v.old = none
  /-- Its old value, as its node converts it, is what rules call `oldSelf`; null is if there is
  none. -/
  bound : ∀ env, activation? v.node v.value v.old = .ok (some env) →
    ∃ x, env.lookup oldSelfName = some x ∧ (v.old = none → x = .null) ∧
      ∀ o, v.old = some o → Bridge.convert (some v.node) o = .ok x

/-! ### The root -/

theorem oldRoot_of_ne_null {o : Datum} (h : o ≠ .null) : oldRoot (some o) = some o := by
  unfold oldRoot
  split
  · rename_i heq
    exact absurd (Option.some.inj heq) h
  · rfl

theorem oldRoot_of_absent {old : Option Datum} (h : old = none ∨ old = some .null) :
    oldRoot old = none := by
  rcases h with rfl | rfl
  · rfl
  · rfl

/-! ### Bindings -/

/-- Values that are bound are bound as their node converts them. -/
theorem exists_of_activation? {node : σ} {new : Datum} {old : Option Datum} {env : Bindings}
    (h : activation? node new old = .ok (some env)) :
    ∃ x y, Bridge.convert (some node) new = .ok x ∧ oldValue node old = .ok y ∧
      env = bindings x y := by
  unfold activation? at h
  cases hx : Bridge.convert (some node) new with
  | error f => cases f <;> simp [hx] at h
  | ok x =>
    cases hy : oldValue node old with
    | error f => cases f <;> simp [hx, hy] at h
    | ok y =>
      simp only [hx, hy, Except.ok.injEq, Option.some.injEq] at h
      exact ⟨x, y, rfl, rfl, h.symm⟩

/-- **What `oldSelf` is bound to:** the old value as the node converts it, or null. -/
theorem lookup_oldSelf {node : σ} {new : Datum} {old : Option Datum} {env : Bindings}
    (h : activation? node new old = .ok (some env)) :
    ∃ x, env.lookup oldSelfName = some x ∧ (old = none → x = .null) ∧
      ∀ o, old = some o → Bridge.convert (some node) o = .ok x := by
  obtain ⟨x, y, -, hy, rfl⟩ := exists_of_activation? h
  refine ⟨y, rfl, ?_, ?_⟩
  · rintro rfl
    exact (Except.ok.inj hy).symm
  · rintro o rfl
    exact hy

/-! ### Visited places -/

/-- The old value at a visited place lies where its way leads in the old value at the root. -/
theorem visited_old {root : Option σ} {new : Datum} {old : Option Datum} {v : Visit σ}
    (h : v ∈ visited root new old) : v.old = (oldRoot old).bind (·.follow? v.way) := by
  cases root with
  | none => cases h
  | some node =>
    obtain ⟨way, hway, hold⟩ := visits_old h
    rw [hold, hway]
    rfl

theorem visited_value {root : Option σ} {new : Datum} {old : Option Datum} {v : Visit σ}
    (hn : new.WellKeyed) (h : v ∈ visited root new old) : new.follow? v.way = some v.value := by
  cases root with
  | none => cases h
  | some node =>
    obtain ⟨way, hway, hval⟩ := visits_value hn h
    rw [hway]
    exact hval

/-- **All visited places are aligned.** -/
theorem visited_aligned {root : Option σ} {new : Datum} {old : Option Datum} :
    ∀ v ∈ visited root new old, Aligned new old v := by
  intro v hv
  have hold := visited_old hv
  have hfollow : ∀ o, old = some o → o ≠ .null → v.old = o.follow? v.way := by
    rintro o rfl ho
    rw [hold, oldRoot_of_ne_null ho, Option.bind_some]
  exact {
    reached := fun hn => visited_value hn hv
    followed := hfollow
    lacking := fun o ho hnull => by rw [hfollow o ho hnull, follow?_eq_none_iff]
    absent := fun h => by rw [hold, oldRoot_of_absent h, Option.bind_none]
    bound := fun _ h => lookup_oldSelf h }

/-- **Old values are aligned with new ones at every depth,** whatever their shapes, be the schema a
document or a compiled tree: a validation reports what is reported at the places that it visits, and
each of these has the right old value. -/
theorem validate_aligned (c : Context) (schema : Document) (tree : CompiledSchema) (new : Datum)
    (old : Option Datum) :
    (validate c schema new old =
        (visited (RawSchema.wrap? c schema) new old).flatMapM Visit.report ∧
      ∀ v ∈ visited (RawSchema.wrap? c schema) new old, Aligned new old v) ∧
    (validateCompiled tree new old = (visited (some tree) new old).flatMapM Visit.report ∧
      ∀ v ∈ visited (some tree) new old, Aligned new old v) :=
  ⟨⟨validate_eq_visited c schema new old, visited_aligned⟩,
    validateCompiled_eq_visited tree new old, visited_aligned⟩

/-- A schema for the items of a list under one key. -/
def listSchema : Document :=
  .object [("properties", .object [("a", .object [("items", .object [])])])]

/-- A list of two items under that key. -/
def listNew : Datum := .map [(.text "a", .list [.text "x", .text "y"])]

/-- A list of a single null under it. -/
def listOld : Datum := .map [(.text "a", .list [.null])]

/-- The place of an item. -/
def itemVisit (i : Nat) (value : Datum) (old : Option Datum) : Visit RawSchema :=
  ⟨[.key (.text "a"), .item i], ⟨.plain, []⟩, value, old⟩

theorem itemVisit_mem :
    itemVisit 0 (.text "x") (some .null) ∈
        visited (RawSchema.wrap? .plain listSchema) listNew (some listOld) ∧
      itemVisit 1 (.text "y") none ∈
        visited (RawSchema.wrap? .plain listSchema) listNew (some listOld) := by
  constructor
  · refine mem_visits_of_next List.mem_cons_self (mem_visits_of_next ?_ (self_mem_visits _))
    exact List.mem_cons_self
  · refine mem_visits_of_next List.mem_cons_self (mem_visits_of_next ?_ (self_mem_visits _))
    exact List.mem_cons_of_mem _ List.mem_cons_self

/-- The first item has an old value, which is null, and the second has none. -/
theorem validate_aligned_items :
    (itemVisit 0 (.text "x") (some .null) ∈
        visited (RawSchema.wrap? .plain listSchema) listNew (some listOld) ∧
      Aligned listNew (some listOld) (itemVisit 0 (.text "x") (some .null))) ∧
    (itemVisit 1 (.text "y") none ∈
        visited (RawSchema.wrap? .plain listSchema) listNew (some listOld) ∧
      Aligned listNew (some listOld) (itemVisit 1 (.text "y") none)) := by
  have h := validate_aligned .plain listSchema CompiledSchema.blank listNew (some listOld)
  exact ⟨⟨itemVisit_mem.1, h.1.2 _ itemVisit_mem.1⟩, itemVisit_mem.2, h.1.2 _ itemVisit_mem.2⟩

end Admission.Validator
