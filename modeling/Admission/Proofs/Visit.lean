import Admission.Proofs.Mirror

/-!
# Visited places

A walk through a value under a schema visits places: the root first, and from each place its
branches, each with everything below it before the next. What the walk reports is gathered from
what the rules report at the visited places, in that order.

* `Visit`, `Visit.next`, `Validator.visits`: a place, one step down, and all places in pre-order.
* `Validator.visits_invariant`: what holds at a place and passes to the next ones holds at all.
* `Validator.visits_stretch`: what is visited from a visited place on is visited in one stretch.
* `Validator.walk_eq_visits`: **a walk reports what is reported at the visited places.**
* `Validator.visits_preorder`: no place comes behind a place inside it, and none comes twice.
* `Validator.visits_value`, `Validator.visits_old`: a visited value lies where its way leads, and so
  does the old value beside it.
* `Validator.visited_data`: what holds of data and passes to their parts holds of all that is
  visited.
* `Validator.visited_none`: the places do not depend on the old value.
* `SchemaNode.Alike.visits`: the same places are visited under nodes that are alike.
-/

namespace Admission

open SchemaNode Datum

variable {σ τ : Type} [SchemaNode σ] [SchemaNode τ]

/-- A visited place: the way to it, the node that governs it, the value there, and the old value
that is compared with it. -/
structure Visit (σ : Type) where
  way : List Edge
  node : σ
  value : Datum
  old : Option Datum

namespace Visit

/-- The path of the place. -/
def path (v : Visit σ) : Text := pathOf v.way

/-- The place of a branch. The old value goes along the same edge. -/
def down (v : Visit σ) (b : Validator.Branch σ) : Visit σ :=
  ⟨v.way ++ [b.edge], b.node, b.value, v.old.bind (·.along? b.edge)⟩

/-- The places of the branches, in their order. -/
def next (v : Visit σ) : List (Visit σ) := (Validator.branches v.node v.value).map v.down

/-- What the rules of the place report. -/
def report (v : Visit σ) : Except Bridge.Fault (List Violation) :=
  Validator.checkRules v.node v.path v.value v.old

/-- Places get smaller on the way down. -/
theorem next_lt {v w : Visit σ} (h : w ∈ v.next) : sizeOf w.value < sizeOf v.value := by
  obtain ⟨b, hb, rfl⟩ := List.mem_map.1 h
  exact Validator.branches_lt hb

omit [SchemaNode σ] in
theorem down_path (v : Visit σ) (b : Validator.Branch σ) :
    (v.down b).path = b.edge.step.join v.path := pathOf_concat v.way b.edge

end Visit

namespace Validator

/-- **The visited places from a place on,** in pre-order: the place itself, then all that is
visited from its first branch on, from its second, and so on. -/
def visits (v : Visit σ) : List (Visit σ) :=
  v :: v.next.attach.flatMap fun w => visits w.1
termination_by sizeOf v.value
decreasing_by exact Visit.next_lt w.2

theorem visits_eq (v : Visit σ) : visits v = v :: v.next.flatMap visits := by
  rw [visits]
  simp

/-- What is visited from a next place on is visited from the place on. -/
theorem mem_visits_of_next {u v w : Visit σ} (hw : w ∈ v.next) (hu : u ∈ visits w) :
    u ∈ visits v := by
  rw [visits_eq]
  exact List.mem_cons_of_mem v (List.mem_flatMap.2 ⟨w, hw, hu⟩)

theorem self_mem_visits (v : Visit σ) : v ∈ visits v := by
  rw [visits_eq]
  exact List.mem_cons_self

/-- **What holds at a place and passes on to the next ones holds at every visited place.** -/
theorem visits_invariant {Q : Visit σ → Prop} (step : ∀ v, Q v → ∀ w ∈ v.next, Q w)
    {v : Visit σ} (hv : Q v) : ∀ w ∈ visits v, Q w := by
  intro w hw
  rw [visits_eq, List.mem_cons, List.mem_flatMap] at hw
  rcases hw with rfl | ⟨u, hu, hw⟩
  · exact hv
  · have := Visit.next_lt hu
    exact visits_invariant step (step v hv u hu) w hw
termination_by sizeOf v.value

/-- **What is visited from a visited place on is visited in one stretch.** -/
theorem visits_stretch {v w : Visit σ} (h : w ∈ visits v) : visits w <:+: visits v := by
  rw [visits_eq v, List.mem_cons, List.mem_flatMap] at h
  rcases h with rfl | ⟨u, hu, hw⟩
  · exact List.infix_rfl
  · have := Visit.next_lt hu
    have hmem := List.mem_map_of_mem (f := visits) hu
    rw [visits_eq v, List.flatMap_def]
    have hbelow := List.infix_of_mem_flatten hmem
    exact (visits_stretch hw).trans (hbelow.trans (List.suffix_cons v _).isInfix)
termination_by sizeOf v.value

/-- **A walk reports what is reported at the visited places,** in their order, and stops where the
first of them does. -/
theorem walk_eq_visits (v : Visit σ) :
    walk v.node v.path v.old v.value = (visits v).flatMapM Visit.report := by
  rw [walk_eq, visits_eq, List.flatMapM_cons, List.flatMapM_flatMap, Visit.next, List.flatMapM_map]
  have hb : (branches v.node v.value).flatMapM (walkBranch v.path v.old) =
      (branches v.node v.value).flatMapM fun b => (visits (v.down b)).flatMapM Visit.report := by
    -- below each branch the statement holds of the place of the branch
    refine List.flatMapM_congr fun b hb => ?_
    have := branches_lt hb
    rw [← walk_eq_visits (v.down b), v.down_path]
    rfl
  rw [hb]
  rfl
termination_by sizeOf v.value

/-! ### Order -/

/-- The way to a visited place goes on from where the visit began. -/
theorem prefix_of_mem_visits {v w : Visit σ} (h : w ∈ visits v) : v.way <+: w.way := by
  refine visits_invariant (Q := fun w => v.way <+: w.way) (fun u hu w hw => ?_)
    (List.prefix_refl v.way) w h
  obtain ⟨b, -, rfl⟩ := List.mem_map.1 hw
  exact hu.trans (List.prefix_append u.way [b.edge])

/-- **Pre-order.** No place comes behind a place inside it, and no place comes twice. -/
theorem visits_preorder {P : σ → Prop} (hP : Regular P) {v : Visit σ} (hn : P v.node)
    (hd : v.value.WellKeyed) : (visits v).Pairwise fun u w => ¬ w.way <+: u.way := by
  rw [visits_eq, List.pairwise_cons]
  refine ⟨fun w hw => ?_, ?_⟩
  · -- whatever comes behind the root lies below a branch
    obtain ⟨u, hu, hw⟩ := List.mem_flatMap.1 hw
    obtain ⟨b, -, rfl⟩ := List.mem_map.1 hu
    have hlen := (prefix_of_mem_visits hw).length_le
    intro h
    have := h.length_le
    simp only [Visit.down, List.length_append, List.length_cons, List.length_nil] at hlen
    omega
  · rw [Visit.next, List.flatMap_map, List.pairwise_flatMap]
    refine ⟨fun b hb => ?_, (branches_edges hP hn hd).imp fun {b c} hne u hu w hw h => hne ?_⟩
    · have := branches_lt hb
      exact visits_preorder hP (hP.of_mem_branches hn hb) (hd.of_part (part_of_mem_branches hb))
    · -- the ways below two branches part at their edges
      have hb := prefix_of_mem_visits hu
      have hc := (prefix_of_mem_visits hw).trans h
      have hbc := List.prefix_of_prefix_length_le hb hc (by simp [Visit.down])
      simpa [Visit.down] using hbc
termination_by sizeOf v.value

/-! ### Ways -/

/-- **The old value at a visited place lies where its way leads** in the old value of the whole. -/
theorem visits_old {v w : Visit σ} (h : w ∈ visits v) :
    ∃ way, w.way = v.way ++ way ∧ w.old = v.old.bind (·.follow? way) := by
  refine visits_invariant (Q := fun w => ∃ way, w.way = v.way ++ way ∧
    w.old = v.old.bind (·.follow? way)) ?_ ⟨[], by simp, by simp⟩ w h
  rintro u ⟨way, hway, hold⟩ w hw
  obtain ⟨b, -, rfl⟩ := List.mem_map.1 hw
  exact ⟨way ++ [b.edge], by simp [Visit.down, hway],
    by simp [Visit.down, hold, follow?_append, Option.bind_assoc]⟩

/-- **A visited value lies where its way leads,** where no map has a key twice. -/
theorem visits_value {v w : Visit σ} (hd : v.value.WellKeyed) (h : w ∈ visits v) :
    ∃ way, w.way = v.way ++ way ∧ v.value.follow? way = some w.value := by
  refine (visits_invariant (Q := fun w => w.value.WellKeyed ∧ ∃ way, w.way = v.way ++ way ∧
    v.value.follow? way = some w.value) ?_ ⟨hd, [], by simp, rfl⟩ w h).2
  rintro u ⟨hu, way, hway, hval⟩ w hw
  obtain ⟨b, hb, rfl⟩ := List.mem_map.1 hw
  refine ⟨hu.of_part (part_of_mem_branches hb), way ++ [b.edge], by simp [Visit.down, hway], ?_⟩
  simp [follow?_append, hval, along?_of_mem_branches hu hb, Visit.down]

/-! ### Places without old values -/

end Validator

/-- The place without an old value. -/
def Visit.alone (v : Visit σ) : Visit σ := { v with old := none }

theorem Visit.next_alone (v : Visit σ) : v.alone.next = v.next.map Visit.alone := by
  rw [Visit.next, Visit.next, List.map_map]
  rfl

namespace Validator

/-- **The same places are visited with an old value and without.** -/
theorem visits_alone (v : Visit σ) : visits v.alone = (visits v).map Visit.alone := by
  rw [visits_eq, visits_eq, v.next_alone, List.flatMap_map, List.map_cons, List.map_flatMap]
  congr 1
  refine List.flatMap_congr fun w hw => ?_
  have := Visit.next_lt hw
  exact visits_alone w
termination_by sizeOf v.value

/-! ### Whole validations -/

/-- The places that a validation visits under a root node. There may be no root; an old value that
is null counts as none. -/
def visited (root : Option σ) (new : Datum) (old : Option Datum) : List (Visit σ) :=
  root.elim [] fun node => visits ⟨[], node, new, oldRoot old⟩

/-- The root is visited. -/
theorem root_mem_visited (node : σ) (new : Datum) (old : Option Datum) :
    ⟨[], node, new, oldRoot old⟩ ∈ visited (some node) new old := by
  rw [visited, Option.elim_some]
  exact self_mem_visits _

theorem eq_some_of_oldRoot {old : Option Datum} {o : Datum} (h : oldRoot old = some o) :
    old = some o ∧ o ≠ .null := by
  unfold oldRoot at h
  split at h
  · cases h
  · rename_i hnull
    exact ⟨h, fun hn => hnull (hn ▸ h)⟩

/-- **What holds at the root and passes on holds at every place that a validation visits.** -/
theorem visited_invariant {Q : Visit σ → Prop} (step : ∀ v, Q v → ∀ w ∈ v.next, Q w)
    {root : Option σ} {new : Datum} {old : Option Datum}
    (hroot : ∀ node, root = some node → Q ⟨[], node, new, oldRoot old⟩) :
    ∀ v ∈ visited root new old, Q v := by
  cases root with
  | none => exact fun v hv => (nomatch hv)
  | some node => exact visits_invariant step (hroot node rfl)

/-- A validation visits the same places beside any old value as beside none. -/
theorem visited_none (root : Option σ) (new : Datum) (old : Option Datum) :
    visited root new none = (visited root new old).map Visit.alone := by
  cases root with
  | none => rfl
  | some node => exact visits_alone ⟨[], node, new, oldRoot old⟩

/-- The nodes of visited places are nodes of the schema. -/
theorem visited_reaches {root : Option σ} {new : Datum} {old : Option Datum} :
    ∀ v ∈ visited root new old, ∃ node, root = some node ∧ Reaches node v.node := by
  refine visited_invariant (Q := fun v => ∃ node, root = some node ∧ Reaches node v.node) ?_
    fun node h => ⟨node, h, .root⟩
  rintro v ⟨node, hroot, hv⟩ w hw
  obtain ⟨b, hb, rfl⟩ := List.mem_map.1 hw
  exact ⟨node, hroot, hv.of_mem_branches hb⟩

/-- **What holds of data and passes to their parts holds of all that is visited,** old values
included. -/
theorem visited_data {Q : Datum → Prop} (part : ∀ {d d'}, Q d → IsPart d' d → Q d')
    {root : Option σ} {new : Datum} {old : Option Datum} (hn : Q new)
    (ho : ∀ o, old = some o → Q o) :
    ∀ v ∈ visited root new old, Q v.value ∧ ∀ o, v.old = some o → Q o := by
  refine visited_invariant (Q := fun v : Visit σ => Q v.value ∧ ∀ o, v.old = some o → Q o) ?_
    fun node _ => ⟨hn, fun o h => ho o (eq_some_of_oldRoot h).1⟩
  rintro v ⟨hv, hold⟩ w hw
  obtain ⟨b, hb, rfl⟩ := List.mem_map.1 hw
  refine ⟨part hv (part_of_mem_branches hb), fun o h => ?_⟩
  obtain ⟨o', ho', he⟩ := Option.bind_eq_some_iff.1 h
  exact part (hold o' ho') (part_of_along? he)

/-- A validation reports what is reported at the places that it visits under the document. -/
theorem validate_eq_visited (c : Context) (schema : Document) (new : Datum) (old : Option Datum) :
    validate c schema new old =
      (visited (RawSchema.wrap? c schema) new old).flatMapM Visit.report := by
  rw [validate]
  cases RawSchema.wrap? c schema with
  | none => rfl
  | some node => exact walk_eq_visits ⟨[], node, new, oldRoot old⟩

/-- The validation with a compiled tree reports what is reported at the places that are visited
under the document. -/
theorem validateCompiled_compile (c : Context) (schema : Document) (new : Datum)
    (old : Option Datum) : validateCompiled (CompiledSchema.compile c schema) new old =
      (visited (RawSchema.wrap? c schema) new old).flatMapM Visit.report := by
  rw [validateCompiled, walk_compile]
  cases RawSchema.wrap? c schema with
  | none => rfl
  | some node => exact walk_eq_visits ⟨[], node, new, oldRoot old⟩

/-- The same of a compiled schema. -/
theorem validateCompiled_eq_visited (schema : CompiledSchema) (new : Datum) (old : Option Datum) :
    validateCompiled schema new old = (visited (some schema) new old).flatMapM Visit.report :=
  walk_eq_visits ⟨[], schema, new, oldRoot old⟩

end Validator

/-! ### Visits under other nodes -/

/-- A place with its node mapped. -/
def Visit.mirrored (f : σ → τ) (v : Visit σ) : Visit τ := ⟨v.way, f v.node, v.value, v.old⟩

namespace SchemaNode.Alike

variable {f : σ → τ}

theorem next (hf : Alike f) (v : Visit σ) :
    (v.mirrored f).next = v.next.map (Visit.mirrored f) := by
  rw [Visit.next, Visit.next, List.map_map]
  change (Validator.branches (f v.node) v.value).map _ = _
  rw [hf.branches, List.map_map]
  rfl

/-- **The same places are visited under nodes that are alike.** -/
theorem visits (hf : Alike f) (v : Visit σ) :
    Validator.visits (v.mirrored f) = (Validator.visits v).map (Visit.mirrored f) := by
  rw [Validator.visits_eq, Validator.visits_eq, hf.next, List.flatMap_map, List.map_cons,
    List.map_flatMap]
  congr 1
  refine List.flatMap_congr fun w hw => ?_
  have := Visit.next_lt hw
  exact hf.visits w
termination_by sizeOf v.value

/-- Whole validations visit the same places under roots that are alike. -/
theorem visited (hf : Alike f) (root : Option σ) (new : Datum) (old : Option Datum) :
    Validator.visited (root.map f) new old =
      (Validator.visited root new old).map (Visit.mirrored f) := by
  cases root with
  | none => rfl
  | some node => exact hf.visits ⟨[], node, new, Validator.oldRoot old⟩

end SchemaNode.Alike

/-- A mirrored place reports what the place reports. -/
theorem SchemaNode.Mirror.report {f : σ → τ} (hf : Mirror f) (v : Visit σ) :
    (v.mirrored f).report = v.report := hf.checkRules v.node v.path v.value v.old

namespace Validator

/-- Below a tree that asks for nothing, nothing is visited. -/
theorem visits_blank (way : List Edge) (d : Datum) (old : Option Datum) :
    visits ⟨way, CompiledSchema.blank, d, old⟩ = [⟨way, CompiledSchema.blank, d, old⟩] := by
  rw [visits_eq, Visit.next]
  cases d <;> rfl

/-- **The places with rules that are visited under a compiled tree** are mirrored from places that
are visited under the document. -/
theorem exists_of_mem_visited_compile {c : Context} {schema : Document} {new : Datum}
    {old : Option Datum} {v : Visit CompiledSchema}
    (h : v ∈ visited (some (CompiledSchema.compile c schema)) new old) (hr : rules v.node ≠ []) :
    ∃ w ∈ visited (RawSchema.wrap? c schema) new old, w.mirrored RawSchema.compiled = v := by
  cases schema with
  | object members =>
    have hmir := RawSchema.mirror_compiled.alike.visits ⟨[], ⟨c, members⟩, new, oldRoot old⟩
    exact List.mem_map.1 (hmir ▸ h)
  | _ =>
    -- the tree of what is no object has no rules, and is visited at the root alone
    have h : v ∈ visits ⟨[], CompiledSchema.blank, new, oldRoot old⟩ := h
    rw [visits_blank, List.mem_singleton] at h
    subst h
    exact absurd rfl hr

end Validator

end Admission
