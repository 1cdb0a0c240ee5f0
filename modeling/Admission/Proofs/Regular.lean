import Admission.Proofs.Mirror

/-!
# Schemas without a property twice

A document in which no object has a key twice declares no property twice, at no node, and neither
does the tree that is compiled from it.

* `RawSchema.WellKeyed`, `RawSchema.regular`: such documents.
* `SchemaNode.Mirror.regular`: families of nodes stay families when they are mirrored.
* `CompiledSchema.WellKeyed`, `CompiledSchema.regular`: such trees.
-/

namespace Admission

open SchemaNode

namespace RawSchema

/-- Whether no object in the document that is viewed has a key twice. -/
def WellKeyed (s : RawSchema) : Prop := (Document.object s.members).wellKeyed

theorem WellKeyed.mem {s : RawSchema} (hs : s.WellKeyed) : ∀ m ∈ s.members, m.2.wellKeyed :=
  (Document.wellKeyed_object.1 hs).2

theorem wellKeyed_of_wrap? {c : Context} {d : Document} (hd : d.wellKeyed) {s : RawSchema}
    (h : wrap? c d = some s) : s.WellKeyed := by
  cases d with
  | object members => cases h; exact hd
  | _ => cases h

/-- The documents of the declared properties have no key twice either. -/
theorem WellKeyed.declared {s : RawSchema} (hs : s.WellKeyed) :
    ∀ p ∈ s.declared, p.2.wellKeyed := by
  intro p hp
  have hp := (Document.distinct_sublist _).mem hp
  rw [membersOf] at hp
  cases hd : s.members.lookup ("properties" : Text) with
  | none => simp [hd] at hp
  | some d =>
    rw [hd] at hp
    cases d with
    | object members =>
      exact (Document.wellKeyed_object.1 (hs.mem _ (Document.mem_of_lookup hd))).2 p hp
    | _ => simp [Document.members?] at hp

theorem WellKeyed.nodeAt? {s : RawSchema} (hs : s.WellKeyed) {key : Text} {child : RawSchema}
    (h : s.nodeAt? key = some child) : child.WellKeyed := by
  obtain ⟨d, hd, hw⟩ := Option.bind_eq_some_iff.1 h
  exact wellKeyed_of_wrap? (hs.mem _ (Document.mem_of_lookup hd)) hw

/-- **Views of documents without a key twice declare no property twice.** -/
theorem regular : Validator.Regular RawSchema.WellKeyed where
  nodup {s} hs := by
    have hdistinct := List.pairwise_map.1 (Document.nodup_distinct (membersOf
      (s.members.lookup ("properties" : Text))))
    refine List.pairwise_map.2 (List.Pairwise.filterMap _ ?_ hdistinct)
    intro a b hab p hp q hq
    obtain ⟨_, -, rfl⟩ := Option.map_eq_some_iff.1 hp
    obtain ⟨_, -, rfl⟩ := Option.map_eq_some_iff.1 hq
    exact hab
  declared {s} hs p hp := by
    obtain ⟨d, hd, -⟩ := mem_nodes.1 hp
    exact List.lookup_isSome_iff.2 ⟨_, hd, beq_self_eq_true p.1⟩
  property {s} hs p hp := by
    obtain ⟨d, hd, hw⟩ := mem_nodes.1 hp
    exact wellKeyed_of_wrap? (hs.declared _ hd) hw
  item hs h := hs.nodeAt? h
  additional hs h := hs.nodeAt? h

end RawSchema

/-- A family of nodes stays one when it is mirrored. -/
theorem SchemaNode.Mirror.regular {σ τ : Type} [SchemaNode σ] [SchemaNode τ] {f : σ → τ}
    (hf : Mirror f) {P : σ → Prop} (hP : Validator.Regular P) :
    Validator.Regular fun t => ∃ n, P n ∧ f n = t where
  nodup := by
    rintro _ ⟨n, hn, rfl⟩
    rw [hf.properties, List.map_map]
    exact hP.nodup hn
  declared := by
    rintro _ ⟨n, hn, rfl⟩ p hp
    rw [hf.properties] at hp
    obtain ⟨q, hq, rfl⟩ := List.mem_map.1 hp
    rw [hf.hasProperty]
    exact hP.declared hn q hq
  property := by
    rintro _ ⟨n, hn, rfl⟩ p hp
    rw [hf.properties] at hp
    obtain ⟨q, hq, rfl⟩ := List.mem_map.1 hp
    exact ⟨q.2, hP.property hn q hq, rfl⟩
  item := by
    rintro _ child ⟨n, hn, rfl⟩ h
    rw [hf.items?] at h
    obtain ⟨m, hm, rfl⟩ := Option.map_eq_some_iff.1 h
    exact ⟨m, hP.item hn hm, rfl⟩
  additional := by
    rintro _ child ⟨n, hn, rfl⟩ h
    rw [hf.additional?] at h
    obtain ⟨m, hm, rfl⟩ := Option.map_eq_some_iff.1 h
    exact ⟨m, hP.additional hn hm, rfl⟩

namespace CompiledSchema

/-- A tree that was compiled from a document without a key twice. -/
def WellKeyed (t : CompiledSchema) : Prop := ∃ s : RawSchema, s.WellKeyed ∧ s.compiled = t

/-- **Compiled trees declare no property twice.** -/
theorem regular : Validator.Regular CompiledSchema.WellKeyed :=
  RawSchema.mirror_compiled.regular RawSchema.regular

theorem wellKeyed_compile (c : Context) {d : Document} (hd : d.wellKeyed) :
    (compile c d).WellKeyed := by
  cases d with
  | object members => exact ⟨⟨c, members⟩, hd, rfl⟩
  -- the tree of all other documents is that of the empty object
  | _ => exact ⟨⟨c, []⟩, by simp [RawSchema.WellKeyed], rfl⟩

end CompiledSchema

end Admission
