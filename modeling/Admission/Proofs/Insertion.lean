import Mathlib.Data.List.InsertIdx
import Admission.Proofs.Entries

/-!
# One more entry

An entry that is put among those of a node, be it a declaration or not, is asked wherever the node
governs a place. It has its say between its neighbours, and no other rule answers otherwise for it.

* `Document.insertEntry`: a schema with one more entry among those of a node.
* `Placed.rules_withEntry`: the node has one more rule, and all others have the rules they had.
* `Visit.occasions_withEntry`: **what is asked at a place, less the entry, is what was asked
  before.**
* `Validator.AddsEntry`: what it means that a report differs from another one by an entry.
* `Validator.validate_insertEntry`: **with one more entry, a validation reports what it did, and
  what the entry has to say.**
-/

namespace Admission

open SchemaNode Datum

/-- **The schema with one more entry** among those of the node at a position: at an index of their
list, if there is a list with that index. -/
def Document.insertEntry (schema : Document) (pos : List SchemaStep) (i : Nat) (d : Document) :
    Document :=
  schema.mapEntries fun q entries => if q = pos then entries.insertIdx i d else entries

/-- An entry between two others, at a property. -/
example (a b d : Document) :
    (Document.object [("properties", .object [
      ("p", .object [("x-kubernetes-validations", .list [a, b])])])]).insertEntry
        [.property "p"] 1 d =
        .object [("properties", .object [
          ("p", .object [("x-kubernetes-validations", .list [a, d, b])])])] := rfl

/-! ### Lists with one more element -/

/-- The elements of a list but one, told by their indices. -/
theorem filter_zipIdx_ne {α : Type} (l : List α) (i : Nat) :
    (l.zipIdx.filter fun a => a.2 != i).map Prod.fst = l.eraseIdx i := by
  suffices ∀ k, ((l.zipIdx k).filter fun a => a.2 != k + i).map Prod.fst = l.eraseIdx i by
    simpa using this 0
  induction l generalizing i with
  | nil => intro k; rfl
  | cons a l ih =>
    intro k
    rw [List.zipIdx_cons]
    cases i with
    | zero =>
      -- all indices behind the first one are greater
      have hrest : ∀ p ∈ l.zipIdx (k + 1), (p.2 != k) = true := by
        intro p hp
        have := List.le_snd_of_mem_zipIdx hp
        rw [bne_iff_ne]
        omega
      simp [List.filter_eq_self.2 hrest, List.zipIdx_map_fst]
    | succ i =>
      have hsucc : k + (i + 1) = k + 1 + i := by omega
      have hne : k ≠ k + 1 + i := by omega
      rw [hsucc, List.eraseIdx_cons_succ, ← ih i (k + 1)]
      simp [hne]

/-- What is kept of a list, at an index and around it. -/
theorem filterMap_eq_of_getElem? {α β : Type} (f : α → Option β) {l : List α} {i : Nat} {a : α}
    (h : l[i]? = some a) :
    l.filterMap f = (l.take i).filterMap f ++ (f a).toList ++ (l.drop (i + 1)).filterMap f := by
  obtain ⟨hi, rfl⟩ := List.getElem?_eq_some_iff.1 h
  conv_lhs => rw [← List.take_append_drop i l, ← List.getElem_cons_drop hi]
  rw [List.filterMap_append, List.filterMap_cons, List.append_assoc]
  cases f l[i] <;> rfl

/-! ### Rules with one more entry -/

section Entry

variable (pos : List SchemaStep) (i : Nat) (d : Document)

/-- A node of the schema, as it is with one more entry. -/
def Placed.withEntry : Placed RawSchema → Placed RawSchema :=
  Placed.mapEntries fun q entries => if q = pos then entries.insertIdx i d else entries

/-- All other nodes have the rules they had. -/
theorem Placed.rules_withEntry_of_ne {p : Placed RawSchema} (h : p.position ≠ pos) :
    rules (p.withEntry pos i d) = rules p := by
  rw [withEntry, rules_mapEntries]
  simp only [if_neg h, Option.map_id']
  exact p.rules_eq.symm

/-- **The node has the rule of the entry more, at its index,** if it has a list of entries, and else
none. -/
theorem Placed.rules_withEntry {p : Placed RawSchema} (h : p.position = pos) :
    rules (p.withEntry pos i d) = (rules p).insertIdx i (Rule.compile p.node.context d) ∨
      rules (p.withEntry pos i d) = [] ∧ rules p = [] := by
  rw [withEntry, rules_mapEntries, p.rules_eq]
  cases p.node.entries? with
  | none => exact .inr ⟨rfl, rfl⟩
  | some entries =>
    left
    simp only [if_pos h, Option.map_some, Option.getD_some]
    exact List.map_insertIdx _ entries i d

/-- Without the one at the index, these are the rules that the node had. -/
theorem Placed.eraseIdx_rules_withEntry {p : Placed RawSchema} (h : p.position = pos) :
    (rules (p.withEntry pos i d)).eraseIdx i = rules p := by
  rcases p.rules_withEntry pos i d h with hr | ⟨hr, hp⟩
  · rw [hr, List.eraseIdx_insertIdx_self]
  · rw [hr, hp, List.eraseIdx_nil]

/-- The one at the index, if there is one, is the rule of the entry. -/
theorem Placed.getElem?_rules_withEntry {p : Placed RawSchema} (h : p.position = pos)
    (hi : i < (rules (p.withEntry pos i d)).length) :
    (rules (p.withEntry pos i d))[i]? = some (Rule.compile p.node.context d) := by
  rcases p.rules_withEntry pos i d h with hr | ⟨hr, -⟩
  · rw [hr, List.length_insertIdx] at hi
    rw [hr, List.getElem?_insertIdx_self, if_pos]
    split at hi
    · assumption
    · omega
  · simp [hr] at hi

/-- Where there were rules to ask, there still are. -/
theorem Placed.rules_withEntry_ne_nil {p : Placed RawSchema} (h : rules p ≠ []) :
    rules (p.withEntry pos i d) ≠ [] := by
  by_cases hp : p.position = pos
  · rw [← p.eraseIdx_rules_withEntry pos i d hp] at h
    exact fun hnil => h (by rw [hnil, List.eraseIdx_nil])
  · rwa [p.rules_withEntry_of_ne pos i d hp]

/-! ### Places with one more entry -/

variable {σ : Type} [SchemaNode σ]

/-- What a rule reports if it is asked at a place. -/
def Visit.ask (v : Visit σ) (r : Rule) : Option Violation :=
  r.check v.bindings? v.old.isSome v.path

/-- Whether the entry at an index of a node is asked on the occasion. -/
def Occasion.asksEntry (o : Occasion (Placed σ)) : Bool :=
  o.visit.node.position == pos && o.index == i

/-- The place under the node with one more entry. -/
def Visit.withEntry (v : Visit (Placed RawSchema)) : Visit (Placed RawSchema) :=
  v.mirrored (Placed.withEntry pos i d)

/-- Rules that are asked at the place answer as they did. -/
theorem Visit.ask_withEntry (v : Visit (Placed RawSchema)) :
    (v.withEntry pos i d).ask = v.ask := by
  funext r
  exact congrArg (r.check · v.old.isSome v.path) ((Placed.alike_mapEntries _).bindings? v)

/-- **What is asked at the place, less the entry, is what was asked before.** -/
theorem Visit.occasions_withEntry (v : Visit (Placed RawSchema)) :
    ((v.withEntry pos i d).occasions.filter fun o => !o.asksEntry pos i).filterMap
      Occasion.outcome = v.occasions.filterMap Occasion.outcome := by
  have hask : (Occasion.outcome ∘ fun r => ⟨v.withEntry pos i d, r.2, r.1⟩) =
      v.ask ∘ (Prod.fst : Rule × Nat → Rule) := by
    rw [← v.ask_withEntry pos i d]
    rfl
  rw [Validator.outcomes_eq, occasions, List.filter_map, List.filterMap_map, hask,
    ← List.filterMap_map]
  refine congrArg (List.filterMap v.ask) ?_
  change ((rules (v.node.withEntry pos i d)).zipIdx.filter fun r =>
    !(v.node.position == pos && r.2 == i)).map Prod.fst = rules v.node
  by_cases hp : v.node.position = pos
  · simp only [hp, beq_self_eq_true, Bool.true_and]
    rw [← v.node.eraseIdx_rules_withEntry pos i d hp]
    exact filter_zipIdx_ne _ i
  · simp only [beq_false_of_ne hp, Bool.false_and, Bool.not_false, List.filter_true]
    rw [v.node.rules_withEntry_of_ne pos i d hp, List.zipIdx_map_fst]

/-- Where the values convert with one more entry, they do without it. -/
theorem Visit.converts_of_withEntry {v : Visit (Placed RawSchema)}
    (h : (v.withEntry pos i d).Converts) : v.Converts := fun hr =>
  (Placed.alike_mapEntries _).converts_mirrored.1 h (v.node.rules_withEntry_ne_nil pos i d hr)

/-- **The entry has its say between its neighbours,** if it stands in the list of the node. -/
theorem Visit.outcomes_withEntry {v w : Visit (Placed RawSchema)} (h : v.node.position = pos)
    (hw : w = v.withEntry pos i d) (hi : i < (rules w.node).length) :
    w.occasions.filterMap Occasion.outcome = ((rules w.node).take i).filterMap w.ask ++
      (w.ask (Rule.compile v.node.node.context d)).toList ++
        ((rules w.node).drop (i + 1)).filterMap w.ask := by
  subst hw
  rw [Validator.outcomes_eq]
  exact filterMap_eq_of_getElem? _ (v.node.getElem?_rules_withEntry pos i d h hi)

end Entry

/-! ### Whole validations -/

namespace Validator

variable {σ : Type} [SchemaNode σ]

/-- **What it means that a report differs from another one by an entry** at an index of a node,
where the two are made at the same places under schemas without the entry and with it. -/
structure AddsEntry (pos : List SchemaStep) (i : Nat) (entry : Rule)
    (before after : List (Visit (Placed σ))) (report report' : List Violation) : Prop where
  /-- The places are the same, governed by nodes at the same positions. -/
  same_places : (after.map fun v => (v.way, v.node.position, v.value, v.old)) =
    before.map fun v => (v.way, v.node.position, v.value, v.old)
  /-- The reports are what is reported on all occasions at these places. -/
  report_eq : report = (before.flatMap Visit.occasions).filterMap Occasion.outcome
  report'_eq : report' = (after.flatMap Visit.occasions).filterMap Occasion.outcome
  /-- At each place that the node governs, the entry reports at most one violation, behind those of
  the entries before it and before those of the entries behind it. -/
  between : ∀ v ∈ after, v.node.position = pos → i < (rules v.node).length →
    v.occasions.filterMap Occasion.outcome = ((rules v.node).take i).filterMap v.ask ++
      (v.ask entry).toList ++ ((rules v.node).drop (i + 1)).filterMap v.ask
  /-- What is reported with the entry, on all occasions but its own, is the report without it. -/
  deleted : ((after.flatMap Visit.occasions).filter fun o => !o.asksEntry pos i).filterMap
    Occasion.outcome = report

/-- **With one more entry, a validation reports what it did, and what the entry has to say.** Let
the values convert wherever there are rules to ask, with the entry. Then the validations without it
and with it come to an end, with the documents as with the trees compiled from them, and their
reports differ by the entry. -/
theorem validate_insertEntry (c : Context) (pos : List SchemaStep) (i : Nat) (d schema : Document)
    (new : Datum) (old : Option Datum)
    (hb : ∀ v ∈ places c (schema.insertEntry pos i d) new old, v.Converts) :
    ∃ report report',
      (validate c schema new old = .ok report ∧
        validateCompiled (CompiledSchema.compile c schema) new old = .ok report) ∧
      (validate c (schema.insertEntry pos i d) new old = .ok report' ∧
        validateCompiled (CompiledSchema.compile c (schema.insertEntry pos i d)) new old =
          .ok report') ∧
      AddsEntry pos i (Rule.compile c d) (places c schema new old)
        (places c (schema.insertEntry pos i d) new old) report report' := by
  -- the walk does not look at rules, so it visits the same places
  have hplaces : places c (schema.insertEntry pos i d) new old =
      (places c schema new old).map (Visit.withEntry pos i d) :=
    places_mapEntries _ c schema new old
  have hbefore : ∀ v ∈ places c schema new old, v.Converts := by
    rw [hplaces, List.forall_mem_map] at hb
    exact fun v hv => Visit.converts_of_withEntry pos i d (hb v hv)
  refine ⟨_, _, validate_of_converts hbefore, validate_of_converts hb, ?_⟩
  rw [hplaces]
  exact {
    same_places := by
      rw [List.map_map]
      rfl
    report_eq := rfl
    report'_eq := rfl
    between := List.forall_mem_map.2 fun v hv hpos hi => by
      rw [← places_context v hv]
      exact Visit.outcomes_withEntry pos i d (v := v) hpos rfl hi
    deleted := by
      rw [List.flatMap_map, List.filter_flatMap, List.filterMap_flatMap, List.filterMap_flatMap]
      exact List.flatMap_congr fun v _ => v.occasions_withEntry pos i d }

/-- A schema for the items of a list, with two entries. -/
def itemSchema : Document :=
  .object [("items", .object [("x-kubernetes-validations",
    .list [.object [("rule", .text "self > 1")], .object [("rule", .text "self <")]])])]

/-- A list with an item that the schema reports in two ways, and one that it reports in one. -/
def itemList : Document := .list [.int 0, .int 2]

/-- What is no declaration: it has no rule, but a message. -/
def strayEntry : Document := .object [("message", .text "stray")]

theorem stray_converts :
    ∀ v ∈ places .plain (itemSchema.insertEntry [.items] 1 strayEntry)
      (ofDocument itemList) none, v.Converts :=
  visited_converts_ofDocument itemList none (by decide +kernel) (by decide +kernel)

/-- An entry that is no declaration, between two others, in the schema of the items of a list. -/
theorem validate_insertEntry_stray :
    (∀ v ∈ places .plain (itemSchema.insertEntry [.items] 1 strayEntry)
      (ofDocument itemList) none, v.Converts) ∧
    ∃ report report',
      (validate .plain itemSchema (ofDocument itemList) none = .ok report ∧
        validateCompiled (CompiledSchema.compile .plain itemSchema)
          (ofDocument itemList) none = .ok report) ∧
      (validate .plain (itemSchema.insertEntry [.items] 1 strayEntry)
          (ofDocument itemList) none = .ok report' ∧
        validateCompiled (CompiledSchema.compile .plain
          (itemSchema.insertEntry [.items] 1 strayEntry))
            (ofDocument itemList) none = .ok report') ∧
      AddsEntry [.items] 1 (Rule.compile .plain strayEntry)
        (places .plain itemSchema (ofDocument itemList) none)
        (places .plain (itemSchema.insertEntry [.items] 1 strayEntry)
          (ofDocument itemList) none) report report' :=
  ⟨stray_converts, validate_insertEntry .plain [.items] 1 strayEntry itemSchema _ none
    stray_converts⟩

end Validator

end Admission
