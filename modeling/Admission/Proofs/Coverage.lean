import Admission.Proofs.Overflow
import Admission.Proofs.Regular
import Admission.Proofs.Visit

/-!
# Coverage

A validation asks every rule of every visited place once. Its report is the row of the answers,
in pre-order of the places and in the order of the rules at a place.

* `Occasion`, `Occasion.outcome`: a rule at a place, and what it reports there.
* `Validator.report_eq_outcomes`: what is reported at a place, rule by rule.
* `Validator.Covers`: what it means for a report to cover visited places.
* `Validator.visited_converts`: data with values convert wherever they are visited.
* `Validator.validate_covers`: **every validation covers the places that it visits.**
-/

namespace Admission

open SchemaNode Datum

variable {σ : Type} [SchemaNode σ]

/-! ### Rules at places -/

/-- An occasion to report: a rule at a visited place, with its index there. -/
structure Occasion (σ : Type) where
  visit : Visit σ
  index : Nat
  rule : Rule

namespace Visit

/-- The rules of a place, in the order of their declaration. -/
def occasions (v : Visit σ) : List (Occasion σ) :=
  (rules v.node).zipIdx.map fun r => ⟨v, r.2, r.1⟩

/-- The bindings at a place: `self` is the value there and `oldSelf` the old one, null if there is
none, each as the node of the place converts it. -/
def bindings? (v : Visit σ) : Option Bindings := do
  let new ← (Bridge.convert (some v.node) v.value).toOption
  let old ← (Validator.oldValue v.node v.old).toOption
  return bindings new old

/-- Whether the values at a place convert, if there is a rule to ask. -/
def Converts (v : Visit σ) : Prop :=
  rules v.node ≠ [] → (∃ x, Bridge.convert (some v.node) v.value = .ok x) ∧
    ∀ o, v.old = some o → ∃ y, Bridge.convert (some v.node) o = .ok y

/-- An integer in one of the values at a place is beyond every float. -/
def Overflows (v : Visit σ) : Prop := v.value.Overflows ∨ ∃ o, v.old = some o ∧ o.Overflows

end Visit

section Alike

variable {τ : Type} [SchemaNode τ] {f : σ → τ}

/-- Values are bound under nodes that are alike as under the nodes. -/
theorem SchemaNode.Alike.bindings? (hf : Alike f) (v : Visit σ) :
    (v.mirrored f).bindings? = v.bindings? := by
  rw [Visit.bindings?, Visit.bindings?]
  simp only [Visit.mirrored, hf.convert_some, hf.oldValue]

/-- Where there are rules under a node that is alike, values convert as they do under the node. -/
theorem SchemaNode.Alike.converts_mirrored (hf : Alike f) {v : Visit σ} :
    (v.mirrored f).Converts ↔ (rules (f v.node) ≠ [] →
      (∃ x, Bridge.convert (some v.node) v.value = .ok x) ∧
        ∀ o, v.old = some o → ∃ y, Bridge.convert (some v.node) o = .ok y) := by
  rw [Visit.Converts]
  simp only [Visit.mirrored, hf.convert_some]

end Alike

/-- What the rule reports on an occasion. -/
def Occasion.outcome (o : Occasion σ) : Option Violation :=
  o.rule.check o.visit.bindings? o.visit.old.isSome o.visit.path

/-- Whatever a rule reports is its violation at the path. -/
theorem Rule.check_eq_some {r : Rule} {env : Option Bindings} {hasOld : Bool} {path : Text}
    {e : Violation} (h : r.check env hasOld path = some e) : ∃ m, e = r.violation path m := by
  rw [Rule.check] at h
  split at h
  · exact ⟨_, (Option.some.inj h).symm⟩
  · split at h
    · cases h
    · split at h
      · exact ⟨_, (Option.some.inj h).symm⟩
      · split at h
        · cases h
        · exact ⟨_, (Option.some.inj h).symm⟩

/-- The violation of a rule that points to no part is at the path itself. -/
theorem Rule.violation_fieldPath {r : Rule} (h : r.declaration.fieldPath.getD "" = "")
    (path message : Text) : (r.violation path message).fieldPath = path := by
  rw [Rule.violation]
  cases hp : r.declaration.fieldPath with
  | none => rfl
  | some relative =>
    rw [hp] at h
    exact if_pos h

namespace Validator

/-- Where values convert, they are bound. -/
theorem activation?_eq_ok {node : σ} {new : Datum} {old : Option Datum} {x y : Value}
    (hx : Bridge.convert (some node) new = .ok x) (hy : oldValue node old = .ok y) :
    activation? node new old = .ok (some (bindings x y)) := by
  simp only [activation?, hx, hy]

/-- A place asks each of its rules once. -/
theorem outcomes_eq (v : Visit σ) : v.occasions.filterMap Occasion.outcome =
    (rules v.node).filterMap fun r => r.check v.bindings? v.old.isSome v.path := by
  conv_rhs => rw [← List.zipIdx_map_fst 0 (rules v.node)]
  rw [Visit.occasions, List.filterMap_map, List.filterMap_map]
  rfl

/-- **What is reported at a place is what its rules report,** one after the other. -/
theorem report_eq_outcomes {v : Visit σ} (h : v.Converts) :
    v.report = .ok (v.occasions.filterMap Occasion.outcome) := by
  rw [outcomes_eq, Visit.report, checkRules]
  cases hr : rules v.node with
  | nil => rfl
  | cons r rs =>
    obtain ⟨⟨x, hx⟩, hold⟩ := h (by rw [hr]; exact List.cons_ne_nil r rs)
    obtain ⟨y, hy⟩ : ∃ y, oldValue v.node v.old = .ok y := by
      cases ho : v.old with
      | none => exact ⟨_, rfl⟩
      | some o => exact hold o ho
    have hb : v.bindings? = some (bindings x y) := by
      rw [Visit.bindings?, hx, hy]
      rfl
    simp only [activation?_eq_ok hx hy, hb]
    rfl

/-! ### Coverage -/

/-- **What it means for a report to cover visited places:** the report holds the answers of the
rules at these places, in the order of the places and of the rules. -/
structure Covers (places : List (Visit σ)) (report : List Violation) : Prop where
  /-- The report is the row of all answers. -/
  report_eq : report = (places.flatMap Visit.occasions).filterMap Occasion.outcome
  /-- No place comes behind a place inside it, and none comes twice. -/
  preorder : places.Pairwise fun v w => ¬ w.way <+: v.way
  /-- An occasion comes behind those at the places around it and behind those of the rules declared
  before at its own place, and none comes twice. -/
  inOrder : (places.flatMap Visit.occasions).Pairwise fun o p =>
    ¬ p.visit.way <+: o.visit.way ∨ p.visit.way = o.visit.way ∧ o.index < p.index
  /-- A rule that points to no part reports at the path of its place. -/
  path_eq : ∀ o ∈ places.flatMap Visit.occasions, ∀ e, o.outcome = some e →
    o.rule.declaration.fieldPath.getD "" = "" →
      e.fieldPath = Location.pathOf (o.visit.way.map Edge.step)

/-- The occasions of places in pre-order are in order. -/
theorem occasions_inOrder {places : List (Visit σ)}
    (h : places.Pairwise fun v w => ¬ w.way <+: v.way) :
    (places.flatMap Visit.occasions).Pairwise fun o p =>
      ¬ p.visit.way <+: o.visit.way ∨ p.visit.way = o.visit.way ∧ o.index < p.index := by
  rw [List.pairwise_flatMap]
  -- first two rules of one place, then rules of two places
  refine ⟨fun v _ => ?_, h.imp fun {v w} hvw o ho p hp => ?_⟩
  · have hlt : ((rules v.node).zipIdx.map Prod.snd).Pairwise (· < ·) := by
      rw [List.zipIdx_map_snd]
      exact List.pairwise_lt_range'
    exact List.pairwise_map.2 ((List.pairwise_map.1 hlt).imp fun hij => .inr ⟨rfl, hij⟩)
  · obtain ⟨-, -, rfl⟩ := List.mem_map.1 ho
    obtain ⟨-, -, rfl⟩ := List.mem_map.1 hp
    exact .inl hvw

/-- The report of places in pre-order that convert covers them. -/
theorem covers_of_preorder {places : List (Visit σ)}
    (h : places.Pairwise fun v w => ¬ w.way <+: v.way) :
    Covers places ((places.flatMap Visit.occasions).filterMap Occasion.outcome) where
  report_eq := rfl
  preorder := h
  inOrder := occasions_inOrder h
  path_eq o _ e he hp := by
    obtain ⟨m, rfl⟩ := Rule.check_eq_some he
    exact Rule.violation_fieldPath hp _ m

/-- What is reported at places that convert is what their rules report. -/
theorem flatMapM_report {places : List (Visit σ)} (h : ∀ v ∈ places, v.Converts) :
    places.flatMapM Visit.report =
      .ok ((places.flatMap Visit.occasions).filterMap Occasion.outcome) := by
  rw [List.flatMapM_eq_ok fun v hv => report_eq_outcomes (h v hv), List.filterMap_flatMap]

/-- **What is visited under a root of a regular family is covered,** where all values convert. -/
theorem visited_covers {P : σ → Prop} (hP : Regular P) {root : Option σ}
    (hroot : ∀ n, root = some n → P n) {new : Datum} (hn : new.WellKeyed) {old : Option Datum}
    (hb : ∀ v ∈ visited root new old, v.Converts) :
    ∃ report, (visited root new old).flatMapM Visit.report = .ok report ∧
      Covers (visited root new old) report := by
  refine ⟨_, flatMapM_report hb, covers_of_preorder ?_⟩
  cases root with
  | none => exact .nil
  | some n => exact visits_preorder (v := ⟨[], n, new, oldRoot old⟩) hP (hroot n rfl) hn

/-! ### Data with values -/

/-- **Data with values convert wherever they are visited.** -/
theorem visited_converts {root : Option σ} {new : Datum} {old : Option Datum}
    (hnew : Bridge.HasValue new) (hold : ∀ o, old = some o → Bridge.HasValue o) :
    ∀ v ∈ visited root new old, v.Converts := by
  intro v hv _
  obtain ⟨hval, ho⟩ := visited_data Bridge.HasValue.of_part hnew hold v hv
  exact ⟨(Bridge.exists_convert_iff _).2 hval,
    fun o h => (Bridge.exists_convert_iff _).2 (ho o h)⟩

/-- At a place where JSON does not overflow, it converts. -/
theorem converts_of_not_overflows {v : Visit σ} (hj : v.value.IsJson)
    (ho : ∀ o, v.old = some o → o.IsJson) (h : ¬ v.Overflows) : v.Converts := by
  refine fun _ => ⟨(Bridge.convert_stopsIff hj _).ok_iff.2 fun hv => h (.inl hv), fun o hold => ?_⟩
  exact (Bridge.convert_stopsIff (ho o hold) _).ok_iff.2 fun hv => h (.inr ⟨o, hold, hv⟩)

/-- **Documents that do not overflow convert wherever they are visited.** -/
theorem visited_converts_ofDocument {root : Option σ} (new : Document) (old : Option Document)
    (hnew : ¬ (ofDocument new).Overflows) (hold : ∀ o ∈ old, ¬ (ofDocument o).Overflows) :
    ∀ v ∈ visited root (ofDocument new) (old.map ofDocument), v.Converts := by
  have hvalue : ∀ d : Document, ¬ (ofDocument d).Overflows → Bridge.HasValue (ofDocument d) :=
    fun d => (Bridge.plain_stopsIff ⟨d, rfl⟩).ok_iff.2
  refine visited_converts (hvalue new hnew) fun o h => ?_
  obtain ⟨d, hd, rfl⟩ := Option.map_eq_some_iff.1 h
  exact hvalue d (hold d hd)

/-! ### Raw and compiled schemas -/

/-- Values convert under mirrored nodes as under the nodes. -/
theorem converts_mirrored {τ : Type} [SchemaNode τ] {f : σ → τ} (hf : Mirror f) {v : Visit σ}
    (h : v.Converts) : (v.mirrored f).Converts :=
  hf.alike.converts_mirrored.2 fun hr => h (by rwa [hf.rules] at hr)

/-- Where all values convert under a document, they do under the tree compiled from it. -/
theorem converts_compile {c : Context} {schema : Document} {new : Datum} {old : Option Datum}
    (hb : ∀ v ∈ visited (RawSchema.wrap? c schema) new old, v.Converts) :
    ∀ v ∈ visited (some (CompiledSchema.compile c schema)) new old, v.Converts := by
  intro v hv hr
  obtain ⟨w, hw, rfl⟩ := exists_of_mem_visited_compile hv hr
  exact converts_mirrored RawSchema.mirror_compiled (hb w hw) hr

/-- **Every validation covers the places that it visits.** Let no object of the schema and no map of
the value have a key twice, and let the values convert wherever there are rules to ask. Then the
validation comes to an end, with the document as with the tree compiled from it, and its report
covers the visited places of both. -/
theorem validate_covers (c : Context) {schema : Document} (hs : schema.wellKeyed) {new : Datum}
    (hn : new.WellKeyed) (old : Option Datum)
    (hb : ∀ v ∈ visited (RawSchema.wrap? c schema) new old, v.Converts) :
    ∃ report, validate c schema new old = .ok report ∧
      validateCompiled (CompiledSchema.compile c schema) new old = .ok report ∧
      Covers (visited (RawSchema.wrap? c schema) new old) report ∧
      Covers (visited (some (CompiledSchema.compile c schema)) new old) report := by
  obtain ⟨report, hr, hcov⟩ := visited_covers RawSchema.regular
    (fun _ h => RawSchema.wellKeyed_of_wrap? hs h) hn hb
  obtain ⟨report', hr', hcov'⟩ := visited_covers CompiledSchema.regular
    (fun _ h => Option.some.inj h ▸ CompiledSchema.wellKeyed_compile c hs) hn (converts_compile hb)
  rw [← validateCompiled_eq_visited] at hr'
  -- both walks come to the same report
  obtain rfl : report = report' := by
    rw [validateCompiled_compile, hr] at hr'
    exact Except.ok.inj hr'
  rw [← validate_eq_visited] at hr
  exact ⟨report, hr, hr', hcov, hcov'⟩

/-- A schema with a declared property, one that is declared without a node, further properties and
items. -/
def sampleSchema : Document :=
  let checked (rule : Text) : Text × Document :=
    ("x-kubernetes-validations", .list [.object [("rule", .text rule)]])
  .object [
    checked "size(self) > 9",
    ("properties", .object [("free", .bool true), ("name", .object [checked "self == oldSelf"])]),
    ("additionalProperties", .object [("items", .object [checked "self"])])]

/-- An object with all these parts. -/
def sampleObject : Document :=
  .object [("tags", .list [.text "a", .int 1]), ("free", .int 2), ("name", .text "b")]

/-- An object with some of them. -/
def sampleOld : Document := .object [("name", .text "c"), ("tags", .text "a")]

theorem sample_converts : ∀ v ∈ visited (RawSchema.wrap? .plain sampleSchema)
    (ofDocument sampleObject) (some (ofDocument sampleOld)), v.Converts :=
  visited_converts_ofDocument sampleObject (some sampleOld) (by decide +kernel) (by decide +kernel)

/-- The validation of a changed object covers the places of all kinds. -/
theorem validate_covers_sample :
    sampleSchema.wellKeyed ∧ (ofDocument sampleObject).WellKeyed ∧
      (∀ v ∈ visited (RawSchema.wrap? .plain sampleSchema) (ofDocument sampleObject)
        (some (ofDocument sampleOld)), v.Converts) ∧
      ∃ report, validate .plain sampleSchema (ofDocument sampleObject)
          (some (ofDocument sampleOld)) = .ok report ∧
        validateCompiled (CompiledSchema.compile .plain sampleSchema) (ofDocument sampleObject)
          (some (ofDocument sampleOld)) = .ok report ∧
        Covers (visited (RawSchema.wrap? .plain sampleSchema) (ofDocument sampleObject)
          (some (ofDocument sampleOld))) report ∧
        Covers (visited (some (CompiledSchema.compile .plain sampleSchema))
          (ofDocument sampleObject) (some (ofDocument sampleOld))) report :=
  ⟨by decide, wellKeyed_ofDocument (by decide), sample_converts,
    validate_covers .plain (by decide) (wellKeyed_ofDocument (by decide)) _ sample_converts⟩

end Validator

end Admission
