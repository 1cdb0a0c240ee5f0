import Admission.Proofs.Answer
import Admission.Proofs.Refusal

/-!
# Refused data are contained

A datum without a value, somewhere in what is validated, keeps the rules around it from being
asked: each of them is violated, with its default message. All other places are reported as if it
were not there.

* `Rule.check_unbound`, `Visit.answers_of_holdsRefused`: what is reported where no values are bound.
* `Visit.answers_of_not_holdsRefused`: what is reported where they are.
* `Validator.Leads`, `Validator.node_eq_of_way_eq`: a way leads to one node, whatever is validated.
* `Validator.Contained`: what it means that refused data are contained in a report.
* `Validator.validate_contained`: **every validation contains the refused data that it meets.**
-/

namespace Admission

open SchemaNode Datum

variable {σ : Type} [SchemaNode σ]

/-! ### Places with refused data -/

/-- Without bindings, a rule that is not skipped is violated, with its default message. -/
theorem Rule.check_unbound (r : Rule) (hasOld : Bool) (path : Text) :
    r.check none hasOld path =
      if r.isSkipped hasOld then none else some (r.violation path r.defaultMessage) := by
  rw [check]
  cases he : r.expression? with
  | none =>
    -- what has no program does not compare with an old value
    have hskip : r.isSkipped hasOld = false := by
      rw [isSkipped, isTransition, he, Bool.false_and, Bool.false_and]
    rw [hskip]
    rfl
  | some p => rfl

namespace Visit

variable {v : Visit σ}

/-- **Something refused is held at the place,** in its value or in its old value. -/
def HoldsRefused (v : Visit σ) : Prop :=
  Bridge.HoldsRefused v.value ∨ ∃ o, v.old = some o ∧ Bridge.HoldsRefused o

/-- An integer in one of the values at the place, or in a key there, is beyond every float. -/
def Outsized (v : Visit σ) : Prop := v.value.Outsized ∨ ∃ o, v.old = some o ∧ o.Outsized

/-- Where something refused is held, no values are bound. -/
theorem bindings?_of_holdsRefused (h : v.HoldsRefused) : v.bindings? = none := by
  rw [bindings?]
  cases hx : Bridge.convert (some v.node) v.value with
  | error f => rfl
  | ok x =>
    cases hy : Validator.oldValue v.node v.old with
    | error f => rfl
    | ok y =>
      -- both would have values, but one of them holds something refused
      rcases h with hvalue | ⟨o, ho, hold⟩
      · exact absurd hx (Bridge.convert_ne_ok_of_holdsRefused hvalue _ x)
      · rw [ho] at hy
        exact absurd hy (Bridge.convert_ne_ok_of_holdsRefused hold _ y)

/-- **Where something refused is held,** each rule that is not skipped is violated once, with its
default message. -/
theorem answers_of_holdsRefused (h : v.HoldsRefused) : v.answers =
    ((rules v.node).filter fun r => !r.isSkipped v.old.isSome).map fun r =>
      r.violation v.path r.defaultMessage := by
  rw [answers_eq, bindings?_of_holdsRefused h, ← List.filterMap_eq_map, List.filterMap_filter]
  refine List.filterMap_congr fun r _ => ?_
  rw [r.check_unbound]
  cases r.isSkipped v.old.isSome <;> rfl

/-- **Where nothing refused is held,** the rules are asked about the values at the place. -/
theorem answers_of_not_holdsRefused (hsize : ¬ v.Outsized) (h : ¬ v.HoldsRefused) :
    ∃ x y, Bridge.convert (some v.node) v.value = .ok x ∧
      Validator.oldValue v.node v.old = .ok y ∧
      v.answers = (rules v.node).filterMap fun r =>
        r.check (some (bindings x y)) v.old.isSome v.path := by
  obtain ⟨x, hx⟩ := Bridge.exists_convert_of_not_holdsRefused (fun hv => hsize (.inl hv))
    (fun hv => h (.inl hv)) (some v.node)
  obtain ⟨y, hy⟩ : ∃ y, Validator.oldValue v.node v.old = .ok y := by
    cases ho : v.old with
    | none => exact ⟨.null, rfl⟩
    | some o =>
      exact Bridge.exists_convert_of_not_holdsRefused (fun hv => hsize (.inr ⟨o, ho, hv⟩))
        (fun hv => h (.inr ⟨o, ho, hv⟩)) (some v.node)
  refine ⟨x, y, hx, hy, ?_⟩
  have hbound : v.bindings? = some (bindings x y) := by
    rw [bindings?, hx, hy]
    rfl
  rw [answers_eq, hbound]

/-- **A place without an outsized integer reports its answers,** refused data or not. -/
theorem report_of_not_outsized (h : ¬ v.Outsized) : v.report = .ok v.answers := by
  refine report_eq_answers (Bridge.convert_ne_tooLarge (fun hv => h (.inl hv)) _) ?_
  cases ho : v.old with
  | none => exact fun hstop => nomatch hstop
  | some o => exact Bridge.convert_ne_tooLarge (fun hv => h (.inr ⟨o, ho, hv⟩)) _

end Visit

namespace Validator

/-! ### One way, one node -/

/-- **An edge leads from a node to one node,** whatever the values are. -/
theorem node_eq_of_edge_eq {P : σ → Prop} (hP : Regular P) {node : σ} (hn : P node) {d d' : Datum}
    {b b' : Branch σ} (hb : b ∈ branches node d) (hb' : b' ∈ branches node d')
    (h : b.edge = b'.edge) : b.node = b'.node := by
  -- a declared name is not one of the other keys
  have hdeclared : ∀ name child, (name, child) ∈ properties node →
      ¬ isAdditional node (.text name) := by
    intro name child hp hother
    rw [isAdditional, hP.declared hn _ hp] at hother
    cases hother
  cases mem_branches_iff.1 hb with
  | declared hp _ =>
    cases mem_branches_iff.1 hb' with
    | declared hp' _ =>
      obtain rfl := Datum.text.inj (Edge.key.inj h)
      have hchild := Document.lookup_of_mem hp (hP.nodup hn)
      have hchild' := Document.lookup_of_mem hp' (hP.nodup hn)
      exact Option.some.inj (hchild.symm.trans hchild')
    | other _ hk _ => exact absurd (Edge.key.inj h ▸ hk) (hdeclared _ _ hp)
    | item _ _ => cases h
  | other hc hk _ =>
    cases mem_branches_iff.1 hb' with
    | declared hp' _ => exact absurd (Edge.key.inj h ▸ hk) (hdeclared _ _ hp')
    | other hc' _ _ => exact Option.some.inj (hc.symm.trans hc')
    | item _ _ => cases h
  | item hc _ =>
    cases mem_branches_iff.1 hb' with
    | declared _ _ | other _ _ _ => cases h
    | item hc' _ => exact Option.some.inj (hc.symm.trans hc')

/-- **A way leads from a root to a node:** along the branches of some values. -/
inductive Leads (root : σ) : List Edge → σ → Prop
  | root : Leads root [] root
  | branch {way node d b} (h : Leads root way node) (hb : b ∈ branches node d) :
      Leads root (way ++ [b.edge]) b.node

theorem Leads.regular {P : σ → Prop} (hP : Regular P) {root node : σ} {way : List Edge}
    (h : Leads root way node) (hroot : P root) : P node := by
  induction h with
  | root => exact hroot
  | branch _ hb ih => exact hP.of_mem_branches ih hb

/-- A way leads to one node. -/
theorem Leads.unique {P : σ → Prop} (hP : Regular P) {root node node' : σ} {way way' : List Edge}
    (hroot : P root) (h : Leads root way node) (h' : Leads root way' node') (hway : way = way') :
    node = node' := by
  induction h generalizing way' node' with
  | root =>
    cases h' with
    | root => rfl
    | branch _ _ => simp at hway
  | branch h hb ih =>
    cases h' with
    | root => simp at hway
    | branch h' hb' =>
      obtain ⟨hbefore, hedge⟩ := List.append_inj' hway rfl
      obtain rfl := ih h' hbefore
      exact node_eq_of_edge_eq hP (h.regular hP hroot) hb hb' (List.head_eq_of_cons_eq hedge)

/-- The ways of visited places lead to their nodes. -/
theorem visited_leads {root : Option σ} {new : Datum} {old : Option Datum} :
    ∀ v ∈ visited root new old, ∃ node, root = some node ∧ Leads node v.way v.node := by
  refine visited_invariant (Q := fun v => ∃ node, root = some node ∧ Leads node v.way v.node) ?_
    fun node h => ⟨node, h, .root⟩
  rintro v ⟨node, hroot, hv⟩ w hw
  obtain ⟨b, hb, rfl⟩ := List.mem_map.1 hw
  exact ⟨node, hroot, hv.branch hb⟩

/-- **Under one root, a way leads to one node,** whatever is validated. -/
theorem node_eq_of_way_eq {P : σ → Prop} (hP : Regular P) {root : Option σ}
    (hroot : ∀ n, root = some n → P n) {new new' : Datum} {old old' : Option Datum}
    {v w : Visit σ} (hv : v ∈ visited root new old) (hw : w ∈ visited root new' old')
    (h : v.way = w.way) : v.node = w.node := by
  obtain ⟨node, hnode, hlead⟩ := visited_leads v hv
  obtain ⟨node', hnode', hlead'⟩ := visited_leads w hw
  obtain rfl := Option.some.inj (hnode.symm.trans hnode')
  exact hlead.unique hP (hroot node hnode) hlead' h

/-! ### Whole validations -/

/-- **What it means that refused data are contained** in the report of a validation under a root. -/
structure Contained (root : Option σ) (new : Datum) (old : Option Datum)
    (report : List Violation) : Prop where
  /-- The report is the row of the answers at the visited places. -/
  report_eq : report = (visited root new old).flatMap Visit.answers
  /-- Where something refused is held, each rule that is not skipped is violated once, with its
  default message. -/
  refused : ∀ v ∈ visited root new old, v.HoldsRefused → v.answers =
    ((rules v.node).filter fun r => !r.isSkipped v.old.isSome).map fun r =>
      r.violation v.path r.defaultMessage
  /-- Where nothing refused is held, the rules are asked about the value and the old value there, as
  the node converts them. -/
  bound : ∀ v ∈ visited root new old, ¬ v.HoldsRefused → ∃ x y,
    Bridge.convert (some v.node) v.value = .ok x ∧ oldValue v.node v.old = .ok y ∧
      v.answers = (rules v.node).filterMap fun r =>
        r.check (some (bindings x y)) v.old.isSome v.path
  /-- From every place on, a walk by itself reports what is reported there as part of the whole. -/
  alone : ∀ v ∈ visited root new old, walk v.node v.path v.old v.value =
    .ok ((visits v).flatMap Visit.answers) ∧ (visits v).flatMap Visit.answers <:+: report
  /-- A place with the same values has the same answers, whatever else is validated, refused or
  not. -/
  unaffected : ∀ v ∈ visited root new old, ∀ new' old', ∀ w ∈ visited root new' old',
    w.way = v.way → w.value = v.value → w.old = v.old → w.answers = v.answers

/-- What is reported at places without outsized integers is the row of their answers. -/
theorem flatMapM_report_of_not_outsized {places : List (Visit σ)}
    (h : ∀ v ∈ places, ¬ v.Outsized) :
    places.flatMapM Visit.report = .ok (places.flatMap Visit.answers) :=
  List.flatMapM_eq_ok fun v hv => Visit.report_of_not_outsized (h v hv)

/-- Data without outsized integers are visited at places without any. -/
theorem visited_not_outsized {root : Option σ} {new : Datum} {old : Option Datum}
    (hn : ¬ new.Outsized) (ho : ∀ o, old = some o → ¬ o.Outsized) :
    ∀ v ∈ visited root new old, ¬ v.Outsized := by
  intro v hv
  obtain ⟨hvalue, hold⟩ := visited_data (Q := fun d => ¬ d.Outsized)
    (fun hd hp h => hd (h.of_part hp)) hn ho v hv
  rintro (h | ⟨o, hov, h⟩)
  · exact hvalue h
  · exact hold o hov h

/-- A part of the visited places is answered in one stretch of the report. -/
theorem flatMap_answers_stretch {places places' : List (Visit σ)} (h : places <:+: places') :
    places.flatMap Visit.answers <:+: places'.flatMap Visit.answers := by
  obtain ⟨before, after, rfl⟩ := h
  rw [List.flatMap_append, List.flatMap_append]
  exact List.infix_append _ _ _

/-- Under a root of a regular family, what is visited without outsized integers is contained. -/
theorem visited_contained {P : σ → Prop} (hP : Regular P) {root : Option σ}
    (hroot : ∀ n, root = some n → P n) {new : Datum} {old : Option Datum}
    (hsize : ∀ v ∈ visited root new old, ¬ v.Outsized) :
    Contained root new old ((visited root new old).flatMap Visit.answers) where
  report_eq := rfl
  refused _ _ h := Visit.answers_of_holdsRefused h
  bound v hv h := Visit.answers_of_not_holdsRefused (hsize v hv) h
  alone v hv := by
    have hstretch : visits v <:+: visited root new old := by
      cases root with
      | none => cases hv
      | some node => exact visits_stretch hv
    have hbelow : ∀ w ∈ visits v, ¬ w.Outsized := fun w hw => hsize w (hstretch.subset hw)
    rw [walk_eq_visits, flatMapM_report_of_not_outsized hbelow]
    exact ⟨rfl, flatMap_answers_stretch hstretch⟩
  unaffected v hv new' old' w hw hway hvalue hold := by
    -- a way leads to one node, so places of one way with the same data are the same
    have hnode := node_eq_of_way_eq hP hroot hw hv hway
    have hsame : w = v := by
      obtain ⟨way, node, value, old⟩ := v
      obtain ⟨way', node', value', old'⟩ := w
      simp only at hway hnode hvalue hold
      rw [hway, hnode, hvalue, hold]
    rw [hsame]

/-- **Every validation contains the refused data that it meets.** Let no object of the schema have a
key twice, and let no integer in the value or in the old value be beyond every float. Then the
validation comes to an end, with the document as with the tree compiled from it, and refused data
are contained in its report. -/
theorem validate_contained (c : Context) {schema : Document} (hs : schema.wellKeyed) {new : Datum}
    {old : Option Datum} (hn : ¬ new.Outsized) (ho : ∀ o, old = some o → ¬ o.Outsized) :
    ∃ report, validate c schema new old = .ok report ∧
      validateCompiled (CompiledSchema.compile c schema) new old = .ok report ∧
      Contained (RawSchema.wrap? c schema) new old report := by
  have hsize : ∀ v ∈ visited (RawSchema.wrap? c schema) new old, ¬ v.Outsized :=
    visited_not_outsized hn ho
  have hreport := flatMapM_report_of_not_outsized hsize
  refine ⟨_, ?_, ?_, visited_contained RawSchema.regular
    (fun _ h => RawSchema.wellKeyed_of_wrap? hs h) hsize⟩
  · rw [validate_eq_visited, hreport]
  · rw [validateCompiled_compile, hreport]

/-- A schema for lists of parcels, with a rule for the list and two for each parcel. -/
def parcelSchema : Document :=
  .object [
    ("x-kubernetes-validations", .list [.object [("rule", .text "size(self) > 0")]]),
    ("items", .object [("x-kubernetes-validations",
      .list [.object [("rule", .text "self == oldSelf")], .object [("rule", .text "self > 2")]])])]

/-- A thing that rules know nothing about. -/
def emptySet : Foreign := ⟨"set", 0, "set()", "set()"⟩

/-- A list of parcels, the first of which is such a thing. -/
def parcels : Datum := .list [.foreign emptySet, .int 1, .int 2]

/-- What has been there before: the second parcel was such a thing, and there was no third. -/
def oldParcels : Datum := .list [.int 1, .foreign emptySet]

theorem parcels_not_outsized : ¬ parcels.Outsized := by
  have hone : ¬ (Datum.int 1).Outsized := fun h => absurd (outsized_int.1 h) (by decide +kernel)
  have htwo : ¬ (Datum.int 2).Outsized := fun h => absurd (outsized_int.1 h) (by decide +kernel)
  have hset : ¬ (Datum.foreign emptySet).Outsized := fun h => nomatch h
  simp [parcels, outsized_list, hone, htwo, hset]

theorem oldParcels_not_outsized : ¬ oldParcels.Outsized := by
  have hone : ¬ (Datum.int 1).Outsized := fun h => absurd (outsized_int.1 h) (by decide +kernel)
  have hset : ¬ (Datum.foreign emptySet).Outsized := fun h => nomatch h
  simp [oldParcels, outsized_list, hone, hset]

/-- The list holds something refused, so its own rule is violated, and so are the rules of the first
two parcels. The third is checked all the same. -/
theorem validate_contained_parcels :
    parcelSchema.wellKeyed ∧ ¬ parcels.Outsized ∧ ¬ oldParcels.Outsized ∧
      Bridge.HoldsRefused parcels ∧
      ∃ report, validate .plain parcelSchema parcels (some oldParcels) = .ok report ∧
        validateCompiled (CompiledSchema.compile .plain parcelSchema) parcels
          (some oldParcels) = .ok report ∧
        Contained (RawSchema.wrap? .plain parcelSchema) parcels (some oldParcels) report := by
  have hwithin : (Datum.foreign emptySet).Within parcels :=
    (Within.refl parcels).part (.item List.mem_cons_self)
  have hkeyed : parcelSchema.wellKeyed := by decide
  have hold : ∀ o, some oldParcels = some o → ¬ o.Outsized :=
    fun o h => Option.some.inj h ▸ oldParcels_not_outsized
  exact ⟨hkeyed, parcels_not_outsized, oldParcels_not_outsized,
    ⟨_, hwithin, Bridge.refused_foreign emptySet⟩,
    validate_contained .plain hkeyed parcels_not_outsized hold⟩

/-- The places of a list with refused parcels, and what is reported there. -/
example : (validate .plain parcelSchema parcels (some oldParcels)).toOption.map
    (List.map fun e => (e.fieldPath, e.message)) = some ([
      ("", "failed rule: size(self) > 0"), ("[0]", "failed rule: self == oldSelf"),
      ("[0]", "failed rule: self > 2"), ("[1]", "failed rule: self == oldSelf"),
      ("[1]", "failed rule: self > 2"), ("[2]", "failed rule: self > 2")] :
        List (Text × Text)) := by
  decide +kernel

end Validator

end Admission
