import Admission.Proofs.Entries
import Admission.Proofs.Spelling

/-!
# Schemas in two spellings

The address of a violation is where it is, why it is one, and which rule it violates. Validations
report at the same addresses whichever way the keys of entries are spelled, except where an entry
loses its field path.

* `Validator.addresses_checkRules`: reports have the same addresses if the answers of rules do.
* `Document.respelledEntries`: a schema in which keys of entries are spelled the second way.
* `Visit.addresses_respelled`, `Validator.addresses_respelledEntries`: one place, and all of them.
* `Validator.validate_respelled`: **both spellings mean the same,** where no path is lost.
* `Validator.validate_respelled_stray`: an entry that loses its path.
-/

namespace Admission

/-! ### Addresses of reports -/

namespace Validator

open SchemaNode

/-- The addresses of what is reported by rules, one by one. -/
theorem addresses_filterMap (rs : List Rule) (env : Option Bindings) (hasOld : Bool)
    (path : Text) : (rs.filterMap fun r => r.check env hasOld path).map Violation.address =
      (rs.map fun r => (r.check env hasOld path).map Violation.address).filterMap id := by
  rw [List.map_filterMap, List.filterMap_map]
  rfl

/-- Two nodes report at the same addresses about values that are bound alike, if their rules do. -/
theorem addresses_checkRules {σ τ : Type} [SchemaNode σ] [SchemaNode τ] {node : σ} {node' : τ}
    {path : Text} {new : Datum} {old : Option Datum}
    (hbound : activation? node' new old = activation? node new old)
    (hrules : ∀ env,
      (rules node').map (fun r => (r.check env old.isSome path).map Violation.address) =
        (rules node).map fun r => (r.check env old.isSome path).map Violation.address) :
    (checkRules node' path new old).map (List.map Violation.address) =
      (checkRules node path new old).map (List.map Violation.address) := by
  rw [checkRules, checkRules, hbound]
  -- values are bound only where there are rules, so either both nodes have some or neither has
  cases hr : rules node with
  | nil =>
    have hr' : rules node' = [] := by simpa [hr] using hrules none
    rw [hr']
  | cons r rs =>
    cases hr' : rules node' with
    | nil => simpa [hr, hr'] using hrules none
    | cons r' rs' =>
      rw [hr, hr'] at hrules
      cases activation? node new old with
      | error f => rfl
      | ok env =>
        refine congrArg Except.ok ?_
        rw [addresses_filterMap, addresses_filterMap, hrules env]

end Validator

/-! ### Schemas -/

/-- **The schema in which the keys of entries are spelled the second way,** entry by entry: the
function tells the keys, given the position of a node and the index of the entry there. -/
def Document.respelledEntries (which : List SchemaStep → Nat → Text → Bool) (schema : Document) :
    Document :=
  schema.mapEntries fun pos entries => entries.mapIdx fun i d => d.respelled (which pos i)

/-- A node whose entries have no second spellings, and lose no path. -/
def Placed.KeepsPaths (which : List SchemaStep → Nat → Text → Bool) (p : Placed RawSchema) :
    Prop :=
  ∀ i d, (p.node.entries?.getD [])[i]? = some d →
    d.FirstSpelled ∧ ¬ Rule.LosesPath (which p.position i) d

section Schema

variable {which : List SchemaStep → Nat → Text → Bool}

/-- A node with its entries spelled the second way. -/
def Placed.respelled (which : List SchemaStep → Nat → Text → Bool) :
    Placed RawSchema → Placed RawSchema :=
  Placed.mapEntries fun pos entries => entries.mapIdx fun i d => d.respelled (which pos i)

/-- **The rules of a node report at the same addresses** in both spellings, where no path is
lost. -/
theorem Placed.addresses_respelled {p : Placed RawSchema} (h : p.KeepsPaths which)
    (env : Option Bindings) (hasOld : Bool) (path : Text) :
    (SchemaNode.rules (p.respelled which)).map
        (fun r => (r.check env hasOld path).map Violation.address) =
      (SchemaNode.rules p).map fun r => (r.check env hasOld path).map Violation.address := by
  rw [Placed.respelled, Placed.rules_mapEntries, Placed.rules_eq]
  unfold Placed.KeepsPaths at h
  cases he : p.node.entries? with
  | none => rfl
  | some entries =>
    rw [he] at h
    refine List.ext_getElem? fun i => ?_
    simp only [Option.map_some, Option.getD_some, List.getElem?_map, List.getElem?_mapIdx]
    cases hd : entries[i]? with
    | none => rfl
    | some d =>
      obtain ⟨hfirst, hkeeps⟩ := h i d hd
      exact congrArg some (Rule.address_respelled _ hfirst hkeeps env hasOld path)

/-- **A place reports at the same addresses** in both spellings, where no path is lost. -/
theorem Visit.addresses_respelled {v : Visit (Placed RawSchema)} (h : v.node.KeepsPaths which) :
    (v.mirrored (Placed.respelled which)).report.map (List.map Violation.address) =
      v.report.map (List.map Violation.address) := by
  have hbound : Validator.activation? (v.node.respelled which) v.value v.old =
      Validator.activation? v.node v.value v.old :=
    (Placed.alike_mapEntries _).activation? v.node v.value v.old
  exact Validator.addresses_checkRules hbound fun env =>
    Placed.addresses_respelled h env v.old.isSome v.path

namespace Validator

/-- **Validations report at the same addresses** in both spellings, where no path is lost: the
violations that are reported have the same field paths, reasons and rules, in the same order. -/
theorem addresses_respelledEntries {c : Context} {schema : Document} {new : Datum}
    {old : Option Datum} (h : ∀ v ∈ places c schema new old, v.node.KeepsPaths which) :
    (validate c (schema.respelledEntries which) new old).map (List.map Violation.address) =
        (validate c schema new old).map (List.map Violation.address) ∧
      (validateCompiled (CompiledSchema.compile c (schema.respelledEntries which)) new old).map
          (List.map Violation.address) =
        (validateCompiled (CompiledSchema.compile c schema) new old).map
          (List.map Violation.address) := by
  -- the walk does not look at rules, so it visits the same places
  have hplaces : places c (schema.respelledEntries which) new old =
      (places c schema new old).map (Visit.mirrored (Placed.respelled which)) :=
    places_mapEntries _ c schema new old
  have hreport : ((places c (schema.respelledEntries which) new old).flatMapM Visit.report).map
      (List.map Violation.address) =
        ((places c schema new old).flatMapM Visit.report).map (List.map Violation.address) := by
    have hmap (f : Visit (Placed RawSchema) → Except Bridge.Fault (List Violation)) :
        ((places c schema new old).flatMapM f).map (List.map Violation.address) =
          (places c schema new old).flatMapM fun v => (f v).map (List.map Violation.address) :=
      List.map_flatMapM Violation.address f _
    rw [hplaces, List.flatMapM_map, hmap, hmap]
    exact List.flatMapM_congr fun v hv => Visit.addresses_respelled (h v hv)
  obtain ⟨hraw, htree⟩ := validate_eq_places c schema new old
  obtain ⟨hraw', htree'⟩ := validate_eq_places c (schema.respelledEntries which) new old
  rw [hraw, htree, hraw', htree']
  exact ⟨hreport, hreport⟩

/-- **Both spellings mean the same.** An object that has its keys in the first spelling only, be it
a declaration or not, becomes a rule that is alike if any of the keys are spelled the second way.
And if all entries at visited places are such objects, and none of them loses its path, then
validations report at the same addresses when keys of the entries are spelled the second way, entry
by entry, with the documents as with the trees compiled from them. -/
theorem validate_respelled (c : Context) :
    (∀ (which : Text → Bool) (d : Document), d.FirstSpelled → Rule.SpeltAlike c which d) ∧
    ∀ (which : List SchemaStep → Nat → Text → Bool) (schema : Document) (new : Datum)
      (old : Option Datum), (∀ v ∈ places c schema new old, v.node.KeepsPaths which) →
      (validate c (schema.respelledEntries which) new old).map (List.map Violation.address) =
          (validate c schema new old).map (List.map Violation.address) ∧
        (validateCompiled (CompiledSchema.compile c (schema.respelledEntries which)) new old).map
            (List.map Violation.address) =
          (validateCompiled (CompiledSchema.compile c schema) new old).map
            (List.map Violation.address) :=
  ⟨fun which _ h => Rule.speltAlike_of_firstSpelled c which h,
    fun _ _ _ _ h => addresses_respelledEntries h⟩

/-- A declaration with all three keys that have two spellings. -/
def pointingEntry : Document :=
  .object [("rule", .text "self.a > oldSelf.a"), ("fieldPath", .text ".a"),
    ("messageExpression", .text "'a is ' + string(self.a)"), ("optionalOldSelf", .bool true)]

/-- What is no declaration, as its rule is no text. -/
def crookedEntry : Document :=
  .object [("rule", .int 5), ("fieldPath", .text ".b"), ("messageExpression", .text "'b'")]

/-- The root of a schema with these two entries. -/
def pointingRoot : RawSchema :=
  ⟨.plain, [("x-kubernetes-validations", .list [pointingEntry, crookedEntry])]⟩

/-- All keys of the first entry, and all but the field path of the second one. -/
def allButOne (_ : List SchemaStep) (i : Nat) (name : Text) : Bool :=
  i == 0 || name != "fieldPath"

theorem keepsPaths_pointingRoot : (Placed.root pointingRoot).KeepsPaths allButOne := by
  have hentries : (Placed.root pointingRoot).node.entries? =
    some [pointingEntry, crookedEntry] := rfl
  intro i d hd
  rw [hentries, Option.getD_some] at hd
  match i with
  | 0 =>
    obtain rfl := Option.some.inj hd
    exact ⟨by decide, Rule.not_losesPath_of_ok rfl⟩
  | 1 =>
    obtain rfl := Option.some.inj hd
    exact ⟨by decide, fun hl => absurd hl.chosen (by decide)⟩
  | i + 2 => cases hd

/-- It is the only node of its schema. -/
theorem pointingRoot_of_reaches {n : Placed RawSchema}
    (h : Reaches (Placed.root pointingRoot) n) : n = Placed.root pointingRoot := by
  induction h with
  | root => rfl
  | property _ hp ih => subst ih; cases hp
  | item _ hc ih => subst ih; cases hc
  | additional _ hc ih => subst ih; cases hc

theorem keepsPaths_pointing (new : Datum) (old : Option Datum) :
    ∀ v ∈ places .plain (.object pointingRoot.members) new old,
      v.node.KeepsPaths allButOne := by
  intro v hv
  obtain ⟨root, hroot, hreach⟩ := visited_reaches _ hv
  obtain rfl : Placed.root pointingRoot = root := Option.some.inj hroot
  rw [pointingRoot_of_reaches hreach]
  exact keepsPaths_pointingRoot

/-- An object with too small a field, under a schema with the two entries in both spellings. -/
theorem validate_respelled_pointing :
    crookedEntry.FirstSpelled ∧
      Rule.SpeltAlike .plain (allButOne [] 1) crookedEntry ∧
      (∀ v ∈ places .plain (.object pointingRoot.members)
        (.map [(.text "a", .int 1)]) (some (.map [(.text "a", .int 2)])),
          v.node.KeepsPaths allButOne) ∧
      (validate .plain ((Document.object pointingRoot.members).respelledEntries allButOne)
          (.map [(.text "a", .int 1)]) (some (.map [(.text "a", .int 2)]))).map
          (List.map Violation.address) =
        .ok [("a", none, "self.a > oldSelf.a"), ("b", none, "")] := by
  have hfirst : crookedEntry.FirstSpelled := by decide
  have hkeeps := keepsPaths_pointing (.map [(.text "a", .int 1)])
    (some (.map [(.text "a", .int 2)]))
  obtain ⟨halike, hreport⟩ := validate_respelled .plain
  refine ⟨hfirst, halike _ _ hfirst, hkeeps, ?_⟩
  rw [(hreport _ _ _ _ hkeeps).1]
  decide +kernel

/-- What is no declaration, and says where it belongs. -/
def strayDeclaration : Document :=
  .object [("rule", .int 5), ("message", .text "m"), ("reason", .text "FieldValueInvalid"),
    ("fieldPath", .text ".a")]

/-- A schema with one entry, at a property. -/
def straySchema (d : Document) : Document :=
  .object [("properties", .object [("spec", .object [("x-kubernetes-validations", .list [d])])])]

/-- Spelled the second way it loses its field path, and is reported at the place itself. -/
theorem validate_respelled_stray :
    strayDeclaration.FirstSpelled ∧
      (Rule.compile .plain strayDeclaration).declaration.fieldPath = some (.plain ".a") ∧
      (Rule.compile .plain (strayDeclaration.respelled fun _ => true)).declaration.fieldPath =
        none ∧
      validate .plain (straySchema strayDeclaration)
        (.map [(.text "spec", .map [(.text "a", .int 1)])]) none =
          .ok [⟨"spec.a", "m", some "FieldValueInvalid", ""⟩] ∧
      validate .plain (straySchema (strayDeclaration.respelled fun _ => true))
        (.map [(.text "spec", .map [(.text "a", .int 1)])]) none =
          .ok [⟨"spec", "m", some "FieldValueInvalid", ""⟩] :=
  ⟨by decide, by decide +kernel, by decide +kernel, by decide +kernel, by decide +kernel⟩

end Validator

end Schema

end Admission
