import Admission.Manifest

/-!
# Extraction

A definition declares its schema in the first of its versions that has the wanted name, or in the
first one if no name is wanted. What is missing or counts as nothing on the way there is refused
with a reason; a part of the wrong kind is not, and nothing is said about it.

* `Part`, `Misfit`: what a part of a manifest is read as, and parts of the wrong kind.
* `Reads`: a function that gives the first and refuses the second.
* `Chosen`, `Reached`: the entry that is chosen among versions, and the entries that are looked at
  for that.
* `Promises`: the schema that a document promises for a version.
* `Extracted`: what it means that extraction keeps to what a document promises.
* `Refused`, `Misshapen`: why a manifest is refused, and which part of it is of the wrong kind.
* `Settled`, `settled_of_defines`: a definition has the promised schema, or it is refused, or it is
  misshapen.
* `schema_extracted_iff`: **extraction keeps to it iff no part that is looked at is of the wrong
  kind.**
-/

namespace Admission.Manifest

/-! ### Parts -/

section

variable {α : Type} {of : List α → Document} {part : Option Document} {xs : List α}

/-- What a part is read as: its contents, or nothing where it is missing or counts as nothing. -/
inductive Part (of : List α → Document) : Option Document → List α → Prop
  | whole (xs : List α) : Part of (some (of xs)) xs
  | missing : Part of none []
  | nothing {d : Document} (h : isNothing d) : Part of (some d) []

/-- A part is of the wrong kind: it counts as something and has no contents of the right one. -/
def Misfit (of : List α → Document) (part : Option Document) : Prop :=
  ∃ d, part = some d ∧ ¬ isNothing d ∧ ∀ xs, d ≠ of xs

theorem misfit_or_part (of : List α → Document) (part : Option Document) :
    Misfit of part ∨ ∃ xs, Part of part xs := by
  cases part with
  | none => exact .inr ⟨[], .missing⟩
  | some d =>
    by_cases hd : isNothing d
    · exact .inr ⟨[], .nothing hd⟩
    by_cases hof : ∃ xs, d = of xs
    · obtain ⟨xs, rfl⟩ := hof
      exact .inr ⟨xs, .whole xs⟩
    · exact .inl ⟨d, rfl, hd, fun xs h => hof ⟨xs, h⟩⟩

theorem Part.of_eq (h : part = some (of xs)) : Part of part xs := h ▸ .whole xs

/-- Contents are there only in a part of the right kind. -/
theorem Part.eq_of_ne_nil (h : Part of part xs) (hne : xs ≠ []) : part = some (of xs) := by
  cases h with
  | whole => rfl
  | missing | nothing => exact absurd rfl hne

/-- A function gives what parts are read as, and refuses parts of the wrong kind. -/
structure Reads (of : List α → Document) (read : Option Document → Except Fault (List α)) :
    Prop where
  part : ∀ {d : Option Document} {xs : List α}, Part of d xs → read d = .ok xs
  misfit : ∀ {d : Option Document}, Misfit of d → read d = .error .badShape

theorem Reads.of_eq {read : Option Document → Except Fault (List α)}
    (hempty : ∀ xs, isNothing (of xs) = xs.isEmpty) (hnone : read none = .ok [])
    (hof : ∀ xs, read (some (of xs)) = .ok xs)
    (hother : ∀ d, (∀ xs, d ≠ of xs) →
      read (some d) = if isNothing d then .ok [] else .error .badShape) : Reads of read where
  part h := by
    cases h with
    | whole => exact hof _
    | missing => exact hnone
    | @nothing d h =>
      by_cases hd : ∃ xs, d = of xs
      · obtain ⟨xs, rfl⟩ := hd
        obtain rfl : xs = [] := List.isEmpty_iff.1 ((hempty xs).symm.trans h)
        exact hof []
      · rw [hother d fun xs hxs => hd ⟨xs, hxs⟩, if_pos h]
  misfit h := by
    obtain ⟨d, rfl, hd, hne⟩ := h
    rw [hother d hne, if_neg hd]

theorem reads_membersOf : Reads .object membersOf :=
  .of_eq (fun _ => rfl) rfl (fun _ => rfl) fun d hd => by
    rw [membersOf]
    exact hd

theorem reads_itemsOf : Reads .list itemsOf :=
  .of_eq (fun _ => rfl) rfl (fun _ => rfl) fun d hd => by
    rw [itemsOf]
    exact hd

end

/-! ### Versions -/

section

variable {name : Option Text} {versions before after : List Document} {entry : Document}
  {version declared : List (Text × Document)}

/-- An entry has the name that is wanted, if one is. -/
def Wanted (name : Option Text) (entry : Document) : Prop :=
  ∀ n ∈ name, entry.member? "name" = some (.text n)

/-- **The entry that is chosen:** the first one that is wanted. -/
def Chosen (name : Option Text) (versions : List Document) (entry : Document) : Prop :=
  ∃ before after, versions = before ++ entry :: after ∧ (∀ d ∈ before, ¬ Wanted name d) ∧
    Wanted name entry

/-- An entry is passed over: it is an object, and not the wanted one. -/
def Passed (name : Option Text) (entry : Document) : Prop :=
  (∃ version, entry = .object version) ∧ ¬ Wanted name entry

/-- An entry is looked at: all entries before it are passed over. -/
def Reached (name : Option Text) (versions : List Document) (entry : Document) : Prop :=
  ∃ before after, versions = before ++ entry :: after ∧ ∀ d ∈ before, Passed name d

theorem exists_reached (h : ¬ ∀ d ∈ versions, Passed name d) :
    ∃ entry, Reached name versions entry ∧ ¬ Passed name entry := by
  classical
  cases hf : versions.find? (fun d => ¬ Passed name d) with
  | none => exact absurd (by simpa using List.find?_eq_none.1 hf) h
  | some entry =>
    obtain ⟨hentry, before, after, rfl, hbefore⟩ := List.find?_eq_some_iff_append.1 hf
    exact ⟨entry, ⟨before, after, rfl, by simpa using hbefore⟩, by simpa using hentry⟩

/-- The chosen entry is looked at, or one before it that is no object. -/
theorem Chosen.reached (h : Chosen name versions entry) :
    Reached name versions entry ∨
      ∃ d, Reached name versions d ∧ ∀ version, d ≠ .object version := by
  obtain ⟨before, after, rfl, hbefore, -⟩ := h
  by_cases hp : ∀ d ∈ before, Passed name d
  · exact .inl ⟨before, after, rfl, hp⟩
  · obtain ⟨d, ⟨front, back, rfl, hfront⟩, hd⟩ := exists_reached hp
    refine .inr ⟨d, ⟨front, back ++ entry :: after, by simp, hfront⟩, fun version hv => ?_⟩
    exact hd ⟨⟨version, hv⟩, hbefore d (by simp)⟩

theorem isNamed_iff {n : Text} :
    isNamed n version = true ↔ version.lookup ("name" : Text) = some (.text n) := by
  rw [isNamed]
  split
  · next s hs => simp [hs]
  · next hs => simpa using hs n

theorem schemaAmong_of_wanted (h : Wanted name (.object version)) :
    schemaAmong name (.object version :: after) = versionSchema version := by
  cases name with
  | none => rfl
  | some n => rw [schemaAmong, if_pos (isNamed_iff.2 (h n rfl))]

theorem schemaAmong_of_passed (h : Passed name entry) :
    schemaAmong name (entry :: after) = schemaAmong name after := by
  obtain ⟨⟨version, rfl⟩, hw⟩ := h
  cases name with
  | none => exact absurd nofun hw
  | some n =>
    rw [schemaAmong, if_neg fun hn => hw ?_]
    rintro _ ⟨⟩
    exact isNamed_iff.1 hn

theorem schemaAmong_of_not_object (h : ∀ version, entry ≠ .object version) :
    schemaAmong name (entry :: after) = .error .badShape := by
  rw [schemaAmong]
  exact fun version hv => h version hv

/-- What is passed over changes nothing. -/
theorem schemaAmong_append (h : ∀ d ∈ before, Passed name d) :
    schemaAmong name (before ++ after) = schemaAmong name after := by
  induction before with
  | nil => rfl
  | cons d before ih =>
    obtain ⟨hd, hbefore⟩ := List.forall_mem_cons.1 h
    rw [List.cons_append, schemaAmong_of_passed hd, ih hbefore]

/-- What stands behind a wanted entry changes nothing. -/
theorem schemaAmong_append_wanted (h : Wanted name entry) (before after after' : List Document) :
    schemaAmong name (before ++ entry :: after) = schemaAmong name (before ++ entry :: after') := by
  induction before with
  | nil =>
    cases entry with
    | object version => exact (schemaAmong_of_wanted h).trans (schemaAmong_of_wanted h).symm
    | _ => rfl
  | cons d before ih =>
    cases d with
    | object version =>
      by_cases hd : Wanted name (.object version)
      · exact (schemaAmong_of_wanted hd).trans (schemaAmong_of_wanted hd).symm
      · rw [List.cons_append, List.cons_append, schemaAmong_of_passed ⟨⟨_, rfl⟩, hd⟩,
          schemaAmong_of_passed ⟨⟨_, rfl⟩, hd⟩, ih]
    | _ => rfl

/-! ### One version -/

theorem versionSchema_of_object {schema : List (Text × Document)}
    (h : Part .object (version.lookup ("schema" : Text)) declared)
    (hs : declared.lookup ("openAPIV3Schema" : Text) = some (.object schema)) :
    versionSchema version = .ok (.object schema) := by
  simp only [versionSchema, reads_membersOf.part h, bind, Except.bind, hs]
  rfl

theorem versionSchema_of_no_object (h : Part .object (version.lookup ("schema" : Text)) declared)
    (hs : ∀ schema, declared.lookup ("openAPIV3Schema" : Text) ≠ some (.object schema)) :
    versionSchema version = .error (.noSchema ((version.lookup ("name" : Text)).getD .null)) := by
  -- what is found there is of the other case, by hs
  simp only [versionSchema, reads_membersOf.part h, bind, Except.bind]
  rfl

theorem versionSchema_of_misfit (h : Misfit .object (version.lookup ("schema" : Text))) :
    versionSchema version = .error .badShape := by
  rw [versionSchema, reads_membersOf.misfit h]
  rfl

end

/-! ### Documents -/

/-- A document declares a custom resource: it is an object of that kind. -/
def Defines (document : Document) (members : List (Text × Document)) : Prop :=
  document = .object members ∧ members.lookup ("kind" : Text) = some (.text definitionKind)

/-- The versions of a definition. -/
def Declares (document : Document) (versions : List Document) : Prop :=
  ∃ members spec, Defines document members ∧ Part .object (members.lookup ("spec" : Text)) spec ∧
    Part .list (spec.lookup ("versions" : Text)) versions

/-- **The schema that a definition promises:** the one in its chosen version. -/
inductive Promises (document : Document) (name : Option Text) : Document → Prop
  | chosen {members spec version declared schema versions} (h : Defines document members)
      (hspec : members.lookup ("spec" : Text) = some (.object spec))
      (hversions : spec.lookup ("versions" : Text) = some (.list versions))
      (hversion : Chosen name versions (.object version))
      (hdeclared : version.lookup ("schema" : Text) = some (.object declared))
      (hschema : declared.lookup ("openAPIV3Schema" : Text) = some (.object schema)) :
      Promises document name (.object schema)

/-- Two definitions have the same versions up to a wanted one. -/
def SameUpTo (name : Option Text) (document document' : Document) : Prop :=
  ∃ before entry after after', Wanted name entry ∧
    Declares document (before ++ entry :: after) ∧ Declares document' (before ++ entry :: after')

/-- **Extraction keeps to what a document promises.** -/
structure Extracted (document : Document) (name : Option Text) : Prop where
  /-- What declares no custom resource is its own schema. -/
  other : (¬ ∃ members, Defines document members) → schema document name = .ok document
  /-- A definition has the schema that it promises. -/
  promised : (∃ members, Defines document members) →
    ∀ s, schema document name = .ok s ↔ Promises document name s
  /-- If it promises none, it is refused with a message. -/
  refused : (∃ members, Defines document members) → (¬ ∃ s, Promises document name s) →
    ∃ f m, schema document name = .error f ∧ f.message? = some m
  /-- The versions behind the chosen one do not matter. -/
  same : ∀ document', SameUpTo name document document' →
    schema document' name = schema document name

/-- Why a definition is refused. -/
inductive Refused (document : Document) : Option Text → Fault → Prop
  | noVersions (h : Declares document []) : Refused document none .noVersions
  | noSuchVersion {versions n} (h : Declares document versions)
      (hp : ∀ d ∈ versions, Passed (some n) d) : Refused document (some n) (.noSuchVersion n)
  | noSchema {name versions version declared} (h : Declares document versions)
      (hv : Reached name versions (.object version)) (hw : Wanted name (.object version))
      (hd : Part .object (version.lookup ("schema" : Text)) declared)
      (hs : ∀ schema, declared.lookup ("openAPIV3Schema" : Text) ≠ some (.object schema)) :
      Refused document name (.noSchema ((version.lookup ("name" : Text)).getD .null))

/-- **A part that is looked at is of the wrong kind:** the specification, its versions, an entry
up to the chosen one, or the part of the chosen one that holds the schema. -/
inductive Misshapen (document : Document) (name : Option Text) : Prop
  | spec {members} (h : Defines document members)
      (hs : Misfit .object (members.lookup ("spec" : Text)))
  | versions {members spec} (h : Defines document members)
      (hs : Part .object (members.lookup ("spec" : Text)) spec)
      (hv : Misfit .list (spec.lookup ("versions" : Text)))
  | entry {versions entry} (h : Declares document versions) (he : Reached name versions entry)
      (hn : ∀ version, entry ≠ .object version)
  | declared {versions version} (h : Declares document versions)
      (hv : Reached name versions (.object version)) (hw : Wanted name (.object version))
      (hs : Misfit .object (version.lookup ("schema" : Text)))

variable {document : Document} {name : Option Text} {members version : List (Text × Document)}
  {versions : List Document} {entry : Document}

theorem schema_of_other (h : ¬ ∃ members, Defines document members) :
    schema document name = .ok document := by
  rw [schema]
  split
  · next kind hkind =>
    split
    · next hk =>
      cases document with
      | object members => exact absurd ⟨members, rfl, hk ▸ hkind⟩ h
      | _ => cases hkind
    · rfl
  · rfl

theorem schema_of_defines (h : Defines document members) :
    schema document name = (do
      let spec ← membersOf (members.lookup ("spec" : Text))
      schemaAmong name (← itemsOf (spec.lookup ("versions" : Text)))) := by
  obtain ⟨rfl, hk⟩ := h
  simp only [schema, Document.member?_object, hk, if_pos]

theorem schema_of_declares (h : Declares document versions) :
    schema document name = schemaAmong name versions := by
  obtain ⟨members, spec, hm, hspec, hversions⟩ := h
  rw [schema_of_defines hm, reads_membersOf.part hspec]
  simp only [bind, Except.bind, reads_itemsOf.part hversions]

/-- Extraction goes on at an entry that is looked at. -/
theorem schema_of_reached (h : Declares document versions) (he : Reached name versions entry) :
    ∃ after, schema document name = schemaAmong name (entry :: after) := by
  obtain ⟨before, after, rfl, hp⟩ := he
  exact ⟨after, by rw [schema_of_declares h, schemaAmong_append hp]⟩

/-- Extraction looks into an entry that is looked at and wanted. -/
theorem schema_of_wanted (h : Declares document versions)
    (hv : Reached name versions (.object version)) (hw : Wanted name (.object version)) :
    schema document name = versionSchema version := by
  obtain ⟨after, hafter⟩ := schema_of_reached h hv
  rw [hafter, schemaAmong_of_wanted hw]

theorem schema_of_all_passed (h : Declares document versions)
    (hp : ∀ d ∈ versions, Passed name d) : schema document name = schemaAmong name [] := by
  have happend : schemaAmong name (versions ++ []) = schemaAmong name [] := schemaAmong_append hp
  rw [schema_of_declares h, ← happend, List.append_nil]

theorem Refused.schema_eq {f : Fault} (h : Refused document name f) :
    schema document name = .error f := by
  cases h with
  | noVersions h => exact schema_of_declares h
  | noSuchVersion h hp => exact schema_of_all_passed h hp
  | noSchema h hv hw hd hs => rw [schema_of_wanted h hv hw, versionSchema_of_no_object hd hs]

theorem Refused.exists_message {f : Fault} (h : Refused document name f) :
    ∃ m, f.message? = some m := by
  cases h <;> exact ⟨_, rfl⟩

theorem Misshapen.schema_eq (h : Misshapen document name) :
    schema document name = .error .badShape := by
  cases h with
  | spec h hs =>
    rw [schema_of_defines h, reads_membersOf.misfit hs]
    rfl
  | versions h hs hv =>
    rw [schema_of_defines h, reads_membersOf.part hs]
    simp only [bind, Except.bind, reads_itemsOf.misfit hv]
  | entry h he hn =>
    obtain ⟨after, hafter⟩ := schema_of_reached h he
    rw [hafter, schemaAmong_of_not_object hn]
  | declared h hv hw hs => rw [schema_of_wanted h hv hw, versionSchema_of_misfit hs]

/-- Unless a part is of the wrong kind, the promised schema is extracted. -/
theorem Promises.schema_eq {s : Document} (h : Promises document name s)
    (hm : ¬ Misshapen document name) : schema document name = .ok s := by
  obtain ⟨h, hspec, hversions, hversion, hdeclared, hschema⟩ := h
  have hd : Declares document _ := ⟨_, _, h, .of_eq hspec, .of_eq hversions⟩
  obtain hv | ⟨d, hd', hn⟩ := hversion.reached
  · obtain ⟨-, -, -, -, hw⟩ := hversion
    rw [schema_of_wanted hd hv hw, versionSchema_of_object (.of_eq hdeclared) hschema]
  · exact absurd (.entry hd hd' hn) hm

/-- A schema that is found in an entry that is looked at is promised. -/
theorem promises_of_reached {declared found : List (Text × Document)}
    (h : Declares document versions)
    (hv : Reached name versions (.object version)) (hw : Wanted name (.object version))
    (hd : Part .object (version.lookup ("schema" : Text)) declared)
    (hs : declared.lookup ("openAPIV3Schema" : Text) = some (.object found)) :
    Promises document name (.object found) := by
  obtain ⟨members, spec, hm, hspec, hversions⟩ := h
  obtain ⟨before, after, rfl, hp⟩ := hv
  have hversions := hversions.eq_of_ne_nil (by simp)
  -- where something is found, there was something to look at
  have hspec := hspec.eq_of_ne_nil (by rintro rfl; cases hversions)
  have hd := hd.eq_of_ne_nil (by rintro rfl; cases hs)
  exact .chosen hm hspec hversions ⟨before, after, rfl, fun d hd => (hp d hd).2, hw⟩ hd hs

/-- What becomes of a definition. -/
inductive Settled (document : Document) (name : Option Text) : Prop
  | found {s : Document} (h : Promises document name s) (hs : schema document name = .ok s)
  | refused {f : Fault} (h : Refused document name f)
  | misshapen (h : Misshapen document name)

/-- Without a wanted version a definition is refused. -/
theorem exists_refused_of_all_passed (h : Declares document versions)
    (hp : ∀ d ∈ versions, Passed name d) : ∃ f, Refused document name f := by
  cases name with
  | some n => exact ⟨_, .noSuchVersion h hp⟩
  | none =>
    -- without a name the first entry is wanted, so there is none
    cases versions with
    | nil => exact ⟨_, .noVersions h⟩
    | cons d versions => exact absurd nofun (hp d (by simp)).2

/-- A definition with a wanted version is settled by it. -/
theorem settled_of_wanted (h : Declares document versions)
    (hv : Reached name versions (.object version)) (hw : Wanted name (.object version)) :
    Settled document name := by
  obtain hdeclared | ⟨declared, hdeclared⟩ :=
    misfit_or_part .object (version.lookup ("schema" : Text))
  · exact .misshapen (.declared h hv hw hdeclared)
  by_cases hs : ∃ found, declared.lookup ("openAPIV3Schema" : Text) = some (.object found)
  · obtain ⟨found, hs⟩ := hs
    refine .found (promises_of_reached h hv hw hdeclared hs) ?_
    rw [schema_of_wanted h hv hw, versionSchema_of_object hdeclared hs]
  · exact .refused (.noSchema h hv hw hdeclared fun found hf => hs ⟨found, hf⟩)

/-- **A definition has the schema that it promises, or it is refused, or a part of it is of the
wrong kind.** -/
theorem settled_of_defines (h : Defines document members) (name : Option Text) :
    Settled document name := by
  obtain hspec | ⟨spec, hspec⟩ := misfit_or_part .object (members.lookup ("spec" : Text))
  · exact .misshapen (.spec h hspec)
  obtain hversions | ⟨versions, hversions⟩ := misfit_or_part .list (spec.lookup ("versions" : Text))
  · exact .misshapen (.versions h hspec hversions)
  have hd : Declares document versions := ⟨members, spec, h, hspec, hversions⟩
  by_cases hp : ∀ d ∈ versions, Passed name d
  · obtain ⟨f, hf⟩ := exists_refused_of_all_passed hd hp
    exact .refused hf
  -- the first entry that is not passed over decides
  obtain ⟨entry, hreached, hentry⟩ := exists_reached hp
  by_cases hobject : ∃ version, entry = .object version
  · obtain ⟨version, rfl⟩ := hobject
    have hw : Wanted name (.object version) :=
      Classical.byContradiction fun hw => hentry ⟨⟨version, rfl⟩, hw⟩
    exact settled_of_wanted hd hreached hw
  · exact .misshapen (.entry hd hreached fun version hv => hobject ⟨version, hv⟩)

/-- What is not extracted is refused, or a part of it is of the wrong kind. -/
theorem refused_or_misshapen {f : Fault} (h : schema document name = .error f) :
    Refused document name f ∨ Misshapen document name := by
  by_cases hdefines : ∃ members, Defines document members
  · obtain ⟨members, hm⟩ := hdefines
    cases settled_of_defines hm name with
    | found _ hs => cases h.symm.trans hs
    | refused hf =>
      cases h.symm.trans hf.schema_eq
      exact .inl hf
    | misshapen hm => exact .inr hm
  · cases h.symm.trans (schema_of_other hdefines)

theorem SameUpTo.schema_eq {document' : Document} (h : SameUpTo name document document') :
    schema document' name = schema document name := by
  obtain ⟨before, entry, after, after', hw, hd, hd'⟩ := h
  rw [schema_of_declares hd, schema_of_declares hd', schemaAmong_append_wanted hw]

theorem extracted_of_not_misshapen (h : ¬ Misshapen document name) :
    Extracted document name where
  other := schema_of_other
  promised := by
    rintro ⟨members, hm⟩ s
    refine ⟨fun hs => ?_, fun hs => hs.schema_eq h⟩
    cases settled_of_defines hm name with
    | found hp hs' =>
      cases hs.symm.trans hs'
      exact hp
    | refused hf => cases hs.symm.trans hf.schema_eq
    | misshapen hm => exact absurd hm h
  refused := by
    rintro ⟨members, hm⟩ hnone
    cases settled_of_defines hm name with
    | found hp _ => exact absurd ⟨_, hp⟩ hnone
    | refused hf =>
      obtain ⟨m, hmessage⟩ := hf.exists_message
      exact ⟨_, m, hf.schema_eq, hmessage⟩
    | misshapen hm => exact absurd hm h
  same _ hd := hd.schema_eq

theorem Misshapen.exists_defines (h : Misshapen document name) :
    ∃ members, Defines document members := by
  obtain ⟨h, -⟩ | ⟨h, -, -⟩ | ⟨⟨members, spec, h, -⟩, -, -⟩ | ⟨⟨members, spec, h, -⟩, -, -, -⟩ := h
  all_goals exact ⟨_, h⟩

/-- Nothing is said about a part of the wrong kind, whatever the document promises. -/
theorem Misshapen.not_extracted (h : Misshapen document name) : ¬ Extracted document name := by
  intro he
  have hschema := h.schema_eq
  by_cases hp : ∃ s, Promises document name s
  · obtain ⟨s, hs⟩ := hp
    cases hschema.symm.trans ((he.promised h.exists_defines s).2 hs)
  · obtain ⟨f, m, hf, hm⟩ := he.refused h.exists_defines hp
    cases hschema.symm.trans hf
    cases hm

/-- **Extraction keeps to what a document promises iff no part that is looked at is of the wrong
kind.** Such a part is the one thing about which nothing is said; everything else that is refused
is refused for its reason. -/
theorem schema_extracted_iff (document : Document) (name : Option Text) :
    (Extracted document name ↔ ¬ Misshapen document name) ∧
      (schema document name = .error .badShape ↔ Misshapen document name) ∧
      ∀ f ≠ .badShape, schema document name = .error f ↔ Refused document name f := by
  refine ⟨⟨fun he hm => hm.not_extracted he, extracted_of_not_misshapen⟩, ⟨fun h => ?_, ?_⟩, ?_⟩
  · obtain hr | hm := refused_or_misshapen h
    · cases hr
    · exact hm
  · exact Misshapen.schema_eq
  · refine fun f hne => ⟨fun h => ?_, Refused.schema_eq⟩
    obtain hr | hm := refused_or_misshapen h
    · exact hr
    · cases h.symm.trans hm.schema_eq
      exact absurd rfl hne

/-- A definition whose versions are an object, by their names. -/
def versionsByName : Document :=
  .object [("kind", .text definitionKind),
    ("spec", .object [("versions", .object [("v1", .object [])])])]

/-- No schema is promised, but the definition is not refused with a message. -/
theorem not_extracted_versionsByName :
    (∃ members, Defines versionsByName members) ∧ (¬ ∃ s, Promises versionsByName none s) ∧
      schema versionsByName none = .error .badShape ∧ ¬ Extracted versionsByName none := by
  have hm : Misshapen versionsByName none := by
    refine .versions ⟨rfl, rfl⟩ (.whole _) ⟨_, rfl, ?_, ?_⟩
    · decide
    · rintro _ ⟨⟩
  refine ⟨hm.exists_defines, ?_, hm.schema_eq, hm.not_extracted⟩
  rintro ⟨_, ⟨⟨hm, -⟩, hspec, hversions, -, -, -⟩⟩
  cases hm
  cases hspec
  cases hversions

end Admission.Manifest
