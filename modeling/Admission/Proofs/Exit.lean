import Admission.Command.Run
import Admission.Proofs.Stop
import Mathlib.Data.List.TakeWhile

/-!
# Exit statuses

The exit status of a validation says what became of it: 2 if there is nothing to validate, because
a file holds no document or no schema, and else 1 if there are violations and 0 if there are none.
A run tells the truth unless it breaks off, and then it has the status of an object with
violations.

* `Holds`, `Spoiled`: the document that a file holds, or what is wrong with the file.
* `Provides`, `Defect`: the inputs that the files of a validation provide, or the first thing that
  is wrong with them.
* `Environment.StopsAt`: the first row that cannot be printed, and the rows before it.
* `Truthful`: what it means that the outcome of a validation tells the truth.
* `Breaks`: what breaks a run off.
* `run_truthful_iff`: **a run tells the truth iff nothing breaks it off.**
-/

namespace Admission.Command

open Validator (placesOf)
open Bridge (StopsIff)

variable {e : Environment} {files : Files} {o : Options}

/-! ### Files -/

/-- A file holds a document. -/
def Holds (files : Files) (path : Text) (d : Document) : Prop :=
  ∃ s, files (normalPath path) = .text s ∧ Document.read s = .ok d

/-- What is wrong with a file that holds no document. -/
inductive Spoiled (files : Files) (path : Text) : Fault → Prop
  | missing (h : files (normalPath path) = .missing) :
      Spoiled files path (.missing (normalPath path))
  | unreadable (h : files (normalPath path) = .unreadable) : Spoiled files path .unreadable
  | notText {detail} (h : files (normalPath path) = .notText detail) :
      Spoiled files path (.notText detail)
  | notJson {s f} (h : files (normalPath path) = .text s) (hs : Document.read s = .error f) :
      Spoiled files path (.json s f)

theorem load_eq_ok_iff {path : Text} {d : Document} :
    load files path = .ok d ↔ Holds files path d := by
  rw [load, Holds]
  cases files (normalPath path) with
  | text s => simp [Except.mapError_eq_ok_iff]
  | missing | unreadable | notText => simp

theorem load_eq_error_iff {path : Text} {f : Fault} :
    load files path = .error f ↔ Spoiled files path f := by
  constructor
  · intro h
    rw [load] at h
    split at h
    · next hf => exact Except.error.inj h ▸ .missing hf
    · next hf => exact Except.error.inj h ▸ .unreadable hf
    · next hf => exact Except.error.inj h ▸ .notText hf
    · next s hf =>
      obtain ⟨g, hs, rfl⟩ := Except.mapError_eq_error_iff.1 h
      exact .notJson hf hs
  · intro h
    cases h with
    | missing h | unreadable h | notText h => simp only [load, h]
    | notJson h hs => simp only [load, h, hs, Except.mapError]

/-! ### Inputs -/

/-- The files of a validation provide its inputs. -/
structure Provides (files : Files) (o : Options) (i : Inputs) : Prop where
  schema : ∃ m, Holds files o.schema m ∧ Manifest.schema m o.crdVersion = .ok i.schema
  object : Holds files o.object i.object
  old : Option.Rel (Holds files) o.oldObject i.old

/-- The first thing that is wrong with the files of a validation, in the order in which they are
read. -/
inductive Defect (files : Files) (o : Options) : Fault → Prop
  | schema {f} (h : Spoiled files o.schema f) : Defect files o f
  | manifest {m f} (h : Holds files o.schema m)
      (hm : Manifest.schema m o.crdVersion = .error f) : Defect files o (.manifest f)
  | object {m s f} (h : Holds files o.schema m) (hm : Manifest.schema m o.crdVersion = .ok s)
      (ho : Spoiled files o.object f) : Defect files o f
  | old {m s d path f} (h : Holds files o.schema m) (hm : Manifest.schema m o.crdVersion = .ok s)
      (ho : Holds files o.object d) (hp : o.oldObject = some path) (hold : Spoiled files path f) :
      Defect files o f

/-- The document in a file that need not be named, as one step on the document in it. -/
theorem mapM_load_some (path : Text) :
    (some path).mapM (load files) = (load files path).map some := rfl

theorem mapM_load_eq_ok_iff {path : Option Text} {d : Option Document} :
    path.mapM (load files) = .ok d ↔ path.Rel (Holds files) d := by
  cases path with
  | none =>
    refine ⟨fun h => ?_, fun h => ?_⟩
    · cases h; exact .none
    · cases h; rfl
  | some path =>
    simp only [mapM_load_some, Except.map_eq_ok_iff, load_eq_ok_iff]
    constructor
    · rintro ⟨d, hd, rfl⟩
      exact .some hd
    · rintro (h | _)
      exact ⟨_, h, rfl⟩

theorem mapM_load_eq_error_iff {path : Option Text} {f : Fault} :
    path.mapM (load files) = .error f ↔ ∃ p, path = some p ∧ Spoiled files p f := by
  cases path with
  | none => exact ⟨nofun, nofun⟩
  | some path =>
    simp only [mapM_load_some, Except.map_eq_error_iff, load_eq_error_iff, Option.some.injEq,
      exists_eq_left']

theorem inputs_eq_ok_iff {i : Inputs} : inputs files o = .ok i ↔ Provides files o i := by
  simp only [inputs, Except.bind_eq_ok_iff, Except.mapError_eq_ok_iff, load_eq_ok_iff,
    mapM_load_eq_ok_iff, pure, Except.pure, Except.ok.injEq]
  constructor
  · rintro ⟨m, hm, schema, hs, object, ho, old, hold, rfl⟩
    exact ⟨⟨m, hm, hs⟩, ho, hold⟩
  · rintro ⟨⟨m, hm, hs⟩, ho, hold⟩
    exact ⟨m, hm, _, hs, _, ho, _, hold, rfl⟩

theorem inputs_eq_error_iff {f : Fault} : inputs files o = .error f ↔ Defect files o f := by
  simp only [inputs, Except.bind_eq_error_iff, Except.mapError_eq_ok_iff,
    Except.mapError_eq_error_iff, load_eq_ok_iff, load_eq_error_iff, mapM_load_eq_error_iff, pure,
    Except.pure, reduceCtorEq, and_false, exists_false, or_false]
  constructor
  · rintro (h | ⟨m, hm, ⟨g, hs, rfl⟩ | ⟨s, hs, ho | ⟨d, ho, p, hp, h⟩⟩⟩)
    · exact .schema h
    · exact .manifest hm hs
    · exact .object hm hs ho
    · exact .old hm hs ho hp h
  · rintro (h | ⟨hm, hs⟩ | ⟨hm, hs, ho⟩ | ⟨hm, hs, ho, hp, h⟩)
    · exact .inl h
    · exact .inr ⟨_, hm, .inl ⟨_, hs, rfl⟩⟩
    · exact .inr ⟨_, hm, .inr ⟨_, hs, .inl ho⟩⟩
    · exact .inr ⟨_, hm, .inr ⟨_, hs, .inr ⟨_, ho, _, hp, h⟩⟩⟩

/-- The files of a validation either provide its inputs or have a defect. -/
theorem not_provides_iff : (¬ ∃ i, Provides files o i) ↔ ∃ f, Defect files o f := by
  simp only [← inputs_eq_ok_iff, ← inputs_eq_error_iff]
  cases inputs files o <;> simp

/-! ### Printing -/

/-- There is a first row that cannot be printed, behind rows that can. -/
structure Environment.StopsAt (e : Environment) (rows before : List Text) (row : Text) : Prop where
  printed : ∀ r ∈ before, e.prints r
  unprintable : e.prints row = false
  rest : ∃ rest, rows = before ++ row :: rest

variable {rows before : List Text} {row : Text}

/-- Rows are printed to the end, or up to one that cannot be printed. -/
theorem Environment.prints_or_stopsAt (e : Environment) (rows : List Text) :
    (∀ row ∈ rows, e.prints row) ∨ ∃ before row, e.StopsAt rows before row := by
  induction rows with
  | nil => exact .inl nofun
  | cons r rows ih =>
    cases hr : e.prints r with
    | false => exact .inr ⟨[], r, nofun, hr, rows, rfl⟩
    | true =>
      obtain hrows | ⟨before, row, hbefore, hrow, rest, rfl⟩ := ih
      · exact .inl (List.forall_mem_cons.2 ⟨hr, hrows⟩)
      · exact .inr ⟨r :: before, row, List.forall_mem_cons.2 ⟨hr, hbefore⟩, hrow, rest, rfl⟩

theorem Environment.StopsAt.not_prints (h : e.StopsAt rows before row) :
    ¬ ∀ r ∈ rows, e.prints r := by
  obtain ⟨-, hrow, rest, rfl⟩ := h
  intro hall
  have hprints := hall row (List.mem_append_right before List.mem_cons_self)
  exact absurd (hrow.symm.trans hprints) (by decide)

theorem Environment.print_of_prints (exit : Nat) (h : ∀ row ∈ rows, e.prints row) :
    e.print exit rows = .done exit rows [] := by
  have hdrop : rows.dropWhile e.prints = [] := List.dropWhile_eq_nil_iff.2 h
  rw [print, hdrop]

theorem Environment.print_of_stopsAt (exit : Nat) (h : e.StopsAt rows before row) :
    e.print exit rows = .crash before (.unprintable row) := by
  obtain ⟨hbefore, hrow, rest, rfl⟩ := h
  have hdrop : (before ++ row :: rest).dropWhile e.prints = row :: rest := by
    rw [List.dropWhile_append_of_pos hbefore, List.dropWhile_cons_of_neg (by simp [hrow])]
  have htake : (before ++ row :: rest).takeWhile e.prints = before := by
    rw [List.takeWhile_append_of_pos hbefore, List.takeWhile_cons_of_neg (by simp [hrow]),
      List.append_nil]
  rw [print, hdrop, htake]

/-! ### Outcomes -/

/-- **The outcome of a validation tells the truth.** Without its inputs it ends with 2 and has no
output. With them it reports all violations, and ends with 1 if there are any and with 0 if there
are none. -/
structure Truthful (e : Environment) (o : Options) (r : Outcome) : Prop where
  unusable : (¬ ∃ i, Provides e.files o i) → ∃ errors, r = .done 2 [] errors
  usable : ∀ i, Provides e.files o i → ∃ vs,
    Validator.validate (.standard e.host) i.schema (.ofDocument i.object) (i.old.map .ofDocument) =
      .ok vs ∧
    ∃ exit, r = .done exit (report o vs) [] ∧ (exit = 1 ↔ vs ≠ []) ∧ (exit = 0 ↔ vs = [])

/-- **What breaks a run off, and behind which rows:** something that is no readable file, a manifest
with a part of the wrong kind, an integer beyond every float at a place with a rule, or a row of the
report that cannot be printed. -/
inductive Breaks (e : Environment) (o : Options) : List Text → Fault → Prop
  | unreadable (h : Defect e.files o .unreadable) : Breaks e o [] .unreadable
  | badShape (h : Defect e.files o (.manifest .badShape)) : Breaks e o [] (.manifest .badShape)
  | tooLarge {i} (h : Provides e.files o i)
      (hv : ∃ v ∈ placesOf (.standard e.host) i.schema i.object i.old, v.Stops) :
      Breaks e o [] (.validation .tooLarge)
  | unprintable {i vs before row} (h : Provides e.files o i)
      (hv : Validator.validate (.standard e.host) i.schema (.ofDocument i.object)
        (i.old.map .ofDocument) = .ok vs)
      (hrow : e.StopsAt (report o vs) before row) : Breaks e o before (.unprintable row)

theorem violations_stopsIff (host : Host) (i : Inputs) :
    StopsIff (∃ v ∈ placesOf (.standard host) i.schema i.object i.old, v.Stops)
      (Validator.validate (.standard host) i.schema (.ofDocument i.object)
        (i.old.map .ofDocument)) :=
  Validator.validate_stopsIff (.standard host) i.schema i.object i.old

theorem validate_of_defect {f : Fault} (h : Defect e.files o f) : validate e o = .ofFault e f := by
  rw [validate, inputs_eq_error_iff.2 h]

/-- A run with its inputs prints what the validation reports, if the validation does not stop. -/
theorem validate_of_provides {i : Inputs} {vs : List Violation} (h : Provides e.files o i)
    (hvs : Validator.validate (.standard e.host) i.schema (.ofDocument i.object)
      (i.old.map .ofDocument) = .ok vs) :
    validate e o = e.print (if vs.isEmpty then 0 else 1) (report o vs) := by
  simp only [validate, inputs_eq_ok_iff.2 h, violations, hvs, Except.mapError]

/-- A run without its inputs breaks off or says what is wrong with them. -/
theorem Defect.breaks_or_message {f : Fault} (h : Defect e.files o f) :
    Breaks e o [] f ∨ ∃ m, f.message? e = some m := by
  match f, h with
  | .missing _, _ | .notText _, _ | .json _ .malformed, _ | .json _ (.tooManyDigits _), _
  | .manifest (.noSchema _), _ | .manifest .noVersions, _ | .manifest (.noSuchVersion _), _ =>
    exact .inr ⟨_, rfl⟩
  | .unreadable, h => exact .inl (.unreadable h)
  | .manifest .badShape, h => exact .inl (.badShape h)
  | .validation _, h | .unprintable _, h =>
    -- nothing is validated or printed before all inputs are there
    exfalso
    rcases h with h | _ | ⟨_, _, h⟩ | ⟨_, _, _, _, h⟩ <;> cases h

theorem validate_of_breaks {f : Fault} (h : Breaks e o rows f) :
    validate e o = .crash rows f := by
  cases h with
  | unreadable h => exact validate_of_defect h
  | badShape h => exact validate_of_defect h
  | @tooLarge i h hv =>
    have herr := (violations_stopsIff e.host i).error_iff.2 hv
    simp only [validate, inputs_eq_ok_iff.2 h, violations, herr]
    rfl
  | unprintable h hv hrow => rw [validate_of_provides h hv, e.print_of_stopsAt _ hrow]

theorem truthful_of_not_breaks (h : ¬ ∃ rows f, Breaks e o rows f) :
    Truthful e o (validate e o) where
  unusable hi := by
    obtain ⟨f, hf⟩ := not_provides_iff.1 hi
    obtain hb | ⟨m, hm⟩ := hf.breaks_or_message
    · exact absurd ⟨[], f, hb⟩ h
    · rw [validate_of_defect hf, Outcome.ofFault, hm]
      exact ⟨_, rfl⟩
  usable i hi := by
    obtain ⟨vs, hvs⟩ :=
      (violations_stopsIff e.host i).ok_iff.2 fun hv => h ⟨[], _, .tooLarge hi hv⟩
    -- the report has been made, so only printing can break the run off
    obtain hrows | ⟨before, row, hrow⟩ := e.prints_or_stopsAt (report o vs)
    · refine ⟨vs, hvs, if vs.isEmpty then 0 else 1, ?_, ?_⟩
      · rw [validate_of_provides hi hvs, e.print_of_prints _ hrows]
      · cases vs <;> simp
    · exact absurd ⟨before, _, .unprintable hi hvs hrow⟩ h

/-- A run that breaks off does not say how the validation ended. -/
theorem not_truthful_crash {f : Fault} : ¬ Truthful e o (.crash rows f) := by
  intro h
  by_cases hi : ∃ i, Provides e.files o i
  · obtain ⟨i, hi⟩ := hi
    obtain ⟨_, _, _, hr, _⟩ := h.usable i hi
    cases hr
  · obtain ⟨_, hr⟩ := h.unusable hi
    cases hr

/-- **A run tells the truth unless something breaks it off,** and then it has the status of an
object with violations, and its output ends before the row that cannot be printed. -/
theorem run_truthful_iff {args : List Text} (h : Request.ofArgs args = .validate o)
    (e : Environment) :
    (Truthful e o (run e (.ofArgs args)) ↔ ¬ ∃ rows f, Breaks e o rows f) ∧
      ∀ rows f, Breaks e o rows f →
        run e (.ofArgs args) = .crash rows f ∧ (run e (.ofArgs args)).status = 1 := by
  have hrun : run e (.ofArgs args) = validate e o := by rw [h, run]
  rw [hrun]
  refine ⟨⟨?_, truthful_of_not_breaks⟩, fun rows f hf => ?_⟩
  · rintro ht ⟨rows, f, hf⟩
    rw [validate_of_breaks hf] at ht
    exact not_truthful_crash ht
  · rw [validate_of_breaks hf]
    exact ⟨rfl, rfl⟩

/-- A command line that validates an object. -/
def sampleArgs : List Text := ["validate", "--schema", "s.json", "--object", "o.json"]

/-- What the command line asks for. -/
def sampleOptions : Options := { schema := "s.json", object := "o.json" }

/-- Files with a given manifest and a given object, and nothing else. -/
def twoFiles (manifest object : Text) : Environment where
  files path :=
    if path = "s.json" then .text manifest
    else if path = "o.json" then .text object
    else .missing
  host := .bare
  complaint _ := "not a JSON text"
  output c := c.char?.isSome
  errorOutput c := c.char?.isSome

theorem ofArgs_sampleArgs : Request.ofArgs sampleArgs = .validate sampleOptions := by
  decide +kernel

/-- Files with a rule that the object does not pass. -/
def failingFiles : Environment :=
  twoFiles "\x7b\"x-kubernetes-validations\": [\x7b\"rule\": \"self > 1\"\x7d]\x7d" "0"

/-- The inputs that they provide. -/
def failingInputs : Inputs where
  schema := .object [("x-kubernetes-validations", .list [.object [("rule", .text "self > 1")]])]
  object := .int 0
  old := none

theorem inputs_failingFiles : inputs failingFiles.files sampleOptions = .ok failingInputs := by rfl

/-- The violation of the object in them. -/
def failingViolation : Violation where
  fieldPath := ""
  message := "failed rule: self > 1"
  reason := none
  rule := "self > 1"

theorem validate_failingInputs :
    Validator.validate .plain failingInputs.schema (.ofDocument failingInputs.object)
      (failingInputs.old.map .ofDocument) = .ok [failingViolation] := by
  decide +kernel

theorem prints_failingViolation :
    ∀ row ∈ report sampleOptions [failingViolation], failingFiles.prints row := by
  decide +kernel

/-- The run that reports this violation tells the truth. -/
theorem run_truthful_failing :
    Request.ofArgs sampleArgs = .validate sampleOptions ∧
      Truthful failingFiles sampleOptions (run failingFiles (.ofArgs sampleArgs)) := by
  refine ⟨ofArgs_sampleArgs, (run_truthful_iff ofArgs_sampleArgs failingFiles).1.2 ?_⟩
  have hin := inputs_failingFiles
  have hvs := validate_failingInputs
  rintro ⟨rows, f, h | h | ⟨h, hv⟩ | ⟨h, hv, hrow⟩⟩
  · cases hin.symm.trans (inputs_eq_error_iff.2 h)
  · cases hin.symm.trans (inputs_eq_error_iff.2 h)
  · cases hin.symm.trans (inputs_eq_ok_iff.2 h)
    exact (violations_stopsIff .bare failingInputs).ok_iff.1 ⟨_, hvs⟩ hv
  · cases hin.symm.trans (inputs_eq_ok_iff.2 h)
    cases hvs.symm.trans hv
    exact hrow.not_prints prints_failingViolation

/-- Files with a manifest whose specification is a list. -/
def brokenFiles : Environment :=
  twoFiles "\x7b\"kind\": \"CustomResourceDefinition\", \"spec\": [1]\x7d" "\x7b\x7d"

/-- No schema can be extracted from the manifest, but the run ends as if the object had violations:
with 1, not with 2. -/
theorem run_brokenFiles :
    Request.ofArgs sampleArgs = .validate sampleOptions ∧
      (¬ ∃ i, Provides brokenFiles.files sampleOptions i) ∧
      ¬ Truthful brokenFiles sampleOptions (run brokenFiles (.ofArgs sampleArgs)) ∧
      (run brokenFiles (.ofArgs sampleArgs)).status = 1 := by
  have hd : Defect brokenFiles.files sampleOptions (.manifest .badShape) :=
    inputs_eq_error_iff.1 rfl
  have hrun : run brokenFiles (.ofArgs sampleArgs) = .crash [] (.manifest .badShape) := by
    rw [ofArgs_sampleArgs, run, validate_of_defect hd]
    rfl
  refine ⟨ofArgs_sampleArgs, not_provides_iff.2 ⟨_, hd⟩, ?_, ?_⟩
  · rw [hrun]
    exact not_truthful_crash
  · rw [hrun]
    rfl

end Admission.Command
