import Admission.Proofs.Exit

/-!
# Lines of the output

A validation prints a row for each violation and a row for its status, each with a line feed behind
it. Nothing in a row is escaped, so a row is one line iff nothing in it is a line feed, and there is
no row from the first one on that cannot be printed.

* `printed`, `linesOf`: the text of printed rows, and the lines of a text.
* `linesOf_printed`: the lines of printed rows are the pieces of the rows.
* `LinedUp`: the output has one line for each violation, and one for the status if it is wanted.
* `run_linedUp_iff`: **the output is lined up iff all rows can be printed and no reported path or
  message has a line feed.**
-/

namespace Admission.Command

/-! ### Lines -/

/-- The text of rows that are printed one after the other. -/
def printed (rows : List Text) : Text := Text.join (rows.map (· ++ "\n"))

/-- The pieces of a text between its line feeds. -/
def pieces (s : Text) : List Text := (s.toList.splitOn (.char '\n')).map Text.ofList

/-- **The lines of a text:** its pieces that end with a line feed. -/
def linesOf (s : Text) : List Text := (pieces s).dropLast

/-- A text has no line feed. -/
def Unbroken (s : Text) : Prop := .char '\n' ∉ s.toList

variable {s : Text} {rows : List Text}

theorem pieces_append (s t : Text) : pieces (s ++ "\n" ++ t) = pieces s ++ pieces t := by
  have hsplit : (s.toList ++ .char '\n' :: t.toList).splitOn (.char '\n') =
      s.toList.splitOn (.char '\n') ++ t.toList.splitOn (.char '\n') := by
    simp only [List.splitOn_eq_splitOnP]
    exact List.splitOnP_append_cons _ _ (by decide)
  have htext : (s ++ "\n" ++ t).toList = s.toList ++ .char '\n' :: t.toList := by simp
  rw [pieces, htext, hsplit, List.map_append]
  rfl

theorem pieces_of_unbroken (h : Unbroken s) : pieces s = [s] := by
  rw [pieces, List.splitOn_eq_singleton h, List.map_singleton, Text.ofList_toList]

/-- No piece of a row has what the row is split at. -/
theorem not_mem_of_mem_splitOn {c : Point} {cs piece : List Point} (h : piece ∈ cs.splitOn c) :
    c ∉ piece := by
  induction cs generalizing piece with
  | nil => simp_all [List.splitOn]
  | cons d cs ih =>
    rw [List.splitOn_eq_splitOnP] at ih h
    rw [List.splitOnP_cons_eq_if_modifyHead] at h
    obtain ⟨first, more, hmore⟩ := List.exists_cons_of_ne_nil (List.splitOnP_ne_nil (· == c) cs)
    rw [hmore] at ih h
    by_cases hd : d = c
    · have hpiece : piece = [] ∨ piece ∈ first :: more := by simpa [hd] using h
      obtain rfl | hpiece := hpiece
      · exact List.not_mem_nil
      · exact ih hpiece
    · have hpiece : piece = d :: first ∨ piece ∈ more := by simpa [hd] using h
      obtain rfl | hpiece := hpiece
      · exact List.not_mem_cons_of_ne_of_not_mem (Ne.symm hd) (ih List.mem_cons_self)
      · exact ih (List.mem_cons_of_mem _ hpiece)

theorem unbroken_of_mem_linesOf {line : Text} (h : line ∈ linesOf s) : Unbroken line := by
  obtain ⟨piece, hpiece, rfl⟩ := List.mem_map.1 (List.dropLast_subset _ h)
  rw [Unbroken, Text.toList_ofList]
  exact not_mem_of_mem_splitOn hpiece

/-- **The lines of printed rows are the pieces of the rows.** -/
theorem linesOf_printed (rows : List Text) : linesOf (printed rows) = rows.flatMap pieces := by
  have hpieces : pieces (printed rows) = rows.flatMap pieces ++ [("" : Text)] := by
    induction rows with
    | nil => rfl
    | cons row rows ih =>
      have hrow : printed (row :: rows) = row ++ "\n" ++ printed rows := rfl
      rw [hrow, pieces_append, ih, List.flatMap_cons, List.append_assoc]
  rw [linesOf, hpieces, List.dropLast_concat]

theorem linesOf_printed_of_unbroken (h : ∀ row ∈ rows, Unbroken row) :
    linesOf (printed rows) = rows := by
  rw [linesOf_printed]
  induction rows with
  | nil => rfl
  | cons row rows ih =>
    obtain ⟨hrow, hrows⟩ := List.forall_mem_cons.1 h
    rw [List.flatMap_cons, pieces_of_unbroken hrow, ih hrows]
    rfl

/-! ### Reports -/

variable {e : Environment} {o : Options} {vs : List Violation}

theorem unbroken_violationLine {v : Violation} :
    Unbroken (violationLine v) ↔ Unbroken v.fieldPath ∧ Unbroken v.message := by
  simp [Unbroken, violationLine, not_or]

theorem unbroken_statusLine (vs : List Violation) : Unbroken (statusLine vs) := by
  have hdigits : '\n' ∉ Nat.toDigits 10 vs.length := fun h =>
    absurd (Nat.isDigit_of_mem_toDigits (by decide) (by decide) h) (by decide)
  rw [statusLine, Unbroken]
  split
  · decide
  · simpa [toString] using hdigits

/-- **The output has one line for each violation, in their order, and behind them one for the
status unless it is not wanted.** -/
structure LinedUp (o : Options) (vs : List Violation) (output : Text) : Prop where
  violation : ∀ k (hk : k < vs.length), (linesOf output)[k]? = some (violationLine vs[k])
  status : o.quiet = false → (linesOf output)[vs.length]? = some (statusLine vs)
  length : (linesOf output).length = vs.length + if o.quiet then 0 else 1

theorem report_of_not_json (h : o.json = false) :
    report o vs = vs.map violationLine ++ if o.quiet then [] else [statusLine vs] := by
  rw [report, h]
  rfl

theorem length_report (h : o.json = false) :
    (report o vs).length = vs.length + if o.quiet then 0 else 1 := by
  rw [report_of_not_json h, List.length_append, List.length_map]
  split <;> rfl

theorem unbroken_report_iff (h : o.json = false) :
    (∀ row ∈ report o vs, Unbroken row) ↔
      ∀ v ∈ vs, Unbroken v.fieldPath ∧ Unbroken v.message := by
  have hstatus : ∀ row ∈ if o.quiet then [] else [statusLine vs], Unbroken row := by
    split
    · exact nofun
    · exact List.forall_mem_singleton.2 (unbroken_statusLine vs)
  rw [report_of_not_json h, List.forall_mem_append, List.forall_mem_map]
  simp only [unbroken_violationLine, and_iff_left hstatus]

theorem getElem?_report (h : o.json = false) {k : Nat} (hk : k < vs.length) :
    (report o vs)[k]? = some (violationLine vs[k]) := by
  rw [report_of_not_json h, List.getElem?_append_left (by simpa using hk), List.getElem?_map,
    List.getElem?_eq_getElem hk, Option.map_some]

theorem getElem?_report_length (h : o.json = false) :
    (report o vs)[vs.length]? = if o.quiet then none else some (statusLine vs) := by
  rw [report_of_not_json h, List.getElem?_append_right (by simp)]
  split <;> simp

/-- The output is lined up if the rows of the report are its lines. -/
theorem linedUp_iff (h : o.json = false) {output : Text} :
    LinedUp o vs output ↔ linesOf output = report o vs := by
  constructor
  · intro hl
    have hlength := hl.length.trans (length_report h).symm
    refine List.ext_getElem? fun k => ?_
    by_cases hk : k < vs.length
    · rw [hl.violation k hk, getElem?_report h hk]
    · by_cases hlast : k = vs.length ∧ o.quiet = false
      · obtain ⟨rfl, hquiet⟩ := hlast
        rw [hl.status hquiet, getElem?_report_length h, hquiet]
        rfl
      · -- behind the status, or without one behind the violations, both end
        have hend : (report o vs).length ≤ k := by
          rw [length_report h]
          split <;> grind
        rw [List.getElem?_eq_none hend, List.getElem?_eq_none (hlength ▸ hend)]
  · intro hlines
    refine ⟨fun k hk => ?_, fun hquiet => ?_, ?_⟩
    · rw [hlines, getElem?_report h hk]
    · rw [hlines, getElem?_report_length h, hquiet]
      rfl
    · rw [hlines, length_report h]

theorem linedUp_report_iff (h : o.json = false) :
    LinedUp o vs (printed (report o vs)) ↔
      ∀ v ∈ vs, Unbroken v.fieldPath ∧ Unbroken v.message := by
  rw [linedUp_iff h, ← unbroken_report_iff h]
  constructor
  · intro hlines row hrow
    exact unbroken_of_mem_linesOf (hlines ▸ hrow)
  · exact linesOf_printed_of_unbroken

/-- The lines of a report are the pieces of the rows of its violations, and the status. -/
theorem linesOf_report (h : o.json = false) :
    linesOf (printed (report o vs)) =
      vs.flatMap (fun v => pieces (violationLine v)) ++
        if o.quiet then [] else [statusLine vs] := by
  rw [linesOf_printed, report_of_not_json h, List.flatMap_append, List.flatMap_map]
  split
  · rfl
  · rw [List.flatMap_singleton, pieces_of_unbroken (unbroken_statusLine vs)]

/-- The rows about an object that a run prints. -/
def Outcome.output : Outcome → List Text
  | .done _ rows _ | .crash rows _ => rows
  | .help _ | .version | .misuse => []

/-- A row of a report that cannot be printed leaves lines out. -/
theorem not_linedUp_of_stopsAt (h : o.json = false) {before : List Text} {row : Text}
    (hrow : e.StopsAt (report o vs) before row) : ¬ LinedUp o vs (printed before) := by
  rw [linedUp_iff h]
  obtain ⟨-, -, rest, hreport⟩ := hrow
  intro hlines
  -- the rows that were printed are rows of the report, so each of them would be one line
  have hbefore : ∀ r ∈ before, Unbroken r := fun r hr =>
    unbroken_of_mem_linesOf (s := printed before) (by simp [hlines, hreport, hr])
  rw [linesOf_printed_of_unbroken hbefore, hreport] at hlines
  simpa using congrArg List.length hlines

/-- **The output of a validation is lined up iff all rows can be printed, and no path or message
that it reports has a line feed.** If all rows can be printed, its lines are the pieces of the rows,
in their order; if not, the run breaks off before the first one that cannot be printed. -/
theorem run_linedUp_iff {args : List Text} (h : Request.ofArgs args = .validate o)
    (hj : o.json = false) {i : Inputs} (hi : Provides e.files o i)
    (hvs : Validator.validate (.standard e.host) i.schema (.ofDocument i.object)
      (i.old.map .ofDocument) = .ok vs) :
    (LinedUp o vs (printed (run e (.ofArgs args)).output) ↔
      (∀ row ∈ report o vs, e.prints row) ∧
        ∀ v ∈ vs, Unbroken v.fieldPath ∧ Unbroken v.message) ∧
    ((∀ row ∈ report o vs, e.prints row) →
      run e (.ofArgs args) = .done (if vs.isEmpty then 0 else 1) (report o vs) [] ∧
        linesOf (printed (report o vs)) =
          vs.flatMap (fun v => pieces (violationLine v)) ++
            if o.quiet then [] else [statusLine vs]) ∧
    ∀ before row, e.StopsAt (report o vs) before row →
      run e (.ofArgs args) = .crash before (.unprintable row) := by
  have hrun : run e (.ofArgs args) = e.print (if vs.isEmpty then 0 else 1) (report o vs) := by
    rw [h, run, validate_of_provides hi hvs]
  rw [hrun]
  refine ⟨?_, fun hrows => ⟨e.print_of_prints _ hrows, linesOf_report hj⟩,
    fun before row hrow => e.print_of_stopsAt _ hrow⟩
  obtain hrows | ⟨before, row, hrow⟩ := e.prints_or_stopsAt (report o vs)
  · rw [e.print_of_prints _ hrows, Outcome.output, linedUp_report_iff hj, and_iff_right hrows]
  · rw [e.print_of_stopsAt _ hrow, Outcome.output]
    exact iff_of_false (not_linedUp_of_stopsAt hj hrow) fun hall => hrow.not_prints hall.1

/-- The output about one violation, with its status, is two lines. -/
theorem run_linedUp_failing :
    Request.ofArgs sampleArgs = .validate sampleOptions ∧ sampleOptions.json = false ∧
      Provides failingFiles.files sampleOptions failingInputs ∧
      Validator.validate .plain failingInputs.schema (.ofDocument failingInputs.object)
        (failingInputs.old.map .ofDocument) = .ok [failingViolation] ∧
      LinedUp sampleOptions [failingViolation]
        (printed (run failingFiles (.ofArgs sampleArgs)).output) := by
  have hi := inputs_eq_ok_iff.1 inputs_failingFiles
  have hvs := validate_failingInputs
  obtain ⟨hl, -⟩ := run_linedUp_iff ofArgs_sampleArgs rfl hi hvs
  refine ⟨ofArgs_sampleArgs, rfl, hi, hvs, hl.2 ⟨prints_failingViolation, ?_⟩⟩
  simp [Unbroken, failingViolation]

/-- Files with two rules, and half of a surrogate pair as the message of the second one. -/
def halfMessageFiles : Environment :=
  twoFiles ("\x7b\"x-kubernetes-validations\": [\x7b\"rule\": \"false\", " ++
    "\"message\": \"too small\"\x7d, \x7b\"rule\": \"false\", " ++
      "\"message\": \"\\ud800\"\x7d]\x7d") "\x7b\x7d"

example : (run halfMessageFiles (.ofArgs sampleArgs)).output = [("[] too small" : Text)] := by
  decide +kernel

/-- A command line that asks for no status. -/
def quietArgs : List Text := sampleArgs ++ [("--quiet" : Text)]

/-- What it asks for. -/
def quietOptions : Options := { sampleOptions with quiet := true }

theorem ofArgs_quietArgs : Request.ofArgs quietArgs = .validate quietOptions := by
  decide +kernel

/-- Files with a rule whose message has two lines. -/
def twoLineFiles : Environment :=
  twoFiles ("\x7b\"x-kubernetes-validations\": [\x7b\"rule\": \"false\", " ++
    "\"message\": \"too small\\nStatus: OK\"\x7d]\x7d") "\x7b\x7d"

/-- The inputs that they provide. -/
def twoLineInputs : Inputs where
  schema := .object [("x-kubernetes-validations",
    .list [.object [("rule", .text "false"), ("message", .text "too small\nStatus: OK")]])]
  object := .object []
  old := none

theorem inputs_twoLineFiles : inputs twoLineFiles.files quietOptions = .ok twoLineInputs := by rfl

/-- The violation of the object in them. -/
def twoLineViolation : Violation where
  fieldPath := ""
  message := "too small\nStatus: OK"
  reason := none
  rule := "false"

/-- One violation gives two lines, and the second one reads like a status that was not wanted. -/
theorem run_twoLineFiles :
    Request.ofArgs quietArgs = .validate quietOptions ∧ quietOptions.json = false ∧
      Provides twoLineFiles.files quietOptions twoLineInputs ∧
      Validator.validate .plain twoLineInputs.schema (.ofDocument twoLineInputs.object)
        (twoLineInputs.old.map .ofDocument) = .ok [twoLineViolation] ∧
      ∃ rows, run twoLineFiles (.ofArgs quietArgs) = .done 1 rows [] ∧
        linesOf (printed rows) = (["[] too small", "Status: OK"] : List Text) ∧
        ¬ LinedUp quietOptions [twoLineViolation] (printed rows) := by
  have hvs : Validator.validate .plain twoLineInputs.schema (.ofDocument twoLineInputs.object)
      (twoLineInputs.old.map .ofDocument) = .ok [twoLineViolation] := by
    decide +kernel
  refine ⟨ofArgs_quietArgs, rfl, inputs_eq_ok_iff.1 inputs_twoLineFiles, hvs,
    report quietOptions [twoLineViolation], ?_, ?_, ?_⟩
  · rw [ofArgs_quietArgs, run, validate, inputs_twoLineFiles]
    have hviolations : violations twoLineFiles.host twoLineInputs = .ok [twoLineViolation] := by
      rw [violations]
      exact congrArg (Except.mapError _) hvs
    simp only [hviolations]
    rfl
  · decide +kernel
  · rw [linedUp_report_iff rfl]
    simp [Unbroken, twoLineViolation]

end Admission.Command
