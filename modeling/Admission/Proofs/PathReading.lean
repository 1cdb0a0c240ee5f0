import Admission.Proofs.Alignment

/-!
# Reading paths back

A path is read from its end: a point ends the name behind it, an opening bracket the index behind
it, and what is left at the front is the name of the first step. So a path tells the location that
it was written for, unless a name on the way is empty or holds a point or an opening bracket.

* `Location.Awkward`: names that paths do not keep apart.
* `Location.read`: the location that a path tells.
* `Step.text`: what a step adds to a path behind the first step.
* `Location.read_pathOf`: **a location without awkward names is read from its path.**
* `Location.pathOf_identifies`: **two locations of one path are the same, or one has an awkward
  name;** so places of one path that a walk visits are the same.
-/

namespace Admission

open Datum Validator

/-! ### Reading -/

namespace Location

/-- A name that does not stand out in a path: it is empty, or a step seems to begin inside it. -/
def Awkward (name : Text) : Prop :=
  name = "" ∨ .char '.' ∈ name.toList ∨ .char '[' ∈ name.toList

instance (name : Text) : Decidable (Awkward name) := inferInstanceAs (Decidable (_ ∨ _ ∨ _))

/-- No name on the way is awkward. -/
def Plain (steps : List Step) : Prop := ∀ name, .field name ∈ steps → ¬ Awkward name

/-- Reads a row of characters from its end: the characters at the front that no step has taken yet,
and the steps behind them. -/
def readFrom : List Point → List Point × List Step
  | [] => ([], [])
  | c :: cs =>
    let (front, steps) := readFrom cs
    if c = '.' then ([], .field (Text.ofList front) :: steps)
    -- the last character in front of the next step is the closing bracket
    else if c = '[' then
      ([], .index (Nat.ofDigitChars 10 (front.dropLast.filterMap Point.char?) 0) :: steps)
    else (c :: front, steps)

/-- **The location that a path tells.** Only the first name of a path has no point in front. -/
def read (path : Text) : List Step :=
  let (front, steps) := readFrom path.toList
  if front = [] then steps else .field (Text.ofList front) :: steps

example : read "spec.containers[1].name" =
    [.field "spec", .field "containers", .index 1, .field "name"] := by decide +kernel

/-- An awkward name reads as two names. -/
example : read (pathOf [.field "a.b"]) = [.field "a", .field "b"] := by decide +kernel

end Location

/-! ### What steps add to paths -/

/-- What a step adds to a path that is not empty. -/
def Step.text : Step → List Point
  | .field name => '.' :: name.toList
  | .index i => '[' :: ((Nat.toDigits 10 i).map .char ++ [.char ']'])

namespace Location

theorem toList_joinIndex (base : Text) (i : Nat) :
    (joinIndex base i).toList = base.toList ++ (Step.index i).text := by
  have hdigits : (Text.plain (toString (i : Int))).toList = (Nat.toDigits 10 i).map .char :=
    congrArg (List.map Point.char) Nat.toList_repr
  simp only [joinIndex, Text.toList_append, hdigits, Step.text]
  simp

theorem toList_join {base : Text} (hbase : base ≠ "") (step : Step) :
    (step.join base).toList = base.toList ++ step.text := by
  cases step with
  | field name =>
    rw [Step.join, joinField, if_neg hbase, Text.toList_append, Text.toList_append]
    simp [Step.text]
  | index i => exact toList_joinIndex base i

/-- One more step leaves no path empty, unless its name is empty. -/
theorem join_ne_empty {base : Text} {step : Step} (h : base ≠ "" ∨ step ≠ .field "") :
    step.join base ≠ "" := by
  intro he
  cases step with
  | field name =>
    rw [Step.join, joinField] at he
    split at he
    · next hbase =>
      rcases h with h | h
      · exact h hbase
      · exact h (congrArg Step.field he)
    · next hbase => exact hbase (Text.append_eq_empty_iff.1 (Text.append_eq_empty_iff.1 he).1).1
  | index i =>
    have hlist := congrArg Text.toList he
    rw [Step.join, toList_joinIndex, Step.text] at hlist
    simp at hlist

/-- Behind a path that is not empty, every step adds its text. -/
theorem toList_foldl_join {base : Text} (hbase : base ≠ "") (steps : List Step) :
    (steps.foldl Step.join base).toList = base.toList ++ steps.flatMap Step.text := by
  induction steps generalizing base with
  | nil => simp
  | cons step steps ih =>
    rw [List.foldl_cons, ih (join_ne_empty (.inl hbase)), toList_join hbase, List.flatMap_cons,
      List.append_assoc]

/-- Behind its first step, a path is the row of the texts of its steps. -/
theorem toList_pathOf_cons {step : Step} (h : step ≠ .field "") (steps : List Step) :
    (pathOf (step :: steps)).toList = (step.join "").toList ++ steps.flatMap Step.text :=
  toList_foldl_join (join_ne_empty (.inr h)) steps

/-! ### Reading what was written -/

/-- Characters that begin no step are put in front of what is read behind them. -/
theorem readFrom_append {cs : List Point} (hpoint : .char '.' ∉ cs) (hbracket : .char '[' ∉ cs)
    (rest : List Point) :
    readFrom (cs ++ rest) = (cs ++ (readFrom rest).1, (readFrom rest).2) := by
  induction cs with
  | nil => rfl
  | cons c cs ih =>
    obtain ⟨hc, hpoint⟩ := not_or.1 (mt List.mem_cons.2 hpoint)
    obtain ⟨hc', hbracket⟩ := not_or.1 (mt List.mem_cons.2 hbracket)
    rw [List.cons_append, readFrom, ih hpoint hbracket]
    simp only [if_neg (Ne.symm hc), if_neg (Ne.symm hc'), List.cons_append]

/-- The digits of an index and the bracket behind them begin no step. -/
theorem not_mem_digits {c : Point} (hc : c.isDigit = false) (hbracket : c ≠ ']') (i : Nat) :
    c ∉ (Nat.toDigits 10 i).map .char ++ [.char ']'] := by
  intro h
  rcases List.mem_append.1 h with h | h
  · obtain ⟨d, hd, rfl⟩ := List.mem_map.1 h
    have hdigit : d.isDigit = true := Nat.isDigit_of_mem_toDigits (by decide) (by decide) hd
    exact Bool.false_ne_true (hc.symm.trans hdigit)
  · exact hbracket (List.mem_singleton.1 h)

/-- **A step is read from its text,** in front of steps that are read from theirs. -/
theorem readFrom_text {step : Step} (hstep : ∀ name, step = .field name → ¬ Awkward name)
    {rest : List Point} {steps : List Step} (hrest : readFrom rest = ([], steps)) :
    readFrom (step.text ++ rest) = ([], step :: steps) := by
  cases step with
  | field name =>
    obtain ⟨-, hname⟩ := not_or.1 (hstep name rfl)
    obtain ⟨hpoint, hbracket⟩ := not_or.1 hname
    rw [Step.text, List.cons_append, readFrom, readFrom_append hpoint hbracket, hrest]
    simp
  | index i =>
    have hpoint : Point.char '.' ∉ (Nat.toDigits 10 i).map .char ++ [.char ']'] :=
      not_mem_digits (by decide) (by decide) i
    have hbracket : Point.char '[' ∉ (Nat.toDigits 10 i).map .char ++ [.char ']'] :=
      not_mem_digits (by decide) (by decide) i
    have hi : Nat.ofDigitChars 10 (Nat.toDigits 10 i) 0 = i :=
      Nat.ofDigitChars_toDigits (by decide) (by decide)
    rw [Step.text, List.cons_append, readFrom, readFrom_append hpoint hbracket, hrest]
    simp [hi]

theorem readFrom_flatMap {steps : List Step} (h : Plain steps) :
    readFrom (steps.flatMap Step.text) = ([], steps) := by
  induction steps with
  | nil => rfl
  | cons step steps ih =>
    rw [List.flatMap_cons]
    refine readFrom_text (fun name hname => h name (hname ▸ List.mem_cons_self)) (ih ?_)
    exact fun name hname => h name (List.mem_cons_of_mem step hname)

/-- **A location without awkward names is read from its path.** -/
theorem read_pathOf {steps : List Step} (h : Plain steps) : read (pathOf steps) = steps := by
  cases steps with
  | nil => rfl
  | cons step steps =>
    have hrest : readFrom (steps.flatMap Step.text) = ([], steps) :=
      readFrom_flatMap fun name hname => h name (List.mem_cons_of_mem step hname)
    have hstep : ∀ name, step = .field name → ¬ Awkward name :=
      fun name hname => h name (hname ▸ List.mem_cons_self)
    have hfirst : step ≠ .field "" := fun he => hstep "" he (.inl rfl)
    rw [read, toList_pathOf_cons hfirst]
    cases step with
    | index i =>
      -- an index has its bracket at the root too
      rw [Step.join, toList_joinIndex, Text.toList_empty, List.nil_append,
        readFrom_text hstep hrest]
      rfl
    | field name =>
      obtain ⟨hname, hsep⟩ := not_or.1 (hstep name rfl)
      obtain ⟨hpoint, hbracket⟩ := not_or.1 hsep
      have hfront : name.toList ≠ [] := mt Text.toList_eq_nil_iff.1 hname
      rw [Step.join, joinField, if_pos rfl, readFrom_append hpoint hbracket, hrest]
      simp [hfront]

/-- Locations of one path without awkward names are the same. -/
theorem eq_of_pathOf_eq {steps steps' : List Step} (h : Plain steps) (h' : Plain steps')
    (heq : pathOf steps = pathOf steps') : steps = steps' := by
  rw [← read_pathOf h, heq, read_pathOf h']

end Location

/-! ### Places of a walk -/

/-- The edge of a step into JSON. -/
def Step.edge : Step → Edge
  | .field name => .key (.text name)
  | .index i => .item i

/-- The steps to a visited place. -/
def Visit.steps {σ : Type} (v : Visit σ) : List Step := v.way.map Edge.step

namespace Validator

variable {σ : Type} [SchemaNode σ]

/-- A branch of JSON is reached by a name or by an index. -/
theorem edge_step_of_mem_branches {node : σ} {d : Datum} (hd : d.IsJson) {b : Branch σ}
    (h : b ∈ branches node d) : b.edge.step.edge = b.edge := by
  cases mem_branches_iff.1 h with
  | declared => rfl
  | item => rfl
  | @other _ _ k _ _ _ hv =>
    -- every key of JSON is a text
    obtain ⟨⟨name, hname⟩, -⟩ := hd.entries _ hv
    obtain rfl : k = .text name := hname
    rfl

/-- **Every place of JSON that a walk visits is reached by names and indices.** -/
theorem way_eq_of_mem_visited {root : Option σ} {new : Datum} (hn : new.IsJson)
    {old : Option Datum} : ∀ v ∈ visited root new old, v.way = v.steps.map Step.edge := by
  have hall : ∀ v ∈ visited root new old,
      v.value.IsJson ∧ v.way = v.steps.map Step.edge := by
    refine visited_invariant (Q := fun v => v.value.IsJson ∧ v.way = v.steps.map Step.edge) ?_
      fun node _ => ⟨hn, rfl⟩
    rintro v ⟨hv, hway⟩ w hw
    obtain ⟨b, hb, rfl⟩ := List.mem_map.1 hw
    refine ⟨hv.of_part (part_of_mem_branches hb), ?_⟩
    have hedge := edge_step_of_mem_branches hv hb
    simp only [Visit.down, Visit.steps, List.map_append, List.map_cons, List.map_nil, hedge]
    rw [← Visit.steps, ← hway]
  exact fun v hv => (hall v hv).2

end Validator

namespace Location

/-- **Paths identify locations up to awkward names.** Two locations of one path are the same unless
a name on one of them is awkward, and a location without such names can be read from its path. So
two places of one path that a walk through JSON visits are the same place, with the same value,
unless a name on the way to one of them is awkward. -/
theorem pathOf_identifies :
    (∀ a b : List Step, a ≠ b → pathOf a = pathOf b →
      ∃ name, (.field name ∈ a ∨ .field name ∈ b) ∧ Awkward name) ∧
    (∀ a : List Step, Plain a → read (pathOf a) = a) ∧
    ∀ (σ : Type) [SchemaNode σ] (root : Option σ) (new : Document) (old : Option Datum),
      new.wellKeyed → ∀ v ∈ visited root (ofDocument new) old,
        ∀ w ∈ visited root (ofDocument new) old, v.path = w.path →
          (∃ name, (.field name ∈ v.steps ∨ .field name ∈ w.steps) ∧ Awkward name) ∨
            v.way = w.way ∧ v.value = w.value := by
  have hkept : ∀ a b : List Step, a ≠ b → pathOf a = pathOf b →
      ∃ name, (.field name ∈ a ∨ .field name ∈ b) ∧ Awkward name := by
    intro a b hne heq
    by_contra hno
    have ha : Plain a := fun name hname hawk => hno ⟨name, .inl hname, hawk⟩
    have hb : Plain b := fun name hname hawk => hno ⟨name, .inr hname, hawk⟩
    exact hne (eq_of_pathOf_eq ha hb heq)
  refine ⟨hkept, fun a => read_pathOf, ?_⟩
  intro σ _ root new old hnew v hv w hw hpath
  by_cases hsteps : v.steps = w.steps
  · have hway : v.way = w.way := by
      rw [way_eq_of_mem_visited ⟨new, rfl⟩ v hv, way_eq_of_mem_visited ⟨new, rfl⟩ w hw, hsteps]
    -- the value at a place lies where the way to it leads
    have hvalue := visited_value (wellKeyed_ofDocument hnew) hv
    rw [hway, visited_value (wellKeyed_ofDocument hnew) hw] at hvalue
    exact .inr ⟨hway, (Option.some.inj hvalue).symm⟩
  · exact .inl (hkept _ _ hsteps hpath)

/-- A name with a point beside two names, a location that is read back, and the first item of a
list among all places of a document. -/
theorem pathOf_identifies_items :
    (∃ name, (.field name ∈ [Step.field "a.b"] ∨ .field name ∈ [Step.field "a", .field "b"]) ∧
      Awkward name) ∧
    read (pathOf [.field "a", .index 0]) = [.field "a", .index 0] ∧
    ∀ w ∈ visited (RawSchema.wrap? .plain listSchema)
        (ofDocument (.object [("a", .list [.text "x", .text "y"])])) (some listOld),
      (itemVisit 0 (.text "x") (some .null)).path = w.path →
        (∃ name, (.field name ∈ (itemVisit 0 (.text "x") (some .null)).steps ∨
          .field name ∈ w.steps) ∧ Awkward name) ∨
          (itemVisit 0 (.text "x") (some .null)).way = w.way ∧
            (itemVisit 0 (.text "x") (some .null)).value = w.value := by
  have hplain : Plain [.field "a", .index 0] := by
    intro name hname
    obtain rfl : name = "a" := by simpa using hname
    decide
  exact ⟨pathOf_identifies.1 _ _ (by decide) (by decide +kernel),
    pathOf_identifies.2.1 _ hplain,
    pathOf_identifies.2.2 RawSchema _ _ _ (by decide +kernel) _ itemVisit_mem.1⟩

end Location

end Admission
