import Admission.Proofs.Splitting

/-!
# Occurrences replaced

Replacing the occurrences of a text is splitting at them and joining the parts with the new text.
The limit counts replacements here and parts there, so it is one less. The empty text occurs before
each character and at the end, and between no two parts; there the new text is inserted.

* `Text.intercalate_cut_eq_substitute`: cutting and joining with another list substitutes.
* `Text.inserted`: a list with another one before each of its first elements and at its end.
* `Library.replace_text`: what a text is with the occurrences of another one replaced.
* `Library.Replaces`, `Library.replace_eq_join_split`: **replacing is splitting and joining.**
-/

namespace Admission

namespace Text

variable {α : Type} {new s : List α} {k : Nat}

section

variable [BEq α] {old : List α} {n : Nat}

/-- **Cutting and joining with another list** substitutes that list for the separators. -/
theorem intercalate_cut_eq_substitute (old new : List α) (n : Nat) (s : List α) :
    new.intercalate (cut old n s) = substitute old new n s := by
  fun_induction cut old n s with
  | case1 s =>
    rw [substitute]
    exact List.intercalate_singleton
  | case2 n s h =>
    rw [substitute, h]
    exact List.intercalate_singleton
  | case3 n s i h ih =>
    rw [substitute, h, List.intercalate_cons_of_ne_nil (cut_ne_nil _ _ _), ih]

/-- What is not empty occurs at most as often as there are elements. -/
theorem substitute_succ (hold : old ≠ []) (hn : s.length ≤ n) :
    substitute old new (n + 1) s = substitute old new n s := by
  have hpos : 0 < old.length := List.length_pos_iff.2 hold
  induction n generalizing s with
  | zero =>
    obtain rfl := List.length_eq_zero_iff.1 (Nat.le_zero.1 hn)
    have hnone : firstIndex? old [] = none := by
      rw [firstIndex?, if_neg (mt List.isEmpty_iff.1 hold)]
    simp only [substitute, hnone]
  | succ n ih =>
    rw [substitute, substitute]
    cases hi : firstIndex? old s with
    | none => rfl
    | some i =>
      have hrest : (s.drop (i + old.length)).length ≤ n := by
        rw [List.length_drop]
        omega
      simp only [ih hrest]

end

/-- A list with `new` before each of its first `k` elements, and at the end if that is one more than
there are. -/
def inserted (new : List α) (k : Nat) (s : List α) : List α :=
  (s.take k).flatMap (fun c => new ++ [c]) ++ s.drop k ++ if s.length < k then new else []

/-- Putting a list between elements inserts it. -/
theorem interleave_eq_inserted (new : List α) (k : Nat) (s : List α) :
    interleave new k s = inserted new k s := by
  fun_induction interleave new k s with
  | case1 s => simp [inserted]
  | case2 k => simp [inserted]
  | case3 k c s ih =>
    rw [ih]
    simp [inserted]

/-- Beyond the end nothing is inserted. -/
theorem inserted_min (new : List α) (k : Nat) (s : List α) :
    inserted new (min k (s.length + 1)) s = inserted new k s := by
  by_cases hk : k ≤ s.length + 1
  · rw [Nat.min_eq_left hk]
  · have hbeyond : s.length < k := by omega
    rw [Nat.min_eq_right (by omega), inserted, inserted, if_pos hbeyond, if_pos (by omega),
      List.take_of_length_le (by omega), List.take_of_length_le (by omega),
      List.drop_of_length_le (by omega), List.drop_of_length_le (by omega)]

/-- So many times a list is inserted as it is said. -/
theorem length_inserted (h : k ≤ s.length + 1) :
    (inserted new k s).length = s.length + k * new.length := by
  have hfirst : ∀ l : List α, (l.flatMap fun c => new ++ [c]).length =
      l.length + l.length * new.length := by
    intro l
    induction l with
    | nil => simp
    | cons c l ih =>
      simp only [List.flatMap_cons, List.length_append, List.length_cons, List.length_nil, ih,
        Nat.add_mul]
      omega
  rw [inserted, List.length_append, List.length_append, hfirst, List.length_take, List.length_drop]
  by_cases hk : s.length < k
  · obtain rfl : k = s.length + 1 := by omega
    rw [if_pos hk, Nat.min_eq_right (by omega), Nat.add_mul]
    omega
  · rw [if_neg hk, Nat.min_eq_left (by omega), List.length_nil]
    omega

end Text

namespace Library

open Text

variable {o₁ o₂ o₃ : Origin} {s old new : Text} {n : Int}

theorem Limit.apply_replace {limit : List Value} (h : Limit limit n) (text old new : Value) :
    apply .replace (text :: old :: new :: limit) = replace text old new (.int .typed n) := by
  cases h <;> rfl

/-- **A text with the occurrences of another one replaced,** as many as the limit says. -/
theorem replace_text (o₁ o₂ o₃ : Origin) (s old new : Text) (hn : n ≠ 0)
    (hmax : n ≤ Value.greatestInt) :
    replace (.text o₁ s) (.text o₂ old) (.text o₃ new) (.int .typed n) =
      .ok (.ofString (Text.ofList
        (if old.toList.isEmpty then
          interleave new.toList (if n < 0 then s.toList.length + 1 else n.toNat) s.toList
        else
          substitute old.toList new.toList (if n < 0 then s.toList.length + 1 else n.toNat)
            s.toList))) := by
  have hint : requireInt ⟨.replace, .limit⟩ (.int .typed n) = .ok n := rfl
  simp only [replace, hint, replaceIn, times_eq hmax, if_neg hn, bind, Except.bind, pure,
    Except.pure]

/-- The outcome of replacing. -/
def replaced (o₁ o₂ o₃ : Origin) (s old new : Text) (limit : List Value) : Except Fault Value :=
  apply .replace (.text o₁ s :: .text o₂ old :: .text o₃ new :: limit)

/-- The outcome of splitting and joining the parts with another text. -/
def rejoined (o₁ o₂ o₃ : Origin) (s old new : Text) (limit : List Value) :
    Except Fault Value := do
  let parts ← apply .split (.text o₁ s :: .text o₂ old :: limit)
  apply .join [parts, .text o₃ new]

/-- How often the empty text is replaced in a text of a length, under a limit that is not zero. -/
def insertions (n : Int) (length : Nat) : Nat :=
  if n < 0 then length + 1 else min n.toNat (length + 1)

/-- **What it means that a text is put into another one** some number of times, from the front. -/
structure Inserts (s new : Text) (k : Nat) (r : Text) : Prop where
  /-- It stands before each of the first characters, and behind the last one if there are fewer. -/
  inserted : r.toList = inserted new.toList k s.toList
  count : r.length = s.length + k * new.length

/-- **What it means that replacing is splitting and joining.** -/
structure Replaces (o₁ o₂ o₃ : Origin) (s old new : Text) : Prop where
  /-- Without a limit, and under negative ones, all occurrences are replaced. -/
  all : old ≠ "" → ∀ limit limit' n n', Limit limit n → n < 0 → Limit limit' n' → n' < 0 →
    ∃ r, replaced o₁ o₂ o₃ s old new limit = .ok (.ofString r) ∧
      rejoined o₁ o₂ o₃ s old new limit' = .ok (.ofString r)
  /-- A limit on replacements is one on parts, of which there is one more. -/
  first : old ≠ "" → ∀ n : Int, 0 < n → n < Value.greatestInt →
    ∃ r, replaced o₁ o₂ o₃ s old new [.int .typed n] = .ok (.ofString r) ∧
      rejoined o₁ o₂ o₃ s old new [.int .typed (n + 1)] = .ok (.ofString r)
  /-- The empty text is replaced before the first characters, and behind the last one. -/
  empty : old = "" → ∀ limit n, Limit limit n → n ≠ 0 →
    ∃ r, replaced o₁ o₂ o₃ s old new limit = .ok (.ofString r) ∧
      Inserts s new (insertions n s.length) r
  /-- Under the limit zero nothing is replaced. -/
  none : replaced o₁ o₂ o₃ s old new [.int .typed 0] = .ok (.ofString s)

/-- What splitting and joining gives, by the number of cuts. -/
theorem rejoined_eq {limit : List Value} (hlimit : Limit limit n) (hold : old ≠ "") (hn : n ≠ 0) :
    rejoined o₁ o₂ o₃ s old new limit = .ok (.ofString (Text.ofList
      (substitute old.toList new.toList (if 0 < n then (n - 1).toNat else s.toList.length)
        s.toList))) := by
  rw [rejoined, hlimit.apply_split, split_text o₁ o₂ s hold hn hlimit.le_greatest]
  change apply .join [listOf _, .text o₃ new] = _
  rw [apply_join, intercalate_ofList, intercalate_cut_eq_substitute, Text.length_toList]

/-- What replacing a text that is not empty gives. -/
theorem replaced_eq {limit : List Value} (hlimit : Limit limit n) (hold : old ≠ "") (hn : n ≠ 0) :
    replaced o₁ o₂ o₃ s old new limit = .ok (.ofString (Text.ofList
      (substitute old.toList new.toList (if n < 0 then s.toList.length + 1 else n.toNat)
        s.toList))) := by
  have hempty : ¬ old.toList.isEmpty := by simpa using hold
  rw [replaced, hlimit.apply_replace, replace_text o₁ o₂ o₃ s old new hn hlimit.le_greatest,
    if_neg hempty]

/-- What replacing the empty text gives. -/
theorem replaced_empty {limit : List Value} (hlimit : Limit limit n) (hn : n ≠ 0) :
    replaced o₁ o₂ o₃ s "" new limit = .ok (.ofString (Text.ofList
      (inserted new.toList (insertions n s.length) s.toList))) := by
  have hcount : inserted new.toList (if n < 0 then s.toList.length + 1 else n.toNat) s.toList =
      inserted new.toList (insertions n s.length) s.toList := by
    rw [insertions, ← Text.length_toList]
    by_cases hneg : n < 0
    · rw [if_pos hneg, if_pos hneg]
    · rw [if_neg hneg, if_neg hneg, inserted_min]
  have hempty : (Text.toList "").isEmpty := rfl
  rw [replaced, hlimit.apply_replace, replace_text o₁ o₂ o₃ s "" new hn hlimit.le_greatest,
    if_pos hempty, interleave_eq_inserted, hcount]

theorem insertions_le (n : Int) (length : Nat) : insertions n length ≤ length + 1 := by
  rw [insertions]
  split
  · exact Nat.le_refl _
  · exact Nat.min_le_right _ _

/-- **Replacing is splitting and joining,** but for the empty text, which is replaced between all
characters. -/
theorem replace_eq_join_split (o₁ o₂ o₃ : Origin) (s old new : Text) :
    Replaces o₁ o₂ o₃ s old new where
  all hold limit limit' n n' hlimit hneg hlimit' hneg' := by
    have hlist : old.toList ≠ [] := by simpa using hold
    refine ⟨_, replaced_eq hlimit hold (by omega), ?_⟩
    rw [rejoined_eq hlimit' hold (by omega), if_neg (by omega), if_pos hneg,
      substitute_succ hlist (Nat.le_refl _)]
  first hold n hpos hmax := by
    have hleast : Value.leastInt ≤ n := by
      simp only [Value.leastInt]
      omega
    have hlimit : Limit [.int .typed n] n := .int hleast (by omega)
    have hlimit' : Limit [.int .typed (n + 1)] (n + 1) := .int (by omega) (by omega)
    refine ⟨_, replaced_eq hlimit hold (by omega), ?_⟩
    rw [rejoined_eq hlimit' hold (by omega), if_pos (by omega), if_neg (by omega),
      Int.add_sub_cancel]
  empty hold limit n hlimit hn := by
    subst hold
    have hcount : (inserted new.toList (insertions n s.length) s.toList).length =
        s.toList.length + insertions n s.length * new.toList.length :=
      length_inserted (Text.length_toList ▸ insertions_le n s.length)
    refine ⟨_, replaced_empty hlimit hn, Text.toList_ofList, ?_⟩
    rw [Text.length_ofList, hcount, Text.length_toList, Text.length_toList]
  none := rfl

/-- All occurrences, the first one, and the empty text in front of one character. -/
theorem replace_eq_join_split_dots :
    (∃ r, replaced .typed .typed .typed "a.b.c" "." "::" [] = .ok (.ofString r) ∧
      rejoined .typed .typed .typed "a.b.c" "." "::" [.int .typed (-1)] = .ok (.ofString r)) ∧
    (∃ r, replaced .typed .typed .typed "a.b.c" "." "::" [.int .typed 1] = .ok (.ofString r) ∧
      rejoined .typed .typed .typed "a.b.c" "." "::" [.int .typed (1 + 1)] = .ok (.ofString r)) ∧
    ∃ r, replaced .typed .typed .typed "a.b.c" "" "::" [.int .typed 1] = .ok (.ofString r) ∧
      Inserts "a.b.c" "::" (insertions 1 "a.b.c".length) r :=
  ⟨(replace_eq_join_split .typed .typed .typed "a.b.c" "." "::").all (by decide) [] _ _ _ .none
      (by decide) (.int (by decide) (by decide)) (by decide),
    (replace_eq_join_split .typed .typed .typed "a.b.c" "." "::").first (by decide) 1 (by decide)
      (by decide),
    (replace_eq_join_split .typed .typed .typed "a.b.c" "" "::").empty rfl _ 1
      (.int (by decide) (by decide)) (by decide)⟩

/-- What was put in is not searched again. -/
example : replaced .typed .typed .bare "aaa" "a" "aa" [] = .ok (.ofString "aaaaaa") := by rfl

end Library

end Admission
