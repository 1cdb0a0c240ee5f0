import Mathlib.Data.List.Basic
import Mathlib.Data.List.TakeWhile
import Mathlib.Tactic.Ring
import Admission.Text.Digit

/-!
# Rows of digits and the numbers that they write

The grammars of durations and date-times are made of rows of digits. Which characters are digits,
and what they are worth, is left open: `decimalDigit?` reads the digits of every script.

* `Numeral`: a row of digits writes a number.
* `Numeral.append`: rows behind one another.
* `takeWhile_run`: where a run of digits ends.
* `numeral_iff`: the numbers of rows as they are read.
* `numeral_toDigits`, `numeral_padded`: the rows that numbers are written with.
-/

namespace Admission.Text

/-- **A row of digits writes a number**: each digit counts ten times for every digit behind it. -/
inductive Numeral (digit? : Point → Option Nat) : List Point → Nat → Prop where
  | nil : Numeral digit? [] 0
  | cons {c : Point} {d : Nat} {cs : List Point} {n : Nat} (head : digit? c = some d)
      (tail : Numeral digit? cs n) : Numeral digit? (c :: cs) (d * 10 ^ cs.length + n)

variable {digit? digit?' : Point → Option Nat} {cs : List Point} {n : Nat}

namespace Numeral

/-- Every character of a row is a digit. -/
theorem isSome (h : Numeral digit? cs n) : ∀ c ∈ cs, (digit? c).isSome := by
  induction h with
  | nil => exact fun c hc => absurd hc List.not_mem_nil
  | cons head _ ih =>
    intro c hc
    rcases List.mem_cons.1 hc with rfl | hc
    · rw [head, Option.isSome_some]
    · exact ih c hc

/-- A row is one in every reading that gives its digits the same values. -/
theorem mono (hm : ∀ c ∈ cs, ∀ d, digit? c = some d → digit?' c = some d)
    (h : Numeral digit? cs n) : Numeral digit?' cs n := by
  induction h with
  | nil => exact nil
  | cons head _ ih =>
    have htail := ih fun c hc => hm c (List.mem_cons_of_mem _ hc)
    exact cons (hm _ List.mem_cons_self _ head) htail

/-- A row before another one counts ten times for every digit of that. -/
theorem append {cs' : List Point} {n' : Nat} (h : Numeral digit? cs n)
    (h' : Numeral digit? cs' n') : Numeral digit? (cs ++ cs') (n * 10 ^ cs'.length + n') := by
  induction h with
  | nil => simpa using h'
  | @cons c d cs n head _ ih =>
    have hpow : d * 10 ^ (cs ++ cs').length = d * 10 ^ cs.length * 10 ^ cs'.length := by
      rw [List.length_append, Nat.pow_add, Nat.mul_assoc]
    have hsum := cons head ih
    rw [hpow, ← Nat.add_assoc, ← Nat.add_mul] at hsum
    exact hsum

end Numeral

/-! ### Reading -/

/-- A run of characters of a class ends where something else follows. -/
theorem takeWhile_run {p : Point → Bool} {run rest : List Point} (hrun : ∀ c ∈ run, p c)
    (hrest : ∀ c ∈ rest.head?, p c = false) :
    (run ++ rest).takeWhile p = run ∧ (run ++ rest).dropWhile p = rest := by
  rw [List.takeWhile_append_of_pos hrun, List.dropWhile_append_of_pos hrun]
  cases rest with
  | nil => simp
  | cons c rest => simp [hrest c rfl]

/-- One more digit in front counts ten times for every digit behind it. -/
theorem natOfDigits_cons (d : Nat) (ds : List Nat) :
    natOfDigits (d :: ds) = d * 10 ^ ds.length + natOfDigits ds := by
  have hfold : ∀ (ds : List Nat) (m : Nat),
      ds.foldl (fun n d => 10 * n + d) m = m * 10 ^ ds.length + natOfDigits ds := by
    intro ds
    induction ds with
    | nil => intro m; simp [natOfDigits]
    | cons d ds ih =>
      intro m
      rw [natOfDigits, List.foldl_cons, List.foldl_cons, ih, ih (10 * 0 + d), List.length_cons,
        Nat.pow_succ]
      ring
  rw [natOfDigits, List.foldl_cons, hfold, Nat.mul_zero, Nat.zero_add]

/-- Digits before others count ten times for every digit of those. -/
theorem natOfDigits_append (ds ds' : List Nat) :
    natOfDigits (ds ++ ds') = natOfDigits ds * 10 ^ ds'.length + natOfDigits ds' := by
  induction ds with
  | nil => simp [natOfDigits]
  | cons d ds ih =>
    rw [List.cons_append, natOfDigits_cons, natOfDigits_cons, ih, List.length_append]
    ring

/-- Digits below ten make a number below ten to their count. -/
theorem natOfDigits_lt {ds : List Nat} (h : ∀ d ∈ ds, d < 10) :
    natOfDigits ds < 10 ^ ds.length := by
  induction ds with
  | nil => decide
  | cons d ds ih =>
    have hd : d + 1 ≤ 10 := h d List.mem_cons_self
    have htail := ih fun e he => h e (List.mem_cons_of_mem d he)
    have hmul : (d + 1) * 10 ^ ds.length ≤ 10 * 10 ^ ds.length := Nat.mul_le_mul_right _ hd
    rw [Nat.add_mul] at hmul
    rw [natOfDigits_cons, List.length_cons, Nat.pow_succ]
    omega

theorem natOfDigits_zeros (k : Nat) : natOfDigits (List.replicate k 0) = 0 := by
  induction k with
  | zero => rfl
  | succ k ih => rw [List.replicate_succ, natOfDigits_cons, ih, Nat.zero_mul]

theorem length_of_digitValues? {ds : List Nat} (h : digitValues? cs = some ds) :
    ds.length = cs.length := by
  induction cs generalizing ds with
  | nil => obtain rfl := Option.some.inj h; rfl
  | cons c cs ih =>
    simp only [digitValues?, List.mapM_cons, Option.bind_eq_bind, Option.bind_eq_some_iff,
      Option.pure_def, Option.some.injEq] at h
    obtain ⟨d, -, ds', hds, rfl⟩ := h
    rw [List.length_cons, List.length_cons, ih hds]

/-- Digits are below ten. -/
theorem lt_ten_of_digitValues? {ds : List Nat} (h : digitValues? cs = some ds) :
    ∀ d ∈ ds, d < 10 := by
  induction cs generalizing ds with
  | nil =>
    obtain rfl := Option.some.inj h
    exact fun d hd => absurd hd List.not_mem_nil
  | cons c cs ih =>
    simp only [digitValues?, List.mapM_cons, Option.bind_eq_bind, Option.bind_eq_some_iff,
      Option.pure_def, Option.some.injEq] at h
    obtain ⟨d, hd, ds', hds, rfl⟩ := h
    exact List.forall_mem_cons.2 ⟨decimalDigit?_lt hd, ih hds⟩

/-- **The number of a row is the one that is read from its digits.** -/
theorem numeral_iff :
    Numeral decimalDigit? cs n ↔ ∃ ds, digitValues? cs = some ds ∧ n = natOfDigits ds := by
  induction cs generalizing n with
  | nil =>
    constructor
    · rintro ⟨⟩
      exact ⟨[], rfl, rfl⟩
    · rintro ⟨ds, hds, rfl⟩
      obtain rfl := Option.some.inj hds
      exact .nil
  | cons c cs ih =>
    simp only [digitValues?, List.mapM_cons, Option.bind_eq_bind, Option.bind_eq_some_iff,
      Option.pure_def, Option.some.injEq]
    constructor
    · rintro (_ | ⟨head, tail⟩)
      obtain ⟨ds, hds, rfl⟩ := ih.1 tail
      refine ⟨_, ⟨_, head, ds, hds, rfl⟩, ?_⟩
      rw [natOfDigits_cons, length_of_digitValues? hds]
    · rintro ⟨_, ⟨d, head, ds, hds, rfl⟩, rfl⟩
      rw [natOfDigits_cons, length_of_digitValues? hds]
      exact .cons head (ih.2 ⟨ds, hds, rfl⟩)

/-- A row of digits writes some number. -/
theorem exists_numeral (h : ∀ c ∈ cs, isDecimalDigit c) : ∃ n, Numeral decimalDigit? cs n := by
  induction cs with
  | nil => exact ⟨0, .nil⟩
  | cons c cs ih =>
    obtain ⟨d, head⟩ := Option.isSome_iff_exists.1 (h c List.mem_cons_self)
    obtain ⟨n, tail⟩ := ih fun c hc => h c (List.mem_cons_of_mem _ hc)
    exact ⟨_, .cons head tail⟩

/-- The number that is read from a row of digits is the one that it writes. -/
theorem numeral_read (h : ∀ c ∈ cs, isDecimalDigit c) :
    Numeral decimalDigit? cs n ↔ n = natOfDigits ((digitValues? cs).getD []) := by
  obtain ⟨m, hm⟩ := exists_numeral h
  obtain ⟨ds, hds, rfl⟩ := numeral_iff.1 hm
  rw [numeral_iff, hds, Option.getD_some]
  constructor
  · rintro ⟨ds', hds', rfl⟩
    rw [Option.some.inj hds']
  · exact fun hn => ⟨ds, rfl, hn⟩

/-! ### Writing -/

/-- The digits that numbers are written with have their values. -/
def ReadsDigits (digit? : Point → Option Nat) : Prop :=
  ∀ d < 10, digit? (.char (Nat.digitChar d)) = some d

theorem readsDigits_decimalDigit? : ReadsDigits decimalDigit? := by
  unfold ReadsDigits
  decide

/-- A digit more at the end. -/
theorem Numeral.concat (hr : ReadsDigits digit?) (h : Numeral digit? cs n) {d : Nat}
    (hd : d < 10) : Numeral digit? (cs ++ [.char (Nat.digitChar d)]) (n * 10 + d) := by
  have hlast : Numeral digit? [.char (Nat.digitChar d)] (d * 10 ^ 0 + 0) := .cons (hr d hd) .nil
  simpa using h.append hlast

/-- **A number as it is printed** is a row of digits that writes it. -/
theorem numeral_toDigits (hr : ReadsDigits digit?) (n : Nat) :
    Numeral digit? ((Nat.toDigits 10 n).map .char) n := by
  induction n using Nat.strong_induction_on with
  | _ n ih =>
    by_cases hn : n < 10
    · rw [Nat.toDigits_of_lt_base hn]
      simpa using Numeral.nil.concat hr hn
    · have hdiv : n / 10 < n := by omega
      have hmod : n % 10 < 10 := Nat.mod_lt n (by decide)
      have hrow := (ih (n / 10) hdiv).concat hr hmod
      rw [Nat.toDigits_of_base_le (by decide) (by omega)]
      rw [List.map_append]
      rwa [show n / 10 * 10 + n % 10 = n by omega] at hrow

/-- The last `width` digits of a number. -/
def padded : Nat → Nat → List Point
  | 0, _ => []
  | width + 1, n => padded width (n / 10) ++ [.char (Nat.digitChar (n % 10))]

theorem length_padded (width n : Nat) : (padded width n).length = width := by
  induction width generalizing n with
  | zero => rfl
  | succ width ih => rw [padded, List.length_append, ih, List.length_singleton]

/-- **A number with zeros before it** is a row of digits that writes it, if there is room. -/
theorem numeral_padded (hr : ReadsDigits digit?) {width : Nat} (hn : n < 10 ^ width) :
    Numeral digit? (padded width n) n := by
  induction width generalizing n with
  | zero =>
    obtain rfl : n = 0 := by omega
    exact .nil
  | succ width ih =>
    have hdiv : n / 10 < 10 ^ width := by rw [Nat.pow_succ] at hn; omega
    have hmod : n % 10 < 10 := Nat.mod_lt n (by decide)
    have hrow := (ih hdiv).concat hr hmod
    rwa [show n / 10 * 10 + n % 10 = n by omega] at hrow

end Admission.Text
