import Admission.Library.Call
import Mathlib.Algebra.BigOperators.Group.List.Basic
import Mathlib.Algebra.Ring.Int.Defs
import Mathlib.Data.List.Infix

/-!
# Exact sums

A sum adds the integers of a list from the front, each of the kind of the first one, and every
total on the way has to fit 64 bits. So there is a sum exactly if all of them fit, and it is the sum
of the numbers then: nothing is lost on the way, and the order of the integers counts only for
whether there is a sum.

* `Integer`: integers of 64 bits, signed or unsigned.
* `IntegerKind.add_value`: adding one integer to another of its kind.
* `sumFrom_eq_ok_iff`: when there is a sum from a total on.
* `SumsExactly`, `sum_exact`: **sums of integers are exact or fail.**
-/

namespace Admission.Library

open Value

/-! ### Integers of 64 bits -/

/-- The two kinds of typed integers. -/
inductive IntegerKind where
  | signed
  | unsigned
  deriving DecidableEq, Repr

namespace IntegerKind

/-- Whether a number fits the 64 bits of a kind. -/
def Fits : IntegerKind → Int → Prop
  | .signed, n => leastInt ≤ n ∧ n ≤ greatestInt
  | .unsigned, n => 0 ≤ n ∧ n ≤ greatestUint

/-- The value of a number of a kind. -/
def value : IntegerKind → Int → Value
  | .signed, n => .int .typed n
  | .unsigned, n => .uint n.toNat

instance : ∀ (k : IntegerKind) (n : Int), Decidable (k.Fits n)
  | .signed, n => inferInstanceAs (Decidable (leastInt ≤ n ∧ n ≤ greatestInt))
  | .unsigned, n => inferInstanceAs (Decidable (0 ≤ n ∧ n ≤ greatestUint))

variable {k k' : IntegerKind} {m n : Int}

theorem fits_zero : k.Fits 0 := by
  cases k <;> decide

/-- Values of different kinds show it. -/
theorem kindOf_value_eq_iff : (k.value m).kindOf = (k'.value n).kindOf ↔ k = k' := by
  cases k <;> cases k' <;> simp [value, kindOf]

/-- **One integer added to another of its kind** is their sum, or nothing if that does not fit. -/
theorem add_value (hm : k.Fits m) (hn : k.Fits n) :
    (k.value m).add (k.value n) =
      if k.Fits (m + n) then .ok (k.value (m + n)) else .error .outOfRange := by
  cases k with
  | signed =>
    change Value.signed (m + n) = _
    unfold Value.signed int?
    by_cases h : leastInt ≤ m + n ∧ m + n ≤ greatestInt
    · rw [if_pos h, if_pos (show IntegerKind.signed.Fits (m + n) from h)]
      rfl
    · rw [if_neg h, if_neg (show ¬ IntegerKind.signed.Fits (m + n) from h)]
      rfl
  | unsigned =>
    change Value.unsigned (m.toNat + n.toNat : Int) = _
    rw [Int.toNat_of_nonneg hm.1, Int.toNat_of_nonneg hn.1]
    unfold Value.unsigned uint?
    by_cases h : 0 ≤ m + n ∧ m + n ≤ greatestUint
    · rw [if_pos h, if_pos (show IntegerKind.unsigned.Fits (m + n) from h)]
      rfl
    · rw [if_neg h, if_neg (show ¬ IntegerKind.unsigned.Fits (m + n) from h)]
      rfl

end IntegerKind

/-- An integer of 64 bits, signed or unsigned. -/
structure Integer where
  kind : IntegerKind
  number : Int
  fits : kind.Fits number

/-- The value of an integer. -/
def Integer.toValue (x : Integer) : Value := x.kind.value x.number

/-- The sum of the numbers of some integers. -/
def total (xs : List Integer) : Int := (xs.map Integer.number).sum

theorem total_nil : total [] = 0 := rfl

theorem total_cons (x : Integer) (xs : List Integer) : total (x :: xs) = x.number + total xs := by
  unfold total
  rw [List.map_cons, List.sum_cons]

theorem total_perm {xs ys : List Integer} (h : xs.Perm ys) : total xs = total ys :=
  (h.map Integer.number).sum_eq

/-! ### Sums -/

variable {k : IntegerKind} {n : Int} {v w : Value} {x : Integer} {xs ys : List Integer} {o : Origin}

/-- The sums of the first few integers of a list, from the second one on. -/
theorem fits_prefixes_cons_iff (hn : k.Fits n) :
    (∀ p, p <+: x :: xs → k.Fits (n + total p)) ↔
      k.Fits (n + x.number) ∧ ∀ p, p <+: xs → k.Fits (n + x.number + total p) := by
  have hcons : ∀ p, n + x.number + total p = n + total (x :: p) := by
    intro p
    rw [total_cons, Int.add_assoc]
  constructor
  · intro h
    have hrest : ∀ p, p <+: xs → k.Fits (n + x.number + total p) := by
      intro p hp
      rw [hcons]
      exact h _ (List.cons_prefix_cons.2 ⟨rfl, hp⟩)
    refine ⟨?_, hrest⟩
    have hfirst := hrest [] List.nil_prefix
    rwa [total_nil, Int.add_zero] at hfirst
  · rintro ⟨-, h⟩ p hp
    obtain rfl | ⟨q, rfl, hq⟩ := List.prefix_cons_iff.1 hp
    · rw [total_nil, Int.add_zero]
      exact hn
    · rw [← hcons]
      exact h q hq

/-- The next integer is added if it is of the kind of the total and the new total fits. -/
theorem sumFrom_cons (hn : k.Fits n) :
    sumFrom (k.value n) ((x :: xs).map Integer.toValue) =
      if x.kind = k then
        if k.Fits (n + x.number) then sumFrom (k.value (n + x.number)) (xs.map Integer.toValue)
        else .error (.ofArithmetic .outOfRange)
      else .error (.mixed x.toValue.kindOf) := by
  have hkinds : x.toValue.kindOf = (k.value n).kindOf ↔ x.kind = k :=
    IntegerKind.kindOf_value_eq_iff
  rw [List.map_cons, sumFrom]
  by_cases hkind : x.kind = k
  · rw [if_pos hkind, if_neg (not_not.2 (hkinds.2 hkind))]
    subst hkind
    rw [Integer.toValue, IntegerKind.add_value hn x.fits]
    by_cases hfits : x.kind.Fits (n + x.number)
    · rw [if_pos hfits, if_pos hfits]
    · rw [if_neg hfits, if_neg hfits]
  · rw [if_neg hkind, if_pos (mt hkinds.1 hkind)]

/-- **There is a sum from a total on** exactly if all integers are of its kind and each total on the
way fits; it is the sum of the numbers. -/
theorem sumFrom_eq_ok_iff (hn : k.Fits n) :
    sumFrom (k.value n) (xs.map Integer.toValue) = .ok v ↔
      (∀ x ∈ xs, x.kind = k) ∧ (∀ p, p <+: xs → k.Fits (n + total p)) ∧
        v = k.value (n + total xs) := by
  -- the total so far is part of every later total, so it is generalized
  induction xs generalizing n with
  | nil =>
    have hzero : n + total [] = n := by rw [total_nil, Int.add_zero]
    constructor
    · intro h
      refine ⟨fun x hx => absurd hx List.not_mem_nil, fun p hp => ?_, ?_⟩
      · rw [List.prefix_nil.1 hp, hzero]
        exact hn
      · rw [hzero]
        exact (Except.ok.inj h).symm
    · rintro ⟨-, -, rfl⟩
      rw [hzero]
      rfl
  | cons x xs ih =>
    rw [sumFrom_cons hn, fits_prefixes_cons_iff hn, List.forall_mem_cons, total_cons,
      ← Int.add_assoc]
    by_cases hkind : x.kind = k
    · rw [if_pos hkind]
      by_cases hfits : k.Fits (n + x.number)
      · rw [if_pos hfits, ih hfits]
        tauto
      · rw [if_neg hfits]
        exact iff_of_false (nomatch ·) (fun h => hfits h.2.1.1)
    · rw [if_neg hkind]
      exact iff_of_false (nomatch ·) (fun h => hkind h.1.1)

/-- The outcome of the sum of some integers. -/
def sumOf (o : Origin) (xs : List Integer) : Except Fault Value :=
  apply .sum [.list o (xs.map Integer.toValue)]

/-- **There is a sum of some integers** exactly if all are of the kind of the first one and each
total on the way fits; it is the sum of the numbers. -/
theorem sumOf_cons_eq_ok_iff :
    sumOf o (x :: xs) = .ok v ↔
      (∀ y ∈ x :: xs, y.kind = x.kind) ∧ (∀ p, p <+: x :: xs → x.kind.Fits (total p)) ∧
        v = x.kind.value (total (x :: xs)) := by
  have hprefixes : (∀ p, p <+: x :: xs → x.kind.Fits (total p)) ↔
      x.kind.Fits x.number ∧ ∀ p, p <+: xs → x.kind.Fits (x.number + total p) := by
    simpa only [Int.zero_add] using fits_prefixes_cons_iff x.kind.fits_zero
  have hsum : sumOf o (x :: xs) = sumFrom (x.kind.value x.number) (xs.map Integer.toValue) := rfl
  rw [hsum, sumFrom_eq_ok_iff x.fits, hprefixes, total_cons, List.forall_mem_cons]
  have hfits := x.fits
  tauto

/-- **What it means that the sum of integers of a kind is exact or fails.** -/
structure IsExact (k : IntegerKind) (xs : List Integer) (outcome : Except Fault Value) : Prop where
  /-- There is a sum exactly if the sum of each first few of them fits. -/
  ok_iff : (∃ v, outcome = .ok v) ↔ ∀ p, p <+: xs → k.Fits (total p)
  /-- It is the sum of the numbers, as an integer of the kind. -/
  value : ∀ v, outcome = .ok v → v = k.value (total xs)

/-- The sum of integers of one kind is exact or fails, if there is one of them. -/
theorem isExact_sumOf_cons (h : ∀ y ∈ x :: xs, y.kind = k) :
    IsExact k (x :: xs) (sumOf o (x :: xs)) := by
  obtain rfl : x.kind = k := h x List.mem_cons_self
  constructor
  · constructor
    · rintro ⟨v, hv⟩
      exact (sumOf_cons_eq_ok_iff.1 hv).2.1
    · intro hfits
      exact ⟨_, sumOf_cons_eq_ok_iff.2 ⟨h, hfits, rfl⟩⟩
  · intro v hv
    exact (sumOf_cons_eq_ok_iff.1 hv).2.2

/-- The sum of no integers is a signed zero. -/
theorem isExact_sumOf_nil : IsExact .signed [] (sumOf o []) := by
  have hzero : sumOf o [] = .ok (IntegerKind.signed.value (total [])) := rfl
  constructor
  · refine ⟨fun _ p hp => ?_, fun _ => ⟨_, hzero⟩⟩
    rw [List.prefix_nil.1 hp]
    exact IntegerKind.fits_zero
  · intro v hv
    exact (Except.ok.inj (hzero.symm.trans hv)).symm

/-- The kind of a sum is the kind of the integers, in every order of them. -/
theorem sumOf_perm (h : xs.Perm ys) (hx : sumOf o xs = .ok v) (hy : sumOf o ys = .ok w) :
    v = w := by
  cases xs with
  | nil =>
    rw [List.nil_perm.1 h] at hy
    exact Except.ok.inj (hx.symm.trans hy)
  | cons x xs =>
    cases ys with
    | nil => exact absurd h (List.cons_ne_nil x xs ∘ List.perm_nil.1)
    | cons y ys =>
      obtain ⟨hkind, -, rfl⟩ := sumOf_cons_eq_ok_iff.1 hx
      obtain ⟨-, -, rfl⟩ := sumOf_cons_eq_ok_iff.1 hy
      rw [total_perm h, hkind y (h.symm.subset List.mem_cons_self)]

/-- **What it means that sums of integers are exact or fail.** -/
structure SumsExactly (o : Origin) : Prop where
  signed : ∀ xs, (∀ x ∈ xs, x.kind = .signed) → IsExact .signed xs (sumOf o xs)
  unsigned : ∀ xs, xs ≠ [] → (∀ x ∈ xs, x.kind = .unsigned) → IsExact .unsigned xs (sumOf o xs)
  /-- Integers of another kind than the first one have no sum with it. -/
  mixed : ∀ x xs, (∃ y ∈ x :: xs, y.kind ≠ x.kind) → ∀ v, sumOf o (x :: xs) ≠ .ok v
  /-- Where there is a sum in two orders, it is the same. -/
  order : ∀ xs ys v w, xs.Perm ys → sumOf o xs = .ok v → sumOf o ys = .ok w → v = w

/-- **Sums of integers are exact or fail.** -/
theorem sum_exact (o : Origin) : SumsExactly o where
  signed xs h := by
    cases xs with
    | nil => exact isExact_sumOf_nil
    | cons x xs => exact isExact_sumOf_cons h
  unsigned xs hne h := by
    cases xs with
    | nil => exact absurd rfl hne
    | cons x xs => exact isExact_sumOf_cons h
  mixed x xs hmixed v hv := by
    obtain ⟨y, hy, hkind⟩ := hmixed
    exact hkind ((sumOf_cons_eq_ok_iff.1 hv).1 y hy)
  order _ _ _ _ h := sumOf_perm h

/-- At the ends of the two kinds, for the two kinds together, and for two integers in both
orders. -/
theorem sum_exact_extremes :
    IsExact .signed [⟨.signed, greatestInt, by decide⟩, ⟨.signed, 1, by decide⟩]
      (sumOf .typed [⟨.signed, greatestInt, by decide⟩, ⟨.signed, 1, by decide⟩]) ∧
    IsExact .unsigned [⟨.unsigned, greatestUint, by decide⟩]
      (sumOf .typed [⟨.unsigned, greatestUint, by decide⟩]) ∧
    sumOf .typed [⟨.signed, 1, by decide⟩, ⟨.unsigned, 1, by decide⟩] ≠ .ok (.int .typed 2) ∧
    ∀ v w, sumOf .typed [⟨.signed, leastInt, by decide⟩, ⟨.signed, 1, by decide⟩] = .ok v →
      sumOf .typed [⟨.signed, 1, by decide⟩, ⟨.signed, leastInt, by decide⟩] = .ok w → v = w :=
  ⟨(sum_exact .typed).signed _ (by decide), (sum_exact .typed).unsigned _ (by decide) (by decide),
    (sum_exact .typed).mixed _ _ (by decide) _,
    fun v w => (sum_exact .typed).order _ _ v w (.swap _ _ [])⟩

/-- The order counts for whether there is a sum. -/
example :
    sumOf .typed [⟨.signed, greatestInt, by decide⟩, ⟨.signed, 1, by decide⟩,
      ⟨.signed, -1, by decide⟩] = .error .badContents ∧
    sumOf .typed [⟨.signed, greatestInt, by decide⟩, ⟨.signed, -1, by decide⟩,
      ⟨.signed, 1, by decide⟩] = .ok (.int .typed greatestInt) := ⟨by rfl, by rfl⟩

end Admission.Library
