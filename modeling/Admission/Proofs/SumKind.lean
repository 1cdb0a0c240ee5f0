import Admission.Library.Call
import Mathlib.Algebra.BigOperators.Group.List.Basic
import Mathlib.Algebra.Ring.Int.Defs
import Mathlib.Data.List.Infix

/-!
# Kinds of sums

A sum takes each item only if it is of the kind that the total has by then. This is the kind of the
first item until something was added to it, and the kind of what an addition gives from then on.
Integers and durations stay what they are, so lists of them are taken at every length. Typed floats,
texts, bytes and lists lose their type and booleans become integers, so a third one of them is
refused. The first item is not looked at: where nothing follows it is its own sum, whatever it is.

* `Kind.sum?`: the kind of the sum of two values of a kind.
* `AddKinds`, `TotalsFit`: the kinds of a list follow the total, and the totals fit.
* `added_add`: adding a value to another of its kind.
* `Summed`, `summed_sumFrom`: why a list has a sum or has none.
* `SumsByKind`, `sum_byKind`: **a sum goes by the kinds of the items and of the totals.**
-/

namespace Admission

open Value (int? uint? duration? bareDuration?)

/-! ### Kinds that can be added -/

/-- The kind of the sum of two values of a kind, if they can be added. -/
def Kind.sum? : Kind → Option Kind
  | .bool | .truth => some (.int .bare)
  | .int o => some (.int o)
  | .uint => some .uint
  | .double _ => some (.double .bare)
  | .text _ => some (.text .bare)
  | .bytes _ => some (.bytes .bare)
  | .list _ => some (.list .bare)
  | .duration o => some (.duration o)
  | _ => none

/-- Whether a total fits the values of a kind. Integers and durations have bounds. -/
def Kind.fits : Kind → Int → Bool
  | .int .typed, n => (int? n).isSome
  | .uint, n => (uint? n).isSome
  | .duration .typed, n => (duration? n).isSome
  | .duration .bare, n => (bareDuration? n).isSome
  | _, _ => true

/-- What a value with bounds adds to a total: its number, or its microseconds. -/
def Value.amount : Value → Int
  | .bool n | .int _ n | .duration _ n => n
  | .truth b => b.toInt
  | .uint n => n
  | _ => 0

/-- The types of numbers. -/
inductive NumberType where
  | int
  | uint
  | double
  deriving DecidableEq, Repr

/-- The type of the numbers of a kind. -/
def Kind.numberType? : Kind → Option NumberType
  | .int _ => some .int
  | .uint => some .uint
  | .double _ => some .double
  | _ => none

variable {k k' : Kind} {ks : List Kind}

/-- Adding to a sum does not change its kind again. -/
theorem Kind.sum?_of_sum? (h : k.sum? = some k') : k'.sum? = some k' := by
  cases k <;> cases h <;> rfl

/-- The sum of numbers is a number of their type. -/
theorem Kind.numberType?_of_sum? (h : k.sum? = some k') {t : NumberType}
    (ht : k.numberType? = some t) : k'.numberType? = some t := by
  cases k with
  | bool | truth => cases ht
  | _ => cases h <;> exact ht

namespace Library

/-- **The kinds of a list add up:** the second item is of the kind of the first one, these can be
added, and all others are of the kind of their sum. -/
def AddKinds : List Kind → Prop
  | [] | [_] => True
  | k :: l :: ks => l = k ∧ ∃ s, k.sum? = some s ∧ ∀ m ∈ ks, m = s

/-- **The totals of a list fit:** the amounts of its first two items, of the first three and so on
add up to what fits the kind of the sum. -/
def TotalsFit (xs : List Value) : Prop :=
  ∀ t p k, t :: p <+: xs → p ≠ [] → t.kindOf.sum? = some k →
    k.fits (t.amount + (p.map Value.amount).sum)

/-- Behind a sum, all items are of its kind. -/
theorem addKinds_sum_iff (h : k.sum? = some k) : AddKinds (k :: ks) ↔ ∀ m ∈ ks, m = k := by
  cases ks with
  | nil => exact iff_of_true trivial (fun m hm => absurd hm List.not_mem_nil)
  | cons l ks =>
    rw [List.forall_mem_cons]
    constructor
    · rintro ⟨hl, s, hs, hall⟩
      obtain rfl := Option.some.inj (h.symm.trans hs)
      exact ⟨hl, hall⟩
    · rintro ⟨hl, hall⟩
      exact ⟨hl, k, h, hall⟩

/-- Each kind of a list whose kinds add up is that of the first item or that of its sum. -/
theorem AddKinds.mem (h : AddKinds (k :: ks)) (hmem : k' ∈ ks) :
    k' = k ∨ k.sum? = some k' := by
  cases ks with
  | nil => cases hmem
  | cons l ks =>
    obtain ⟨rfl, s, hs, hall⟩ := h
    rcases List.mem_cons.1 hmem with rfl | hmem
    · exact .inl rfl
    · rw [hall k' hmem]
      exact .inr hs

/-- **The numbers of a list whose kinds add up are of one type.** -/
theorem AddKinds.numberType_unique {l m : Kind} (h : AddKinds ks) (hl : l ∈ ks) (hm : m ∈ ks)
    {s t : NumberType} (hs : l.numberType? = some s) (ht : m.numberType? = some t) : s = t := by
  cases ks with
  | nil => cases hl
  | cons k ks =>
    have hkinds : ∀ k' ∈ k :: ks, k' = k ∨ k.sum? = some k' := by
      intro k' hk'
      rcases List.mem_cons.1 hk' with rfl | hk'
      · exact .inl rfl
      · exact h.mem hk'
    rcases hkinds l hl with rfl | hsum
    · rcases hkinds m hm with rfl | hsum
      · exact Option.some.inj (hs.symm.trans ht)
      · exact Option.some.inj ((Kind.numberType?_of_sum? hsum hs).symm.trans ht)
    · rcases hkinds m hm with rfl | hsum'
      · exact Option.some.inj (hs.symm.trans (Kind.numberType?_of_sum? hsum ht))
      · obtain rfl := Option.some.inj (hsum.symm.trans hsum')
        exact Option.some.inj (hs.symm.trans ht)

/-! ### Additions -/

variable {t w x : Value} {xs : List Value} {n : Int} {o : Origin}

/-- **The outcome of an addition:** a value of a kind and with an amount, or a fault if the amount
does not fit. -/
inductive Added (k : Kind) (n : Int) : Except Value.Fault Value → Prop
  | value {w : Value} (kind : w.kindOf = k) (amount : w.amount = n) (fits : k.fits n) :
      Added k n (.ok w)
  | outside {e : Value.Fault} (unfit : k.fits n = false) (range : e = .outOfRange ∨ e = .overflow) :
      Added k n (.error e)

/-- What has bounds is added, or has no result for its bounds. -/
theorem added_elim {bounded? : Int → Option Value} {e : Value.Fault}
    (hvalue : ∀ w, bounded? n = some w → w.kindOf = k ∧ w.amount = n)
    (hfits : k.fits n = (bounded? n).isSome) (he : e = .outOfRange ∨ e = .overflow) :
    Added k n ((bounded? n).elim (.error e) .ok) := by
  cases hn : bounded? n with
  | none =>
    rw [hn] at hfits
    exact .outside hfits he
  | some w =>
    rw [hn] at hfits
    obtain ⟨hkind, hamount⟩ := hvalue w hn
    exact .value hkind hamount hfits

theorem added_signed (n : Int) : Added (.int .typed) n (Value.signed n) := by
  refine added_elim (fun w hw => ?_) rfl (.inl rfl)
  obtain ⟨-, hw⟩ := Option.ite_none_right_eq_some.1 hw
  cases hw
  exact ⟨rfl, rfl⟩

theorem added_unsigned (n : Int) : Added .uint n (Value.unsigned n) := by
  refine added_elim (fun w hw => ?_) rfl (.inl rfl)
  obtain ⟨hn, hw⟩ := Option.ite_none_right_eq_some.1 hw
  cases hw
  exact ⟨rfl, Int.toNat_of_nonneg hn.1⟩

theorem added_length (n : Int) : Added (.duration .typed) n (Value.length n) := by
  refine added_elim (fun w hw => ?_) rfl (.inl rfl)
  obtain ⟨-, hw⟩ := Option.ite_none_right_eq_some.1 hw
  cases hw
  exact ⟨rfl, rfl⟩

theorem added_bareLength (n : Int) : Added (.duration .bare) n (Value.bareLength n) := by
  refine added_elim (fun w hw => ?_) rfl (.inr rfl)
  obtain ⟨-, hw⟩ := Option.ite_none_right_eq_some.1 hw
  cases hw
  exact ⟨rfl, rfl⟩

/-- **A value added to another of its kind** gives their sum, if values of the kind can be added. -/
theorem added_add (h : x.kindOf = t.kindOf) (hk : t.kindOf.sum? = some k) :
    Added k (t.amount + x.amount) (t.add x) := by
  cases t <;> cases x <;> cases h <;> cases hk
  case int.int.refl o a b =>
    cases o with
    | typed => exact added_signed _
    | bare => exact .value rfl rfl rfl
  case duration.duration.refl o a b =>
    cases o with
    | typed => exact added_length _
    | bare => exact added_bareLength _
  case uint.uint => exact added_unsigned _
  all_goals exact .value rfl rfl rfl

/-- Values of a kind that cannot be added do not go together. -/
theorem add_eq_mismatch (h : x.kindOf = t.kindOf) (hk : t.kindOf.sum? = none) :
    t.add x = .error .mismatch := by
  cases t <;> cases hk <;> cases x <;> cases h <;> rfl

/-! ### Sums -/

/-- Whether a fault says that items are of the wrong kinds. -/
def Fault.isOfItems : Fault → Bool
  | .mixed _ | .badCall => true
  | _ => false

/-- Whether a fault says that a total is out of bounds. -/
def Fault.isOfTotal : Fault → Bool
  | .badContents | .overflow => true
  | _ => false

/-- **Why a list has a sum or has none:** its kinds add up and its totals fit, or not. -/
inductive Summed (xs : List Value) : Except Fault Value → Prop
  | value {v : Value} (kinds : AddKinds (xs.map Value.kindOf)) (fit : TotalsFit xs) :
      Summed xs (.ok v)
  | ofItems {f : Fault} (fault : f.isOfItems) (kinds : ¬ AddKinds (xs.map Value.kindOf)) :
      Summed xs (.error f)
  | ofTotal {f : Fault} (fault : f.isOfTotal) (unfit : ¬ TotalsFit xs) : Summed xs (.error f)

theorem totalsFit_single (t : Value) : TotalsFit [t] := by
  intro t' p k hp hne _
  obtain ⟨-, hnil⟩ := List.cons_prefix_cons.1 hp
  exact absurd (List.prefix_nil.1 hnil) hne

/-- The kinds from the second item on add up to those from the sum of the first two on. -/
theorem addKinds_cons_iff (hkind : x.kindOf = t.kindOf) (hk : t.kindOf.sum? = some k)
    (hw : w.kindOf = k) :
    AddKinds ((t :: x :: xs).map Value.kindOf) ↔ AddKinds ((w :: xs).map Value.kindOf) := by
  rw [List.map_cons (f := Value.kindOf) (a := w), hw, addKinds_sum_iff (Kind.sum?_of_sum? hk)]
  constructor
  · rintro ⟨-, s, hs, hall⟩
    obtain rfl := Option.some.inj (hk.symm.trans hs)
    exact hall
  · intro hall
    exact ⟨hkind, k, hk, hall⟩

/-- The totals from the second item on are those from the sum of the first two on. -/
theorem totalsFit_cons_iff (hk : t.kindOf.sum? = some k) (hw : w.kindOf = k)
    (hamount : w.amount = t.amount + x.amount) (hfits : k.fits (t.amount + x.amount)) :
    TotalsFit (t :: x :: xs) ↔ TotalsFit (w :: xs) := by
  have hkw : w.kindOf.sum? = some k := by
    rw [hw]
    exact Kind.sum?_of_sum? hk
  -- a total over two items or more does not change when the first two are one item
  constructor
  · intro h w' p k' hp hne hk'
    obtain ⟨rfl, hrest⟩ := List.cons_prefix_cons.1 hp
    obtain rfl := Option.some.inj (hkw.symm.trans hk')
    have hlonger : t :: x :: p <+: t :: x :: xs :=
      List.cons_prefix_cons.2 ⟨rfl, List.cons_prefix_cons.2 ⟨rfl, hrest⟩⟩
    have hall := h t (x :: p) k hlonger (List.cons_ne_nil x p) hk
    rwa [List.map_cons, List.sum_cons, ← Int.add_assoc, ← hamount] at hall
  · intro h t' p k' hp hne hk'
    obtain ⟨rfl, hrest⟩ := List.cons_prefix_cons.1 hp
    obtain rfl := Option.some.inj (hk.symm.trans hk')
    obtain rfl | ⟨q, rfl, hq⟩ := List.prefix_cons_iff.1 hrest
    · exact absurd rfl hne
    · rw [List.map_cons, List.sum_cons, ← Int.add_assoc]
      cases q with
      | nil =>
        rw [List.map_nil, List.sum_nil, Int.add_zero]
        exact hfits
      | cons y q =>
        rw [← hamount]
        exact h w (y :: q) k (List.cons_prefix_cons.2 ⟨rfl, hq⟩) (List.cons_ne_nil y q) hkw

/-- A list has a sum or has none for the reasons of another one that is alike in both regards. -/
theorem Summed.of_iff {ys : List Value} {outcome : Except Fault Value} (h : Summed ys outcome)
    (hkinds : AddKinds (xs.map Value.kindOf) ↔ AddKinds (ys.map Value.kindOf))
    (hfit : TotalsFit xs ↔ TotalsFit ys) : Summed xs outcome := by
  cases h with
  | value kinds fit => exact .value (hkinds.2 kinds) (hfit.2 fit)
  | ofItems fault kinds => exact .ofItems fault (mt hkinds.1 kinds)
  | ofTotal fault unfit => exact .ofTotal fault (mt hfit.1 unfit)

/-- **Summing from a total on** is summing with the total for the first item. -/
theorem summed_sumFrom (t : Value) (xs : List Value) : Summed (t :: xs) (sumFrom t xs) := by
  -- the first item and the next one are added, and their total is the first item of the rest
  induction xs generalizing t with
  | nil => exact .value trivial (totalsFit_single t)
  | cons x xs ih =>
    rw [sumFrom]
    by_cases hkind : x.kindOf = t.kindOf
    · rw [if_neg (not_not.2 hkind)]
      cases hk : t.kindOf.sum? with
      | none =>
        rw [add_eq_mismatch hkind hk]
        refine .ofItems rfl ?_
        rintro ⟨-, s, hs, -⟩
        cases hk.symm.trans hs
      | some k =>
        have hadded := added_add hkind hk
        generalize t.add x = outcome at hadded
        cases hadded with
        | @value w hw hamount hfits =>
          exact (ih w).of_iff (addKinds_cons_iff hkind hk hw)
            (totalsFit_cons_iff hk hw hamount hfits)
        | @outside e hunfit hrange =>
          refine .ofTotal ?_ fun hfit => ?_
          · rcases hrange with rfl | rfl <;> rfl
          · have hfits := hfit t [x] k (List.prefix_append [t, x] xs) (List.cons_ne_nil x []) hk
            rw [List.map_singleton, List.sum_singleton, hunfit] at hfits
            cases hfits
    · rw [if_pos hkind]
      exact .ofItems rfl fun h => hkind h.1

/-- **The sum of a list,** if there is one or not. -/
theorem summed_sum (o : Origin) (xs : List Value) : Summed xs (apply .sum [.list o xs]) := by
  cases xs with
  | nil => exact .value trivial fun _ _ _ h => absurd (List.prefix_nil.1 h) (List.cons_ne_nil _ _)
  | cons x xs => exact summed_sumFrom x xs

/-- There is a sum exactly if the kinds add up and the totals fit. -/
theorem Summed.ok_iff {outcome : Except Fault Value} (h : Summed xs outcome) :
    (∃ v, outcome = .ok v) ↔ AddKinds (xs.map Value.kindOf) ∧ TotalsFit xs := by
  cases h with
  | value kinds fit => exact iff_of_true ⟨_, rfl⟩ ⟨kinds, fit⟩
  | ofItems fault kinds => exact iff_of_false (fun ⟨_, h⟩ => nomatch h) fun h => kinds h.1
  | ofTotal fault unfit => exact iff_of_false (fun ⟨_, h⟩ => nomatch h) fun h => unfit h.2

/-- Without a sum, it is the kinds or the totals that are at fault. -/
theorem Summed.of_error {f : Fault} (h : Summed xs (.error f)) :
    f.isOfItems ∧ ¬ AddKinds (xs.map Value.kindOf) ∨ f.isOfTotal ∧ ¬ TotalsFit xs := by
  cases h with
  | ofItems fault kinds => exact .inl ⟨fault, kinds⟩
  | ofTotal fault unfit => exact .inr ⟨fault, unfit⟩

/-! ### Lists of one kind -/

/-- Lists of a kind that adding keeps add up. -/
theorem addKinds_of_all (hk : k.sum? = some k) (h : ∀ l ∈ ks, l = k) : AddKinds ks := by
  cases ks with
  | nil => trivial
  | cons l ks =>
    obtain ⟨rfl, hrest⟩ := List.forall_mem_cons.1 h
    exact (addKinds_sum_iff hk).2 hrest

/-- Lists of a kind that adding changes add up as long as there are no more than two items. -/
theorem addKinds_iff_of_all (hk : k.sum? = some k') (hne : k' ≠ k) (h : ∀ l ∈ ks, l = k) :
    AddKinds ks ↔ ks.length ≤ 2 := by
  match ks, h with
  | [], _ => exact iff_of_true trivial (Nat.zero_le 2)
  | [l], _ => exact iff_of_true trivial (Nat.le_succ 1)
  | [l, m], h =>
    obtain ⟨rfl, hm⟩ := List.forall_mem_cons.1 h
    exact iff_of_true
      ⟨hm m List.mem_cons_self, k', hk, fun _ h => absurd h List.not_mem_nil⟩ (le_refl 2)
  | l :: m :: n :: ks, h =>
    obtain ⟨rfl, hrest⟩ := List.forall_mem_cons.1 h
    refine iff_of_false ?_ (by simp)
    rintro ⟨-, s, hs, hall⟩
    obtain rfl := Option.some.inj (hk.symm.trans hs)
    have hn : n = l := hrest n (List.mem_cons_of_mem m List.mem_cons_self)
    exact hne ((hall n List.mem_cons_self).symm.trans hn)

/-- Floats have no bounds. -/
theorem totalsFit_of_doubles (h : ∀ x ∈ xs, x.kindOf = .double o) : TotalsFit xs := by
  intro t p k hp _ hk
  have ht : t.kindOf = .double o := h t (hp.subset List.mem_cons_self)
  rw [ht] at hk
  cases hk
  rfl

/-- **The third typed float is refused:** the total of the first two has lost its type. -/
theorem sum_doubles_refused (h : ∀ x ∈ xs, x.kindOf = .double .typed) (hlength : 3 ≤ xs.length) :
    apply .sum [.list o xs] = .error (.mixed (.double .typed)) := by
  match xs, h with
  | [], _ | [_], _ | [_, _], _ => simp at hlength
  | x :: y :: z :: xs, h =>
    obtain ⟨hx, hrest⟩ := List.forall_mem_cons.1 h
    obtain ⟨hy, hrest⟩ := List.forall_mem_cons.1 hrest
    have hz := hrest z List.mem_cons_self
    cases x <;> cases hx
    cases y <;> cases hy
    cases z <;> cases hz
    rfl

/-! ### All lists -/

/-- **What it means that sums go by the kinds of the items and of the totals.** -/
structure SumsByKind (o : Origin) : Prop where
  /-- Whatever the items are, there is a sum exactly if their kinds add up and the totals fit. -/
  returns_iff : ∀ xs, (∃ v, apply .sum [.list o xs] = .ok v) ↔
    AddKinds (xs.map Value.kindOf) ∧ TotalsFit xs
  /-- A sum fails for the kinds of the items or for a total, and says for which of them. -/
  fails : ∀ xs f, apply .sum [.list o xs] = .error f →
    f.isOfItems ∧ ¬ AddKinds (xs.map Value.kindOf) ∨ f.isOfTotal ∧ ¬ TotalsFit xs
  /-- Typed integers of one kind are never refused for their kinds. -/
  integers : ∀ xs k, k = .int .typed ∨ k = .uint → (∀ x ∈ xs, x.kindOf = k) →
    ∀ f, apply .sum [.list o xs] = .error f → f.isOfTotal
  /-- Two typed floats have a sum, and more of them are refused for their kinds. -/
  doubles : ∀ xs, (∀ x ∈ xs, x.kindOf = .double .typed) →
    ((∃ v, apply .sum [.list o xs] = .ok v) ↔ xs.length ≤ 2) ∧
      (apply .sum [.list o xs] = .error (.mixed (.double .typed)) ↔ 3 ≤ xs.length)
  /-- Numbers of two types never have a sum, whatever stands beside them. -/
  mixed : ∀ xs x y s t, x ∈ xs → y ∈ xs → x.kindOf.numberType? = some s →
    y.kindOf.numberType? = some t → s ≠ t → ∀ v, apply .sum [.list o xs] ≠ .ok v

/-- **Sums go by the kinds of the items and of the totals.** -/
theorem sum_byKind (o : Origin) : SumsByKind o where
  returns_iff xs := (summed_sum o xs).ok_iff
  fails xs f h := by
    have hsummed := summed_sum o xs
    rw [h] at hsummed
    exact hsummed.of_error
  integers xs k hk hall f h := by
    have hsum : k.sum? = some k := by rcases hk with rfl | rfl <;> rfl
    have hkinds : AddKinds (xs.map Value.kindOf) :=
      addKinds_of_all hsum (List.forall_mem_map.2 hall)
    have hsummed := summed_sum o xs
    rw [h] at hsummed
    exact (hsummed.of_error.resolve_left fun h => h.2 hkinds).1
  doubles xs hall := by
    have hkinds : AddKinds (xs.map Value.kindOf) ↔ xs.length ≤ 2 := by
      rw [← List.length_map Value.kindOf]
      exact addKinds_iff_of_all (k := .double .typed) rfl (by decide) (List.forall_mem_map.2 hall)
    have hreturns : (∃ v, apply .sum [.list o xs] = .ok v) ↔ xs.length ≤ 2 := by
      rw [(summed_sum o xs).ok_iff, hkinds]
      exact and_iff_left (totalsFit_of_doubles hall)
    refine ⟨hreturns, fun h => ?_, sum_doubles_refused hall⟩
    by_contra hlength
    obtain ⟨v, hv⟩ := hreturns.2 (by omega)
    cases h.symm.trans hv
  mixed xs x y s t hx hy hs ht hne v hv := by
    have hkinds := ((summed_sum o xs).ok_iff.1 ⟨v, hv⟩).1
    exact hne (hkinds.numberType_unique (List.mem_map_of_mem hx) (List.mem_map_of_mem hy) hs ht)

/-- Two integers beyond 64 bits together, three floats, and an integer with a float and a text. -/
theorem sum_byKind_small :
    (∀ f, apply .sum [.list .typed [.int .typed Value.greatestInt, .int .typed 1]] = .error f →
      f.isOfTotal) ∧
    apply .sum [.list .typed [.ofFloat .typed 0.5, .ofFloat .typed 1.5, .ofFloat .typed 2.5]] =
      .error (.mixed (.double .typed)) ∧
    ∀ v, apply .sum [.list .typed [.int .typed 1, .ofFloat .typed 0.5, .ofString "a"]] ≠ .ok v :=
  ⟨(sum_byKind .typed).integers _ (.int .typed) (.inl rfl) (by decide),
    ((sum_byKind .typed).doubles _ (by decide)).2.2 (by decide),
    (sum_byKind .typed).mixed _ (.int .typed 1) (.ofFloat .typed 0.5) .int .double (.head _)
      (.tail _ (.head _)) rfl rfl (by decide)⟩

/-- Three floats have no sum, and a text has one. -/
theorem sum_heterogeneous :
    apply .sum [.list .typed [.ofFloat .typed 1.5, .ofFloat .typed 2.5, .ofFloat .typed 3.5]] =
        .error (.mixed (.double .typed)) ∧
      apply .sum [.list .typed [.ofString "a"]] = .ok (.ofString "a") :=
  ⟨rfl, rfl⟩

end Library

end Admission
