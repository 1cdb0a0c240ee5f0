import Admission.Proofs.Piece
import Admission.Text.Order
import Mathlib.Data.List.Pairwise
import Mathlib.Data.List.Perm.Basic
import Mathlib.Data.Set.List
import Mathlib.Order.Basic

/-!
# The order of items

Whether a list ascends is found by comparing neighbours, and its least and its greatest item by a
search of their own each. On integers and on texts all of them speak of one order, which is total:
so neighbours in order are enough for all pairs, the least item of a list that ascends is the first
one and the greatest the last one, and what ascends in both directions is constant.

Items count without their type: a typed and a bare text of the same characters are equal, and which
of them is found depends on where they stand.

* `Relation.Asks`: what a relation asks of contents in order.
* `LessEq`, `Equal`: what `<=` and `==` say of two values.
* `Ordered`: values that are ordered and equal as their contents are.
* `Ordered.sorted_items`: a list that ascends, by all its pairs.
* `Ordered.exists_extreme`: the extreme item of a list.
* `HasOneOrder`, `items_haveOneOrder`: **one order of integers, and one of texts.**
-/

namespace Admission

section

variable {κ : Type} [LinearOrder κ]

/-- What a relation asks of contents in order. -/
def Relation.Asks : Relation → κ → κ → Prop
  | .less, a, b => a < b
  | .lessEq, a, b => a ≤ b
  | .greater, a, b => b < a
  | .greaterEq, a, b => b ≤ a

theorem Relation.holds_compare_iff (q : Relation) (a b : κ) :
    q.holds (some (compare a b)) = true ↔ q.Asks a b := by
  cases q with
  | less =>
    rw [Asks, ← compare_lt_iff_lt]
    cases compare a b <;> decide
  | lessEq =>
    rw [Asks, ← compare_le_iff_le]
    cases compare a b <;> decide
  | greater =>
    rw [Asks, ← compare_gt_iff_gt]
    cases compare a b <;> decide
  | greaterEq =>
    rw [Asks, ← compare_ge_iff_ge]
    cases compare a b <;> decide

end

namespace Library

/-! ### Ordered values -/

/-- The first value is less than or equal to the second one. -/
def LessEq (v w : Value) : Prop := Value.related? .lessEq v w = some true

/-- The values are equal. -/
def Equal (v w : Value) : Prop := v.equals w = some true

/-- Contents with their type or without. -/
structure Item (κ : Type) where
  origin : Origin
  contents : κ

/-- Items are ordered by their contents. -/
instance {κ : Type} [LinearOrder κ] : Preorder (Item κ) := Preorder.lift Item.contents

/-- **Values that are ordered and equal as their contents are.** -/
structure Ordered (κ : Type) [LinearOrder κ] where
  /-- The value of contents. -/
  value : Origin → κ → Value
  compare? : ∀ o o' a b, Value.compare? (value o a) (value o' b) = some (some (compare a b))
  equals : ∀ o o' a b, (value o a).equals (value o' b) = some (a == b)
  /-- The kind shows the type. -/
  kindOf_inj : ∀ o o' a b, (value o a).kindOf = (value o' b).kindOf → o = o'

/-- Two integers are equal if they compare so. -/
theorem equals_whole (a b : Int) : Number.equals (.whole a) (.whole b) = (a == b) := by
  change (some (compare a b) == some Ordering.eq) = (a == b)
  rw [Bool.eq_iff_iff, beq_iff_eq, beq_iff_eq, Option.some_inj, compare_eq_iff_eq]

/-- Integers. -/
def Ordered.ints : Ordered Int where
  value := .int
  compare? o o' a b := by cases o <;> cases o' <;> rfl
  equals o o' a b := by
    cases o with
    | typed => rfl
    | bare => exact (congrArg some (equals_whole a b) :)
  kindOf_inj o o' _ _ h := by
    injection h

/-- Texts. -/
def Ordered.texts : Ordered Text where
  value := .text
  compare? _ _ _ _ := rfl
  equals _ _ _ _ := rfl
  kindOf_inj o o' _ _ h := by
    injection h

namespace Ordered

variable {κ : Type} [LinearOrder κ] (R : Ordered κ) {x y best : Item κ} {xs : List (Item κ)}

/-- The value of an item. -/
def item (x : Item κ) : Value := R.value x.origin x.contents

theorem related?_item (q : Relation) (x y : Item κ) :
    Value.related? q (R.item x) (R.item y) =
      some (q.holds (some (compare x.contents y.contents))) := by
  unfold Value.related? item
  rw [R.compare?]
  rfl

/-- **Items stand in a relation** if their contents do. -/
theorem related?_iff (q : Relation) (x y : Item κ) :
    Value.related? q (R.item x) (R.item y) = some true ↔ q.Asks x.contents y.contents := by
  rw [R.related?_item, Option.some_inj, q.holds_compare_iff]

theorem lessEq_iff : LessEq (R.item x) (R.item y) ↔ x ≤ y := R.related?_iff .lessEq x y

theorem equal_iff : Equal (R.item x) (R.item y) ↔ x.contents = y.contents := by
  rw [Equal, item, item, R.equals, Option.some_inj, beq_iff_eq]

/-! ### Lists that ascend -/

/-- **Neighbours in order** are enough for all pairs. -/
theorem sorted_items (xs : List (Item κ)) :
    sorted (xs.map R.item) = .ok (decide (xs.Pairwise (· ≤ ·))) := by
  induction xs with
  | nil => rfl
  | cons x xs ih =>
    cases xs with
    | nil => simp [sorted]
    | cons y xs =>
      have hstep : sorted ((x :: y :: xs).map R.item) =
          if Relation.holds .lessEq (some (compare x.contents y.contents))
          then sorted ((y :: xs).map R.item) else .ok false := by
        rw [List.map_cons, List.map_cons, sorted, R.related?_item]
        rfl
      have hholds : Relation.holds .lessEq (some (compare x.contents y.contents)) = true ↔ x ≤ y :=
        Relation.holds_compare_iff .lessEq x.contents y.contents
      have hpairs := List.pairwise_cons_cons_iff_of_trans (R := (· ≤ ·)) (a := x) (b := y) (l := xs)
      rw [hstep, ih]
      by_cases hxy : x ≤ y
      · rw [if_pos (hholds.2 hxy), Except.ok.injEq, decide_eq_decide, hpairs, and_iff_right hxy]
      · rw [if_neg (mt hholds.1 hxy), decide_eq_false fun h => hxy (hpairs.1 h).1]

/-! ### Extreme items -/

/-- **The extreme item of a list** for a total order of the contents: it stands in the order to all
items. A search goes on to the next item wherever that is not already behind the best one. -/
theorem exists_extreme (le : κ → κ → Prop) (q : Relation)
    (hq : ∀ a b : κ, q.Asks a b ↔ ¬ le b a) (htotal : ∀ a b, le a b ∨ le b a)
    (htrans : ∀ a b c, le a b → le b c → le a c) (best : Item κ) (xs : List (Item κ)) :
    ∃ m ∈ best :: xs, extreme q (R.item best) (xs.map R.item) = .ok (R.item m) ∧
      ∀ x ∈ best :: xs, le m.contents x.contents := by
  have hrefl : ∀ a, le a a := fun a => (htotal a a).elim id id
  induction xs generalizing best with
  | nil => exact ⟨best, List.mem_cons_self, rfl, by simpa using hrefl best.contents⟩
  | cons x xs ih =>
    cases hx : Value.related? q (R.item x) (R.item best) with
    | none =>
      rw [R.related?_item] at hx
      cases hx
    | some b =>
      cases b with
      | true =>
        -- the new item is strictly in front of the best one so far
        have hle : le x.contents best.contents :=
          (htotal _ _).resolve_right ((hq _ _).1 ((R.related?_iff q x best).1 hx))
        obtain ⟨m, hm, hextreme, hall⟩ := ih x
        refine ⟨m, List.mem_cons_of_mem best hm, ?_, List.forall_mem_cons.2 ⟨?_, hall⟩⟩
        · rw [List.map_cons, extreme, hx]
          exact hextreme
        · exact htrans _ _ _ (hall x List.mem_cons_self) hle
      | false =>
        have hle : le best.contents x.contents := by
          by_contra hnot
          cases hx.symm.trans ((R.related?_iff q x best).2 ((hq _ _).2 hnot))
        obtain ⟨m, hm, hextreme, hall⟩ := ih best
        obtain ⟨hbest, hrest⟩ := List.forall_mem_cons.1 hall
        refine ⟨m, ?_, ?_, List.forall_mem_cons.2 ⟨hbest, List.forall_mem_cons.2 ⟨?_, hrest⟩⟩⟩
        · rcases List.mem_cons.1 hm with rfl | hm
          · exact List.mem_cons_self
          · exact List.mem_cons_of_mem best (List.mem_cons_of_mem x hm)
        · rw [List.map_cons, extreme, hx]
          exact hextreme
        · exact htrans _ _ _ hbest hle

/-- **The least item** of a list that is not empty. -/
theorem exists_least (o : Origin) (hne : xs ≠ []) :
    ∃ m ∈ xs, apply .min [.list o (xs.map R.item)] = .ok (R.item m) ∧ ∀ x ∈ xs, m ≤ x := by
  cases xs with
  | nil => exact absurd rfl hne
  | cons best xs =>
    exact R.exists_extreme (· ≤ ·) .less (fun _ _ => not_le.symm) le_total
      (fun _ _ _ => le_trans) best xs

/-- **The greatest item** of a list that is not empty. -/
theorem exists_greatest (o : Origin) (hne : xs ≠ []) :
    ∃ m ∈ xs, apply .max [.list o (xs.map R.item)] = .ok (R.item m) ∧ ∀ x ∈ xs, x ≤ m := by
  cases xs with
  | nil => exact absurd rfl hne
  | cons best xs =>
    exact R.exists_extreme (· ≥ ·) .greater (fun _ _ => not_le.symm) (fun a b => le_total b a)
      (fun _ _ _ => ge_trans) best xs

end Ordered

/-! ### One order -/

/-- A list is said to ascend. -/
def IsSorted (xs : List Value) : Prop := apply .isSorted [.list .typed xs] = .ok (.ofBool true)

/-- **What it means that a list has one order,** of which four functions speak. -/
structure HasOneOrder (xs : List Value) : Prop where
  /-- It is said whether the list ascends. -/
  answers : ∃ b, apply .isSorted [.list .typed xs] = .ok (.ofBool b)
  /-- It ascends exactly if every two items are in order. -/
  isSorted_iff : IsSorted xs ↔ xs.Pairwise LessEq
  /-- There is a least item unless there is none at all. -/
  least : xs ≠ [] → ∃ m ∈ xs, apply .min [.list .typed xs] = .ok m ∧ ∀ x ∈ xs, LessEq m x
  greatest : xs ≠ [] → ∃ m ∈ xs, apply .max [.list .typed xs] = .ok m ∧ ∀ x ∈ xs, LessEq x m
  /-- In another order of the items, the least and the greatest one are equal to those. -/
  perm : xs ≠ [] → ∀ ys, xs.Perm ys → ∃ v w v' w', apply .min [.list .typed xs] = .ok v ∧
    apply .min [.list .typed ys] = .ok v' ∧ Equal v' v ∧ apply .max [.list .typed xs] = .ok w ∧
    apply .max [.list .typed ys] = .ok w' ∧ Equal w' w
  /-- Where the list ascends, they are the first and the last item. -/
  ends : IsSorted xs → ∀ x y, xs.head? = some x → xs.getLast? = some y → ∃ v w,
    apply .min [.list .typed xs] = .ok v ∧ Equal v x ∧ apply .max [.list .typed xs] = .ok w ∧
    Equal w y
  /-- Where the list ascends, all its stretches do. -/
  slices : IsSorted xs → ∀ (start stop : Value) (s e : Int), start.integer? = some s →
    stop.integer? = some e → 0 ≤ s → s ≤ e → e ≤ xs.length →
    ∃ ys, apply .slice [.list .typed xs, start, stop] = .ok (.list .typed ys) ∧ IsSorted ys
  /-- It ascends in both directions exactly if it is constant. -/
  constant_iff : (IsSorted xs ∧ ∃ ys, apply .reverse [.list .typed xs] = .ok (.list .typed ys) ∧
    IsSorted ys) ↔ ∀ x ∈ xs, ∀ y ∈ xs, Equal x y
  /-- Equal items with their type are the same. -/
  same : ∀ x ∈ xs, ∀ y ∈ xs, x.kindOf = y.kindOf → Equal x y → x = y

namespace Ordered

variable {κ : Type} [LinearOrder κ] (R : Ordered κ) {x y : Item κ} {xs : List (Item κ)}

theorem isSorted_eq (xs : List (Item κ)) : apply .isSorted [.list .typed (xs.map R.item)] =
    .ok (.ofBool (decide (xs.Pairwise (· ≤ ·)))) := by
  have hsorted : apply .isSorted [.list .typed (xs.map R.item)] =
      (do return Value.ofBool (← sorted (xs.map R.item))) := rfl
  rw [hsorted, R.sorted_items]
  rfl

theorem isSorted_iff : IsSorted (xs.map R.item) ↔ xs.Pairwise (· ≤ ·) := by
  rw [IsSorted, R.isSorted_eq]
  by_cases h : xs.Pairwise (· ≤ ·)
  · rw [decide_eq_true h]
    exact iff_of_true rfl h
  · rw [decide_eq_false h]
    exact iff_of_false (fun heq => nomatch heq) h

/-- Each is at most the other one if they are equal, and only then. -/
theorem equal_of_le_of_le (hxy : x ≤ y) (hyx : y ≤ x) : Equal (R.item x) (R.item y) :=
  R.equal_iff.2 (le_antisymm hxy hyx)

/-- Every item that is at most all items is equal to the least one. -/
theorem exists_least_equal {m : Item κ} (hm : m ∈ xs) (hall : ∀ x ∈ xs, m ≤ x) :
    ∃ v, apply .min [.list .typed (xs.map R.item)] = .ok v ∧ Equal v (R.item m) := by
  obtain ⟨l, hl, hleast, hle⟩ := R.exists_least .typed (List.ne_nil_of_mem hm)
  exact ⟨_, hleast, R.equal_of_le_of_le (hle m hm) (hall l hl)⟩

/-- Every item that all items are at most is equal to the greatest one. -/
theorem exists_greatest_equal {m : Item κ} (hm : m ∈ xs) (hall : ∀ x ∈ xs, x ≤ m) :
    ∃ v, apply .max [.list .typed (xs.map R.item)] = .ok v ∧ Equal v (R.item m) := by
  obtain ⟨g, hg, hgreatest, hle⟩ := R.exists_greatest .typed (List.ne_nil_of_mem hm)
  exact ⟨_, hgreatest, R.equal_of_le_of_le (hall g hg) (hle m hm)⟩

/-- Equal items with their type are the same. -/
theorem eq_of_equal (hkind : (R.item x).kindOf = (R.item y).kindOf)
    (hequal : Equal (R.item x) (R.item y)) : x = y := by
  have horigin : x.origin = y.origin := R.kindOf_inj _ _ _ _ hkind
  have hcontents : x.contents = y.contents := R.equal_iff.1 hequal
  cases x
  cases y
  cases horigin
  cases hcontents
  rfl

theorem item_injective : Function.Injective R.item := fun _ _ h =>
  R.eq_of_equal (congrArg Value.kindOf h) (h ▸ R.equal_iff.2 rfl)

/-- The first item of a list that ascends is at most all items. -/
theorem head_le (h : xs.Pairwise (· ≤ ·)) (hx : xs.head? = some x) :
    x ∈ xs ∧ ∀ z ∈ xs, x ≤ z := by
  obtain ⟨rest, rfl⟩ := List.head?_eq_some_iff.1 hx
  exact ⟨List.mem_cons_self, List.forall_mem_cons.2 ⟨le_refl x, (List.pairwise_cons.1 h).1⟩⟩

/-- All items of a list that ascends are at most the last one. -/
theorem le_getLast (h : xs.Pairwise (· ≤ ·)) (hy : xs.getLast? = some y) :
    y ∈ xs ∧ ∀ z ∈ xs, z ≤ y := by
  obtain ⟨front, rfl⟩ := List.getLast?_eq_some_iff.1 hy
  refine ⟨List.mem_concat_self, fun z hz => ?_⟩
  rcases List.mem_append.1 hz with hz | hz
  · exact (List.pairwise_append.1 h).2.2 z hz y List.mem_cons_self
  · rw [List.mem_singleton.1 hz]

/-- **What ascends in both directions is constant.** -/
theorem pairwise_reverse_iff : xs.Pairwise (· ≤ ·) ∧ xs.reverse.Pairwise (· ≤ ·) ↔
    ∀ x ∈ xs, ∀ y ∈ xs, x.contents = y.contents := by
  rw [List.pairwise_reverse]
  constructor
  · rintro ⟨hup, hdown⟩
    have hsame : xs.Pairwise fun x y => x.contents = y.contents :=
      (hup.and hdown).imp fun h => le_antisymm (α := κ) h.1 h.2
    have : Std.Symm fun x y : Item κ => x.contents = y.contents := ⟨fun _ _ => Eq.symm⟩
    exact hsame.forall_of_forall fun _ _ => rfl
  · intro h
    exact ⟨List.pairwise_of_forall_mem_list fun x hx y hy => le_of_eq (α := κ) (h x hx y hy),
      List.pairwise_of_forall_mem_list fun x hx y hy => le_of_eq (α := κ) (h y hy x hx)⟩

theorem hasOneOrder (xs : List (Item κ)) : HasOneOrder (xs.map R.item) where
  answers := ⟨_, R.isSorted_eq xs⟩
  isSorted_iff := by
    rw [R.isSorted_iff, List.pairwise_map]
    exact List.Pairwise.iff fun _ _ => R.lessEq_iff.symm
  least hne := by
    obtain ⟨m, hm, hleast, hall⟩ := R.exists_least .typed (mt (congrArg (List.map R.item)) hne)
    refine ⟨R.item m, List.mem_map_of_mem hm, hleast, List.forall_mem_map.2 fun x hx => ?_⟩
    exact R.lessEq_iff.2 (hall x hx)
  greatest hne := by
    obtain ⟨m, hm, hgreatest, hall⟩ :=
      R.exists_greatest .typed (mt (congrArg (List.map R.item)) hne)
    refine ⟨R.item m, List.mem_map_of_mem hm, hgreatest, List.forall_mem_map.2 fun x hx => ?_⟩
    exact R.lessEq_iff.2 (hall x hx)
  perm hne ys hperm := by
    -- items in another order are those of their contents in another order
    obtain ⟨zs, rfl⟩ : ys ∈ Set.range (List.map R.item) := by
      rw [Set.range_list_map]
      intro y hy
      obtain ⟨x, -, rfl⟩ := List.mem_map.1 (hperm.symm.subset hy)
      exact ⟨x, rfl⟩
    have hzs : xs.Perm zs := (List.map_perm_map_iff R.item_injective).1 hperm
    have hxs : xs ≠ [] := mt (congrArg (List.map R.item)) hne
    obtain ⟨l, hl, hleast, hle⟩ := R.exists_least .typed hxs
    obtain ⟨g, hg, hgreatest, hge⟩ := R.exists_greatest .typed hxs
    obtain ⟨v, hv, hvl⟩ := R.exists_least_equal (hzs.subset hl)
      fun z hz => hle z (hzs.symm.subset hz)
    obtain ⟨w, hw, hwg⟩ := R.exists_greatest_equal (hzs.subset hg)
      fun z hz => hge z (hzs.symm.subset hz)
    exact ⟨_, _, v, w, hleast, hv, hvl, hgreatest, hw, hwg⟩
  ends hsorted v w hv hw := by
    have hpairs := R.isSorted_iff.1 hsorted
    rw [List.head?_map] at hv
    rw [List.getLast?_map] at hw
    obtain ⟨x, hx, rfl⟩ := Option.map_eq_some_iff.1 hv
    obtain ⟨y, hy, rfl⟩ := Option.map_eq_some_iff.1 hw
    obtain ⟨hmem, hall⟩ := head_le hpairs hx
    obtain ⟨hmem', hall'⟩ := le_getLast hpairs hy
    obtain ⟨l, hl, hlx⟩ := R.exists_least_equal hmem hall
    obtain ⟨g, hg, hgy⟩ := R.exists_greatest_equal hmem' hall'
    exact ⟨l, g, hl, hlx, hg, hgy⟩
  slices hsorted start stop s e hs he hnonneg hle hlength := by
    lift s to Nat using hnonneg
    lift e to Nat using (by omega)
    have hslice : apply .slice [.list .typed (xs.map R.item), start, stop] =
        .ok (.list .typed ((xs.map R.item).extract s e)) :=
      cutOut_inside (r := .list (xs.map R.item)) hs he (Int.ofNat_le.1 hle) (Int.ofNat_le.1 hlength)
    refine ⟨_, hslice, ?_⟩
    rw [List.extract_eq_take_drop, ← List.map_drop, ← List.map_take, R.isSorted_iff]
    have hpart : ((xs.drop s).take (e - s)).Sublist xs :=
      (List.take_sublist _ _).trans (List.drop_sublist s xs)
    exact (R.isSorted_iff.1 hsorted).sublist hpart
  constant_iff := by
    have hreverse : apply .reverse [.list .typed (xs.map R.item)] =
        .ok (.list .typed (xs.reverse.map R.item)) := by
      rw [List.map_reverse]
      rfl
    have hboth : (IsSorted (xs.map R.item) ∧
        ∃ ys, apply .reverse [.list .typed (xs.map R.item)] = .ok (.list .typed ys) ∧
          IsSorted ys) ↔ xs.Pairwise (· ≤ ·) ∧ xs.reverse.Pairwise (· ≤ ·) := by
      have hsorted : IsSorted (xs.reverse.map R.item) ↔ xs.reverse.Pairwise (· ≤ ·) :=
        R.isSorted_iff
      rw [R.isSorted_iff, ← hsorted, hreverse]
      simp
    -- both orders hold of every pair, so the contents are the same
    rw [hboth, pairwise_reverse_iff]
    simp only [List.forall_mem_map, R.equal_iff]
  same v hv w hw hkind hequal := by
    obtain ⟨x, -, rfl⟩ := List.mem_map.1 hv
    obtain ⟨y, -, rfl⟩ := List.mem_map.1 hw
    exact congrArg R.item (R.eq_of_equal hkind hequal)

end Ordered

/-- **Integers have one order, and texts have one.** -/
theorem items_haveOneOrder (ns : List (Item Int)) (ss : List (Item Text)) :
    HasOneOrder (ns.map fun n => .int n.origin n.contents) ∧
      HasOneOrder (ss.map fun s => .text s.origin s.contents) :=
  ⟨Ordered.ints.hasOneOrder ns, Ordered.texts.hasOneOrder ss⟩

/-- Three integers that ascend, and two texts that do not. -/
theorem items_haveOneOrder_few :
    (∃ m ∈ [Value.int .typed 1, .int .bare 2, .int .typed 2],
      apply .min [.list .typed [.int .typed 1, .int .bare 2, .int .typed 2]] = .ok m ∧
        ∀ x ∈ [Value.int .typed 1, .int .bare 2, .int .typed 2], LessEq m x) ∧
    (∃ v w, apply .min [.list .typed [.int .typed 1, .int .bare 2, .int .typed 2]] = .ok v ∧
      Equal v (.int .typed 1) ∧
      apply .max [.list .typed [.int .typed 1, .int .bare 2, .int .typed 2]] = .ok w ∧
      Equal w (.int .typed 2)) ∧
    (∃ ys, apply .slice [.list .typed [.int .typed 1, .int .bare 2, .int .typed 2],
      .int .typed 1, .int .typed 3] = .ok (.list .typed ys) ∧ IsSorted ys) ∧
    ∃ m ∈ [Value.text .typed "b", .text .bare "a"],
      apply .max [.list .typed [.text .typed "b", .text .bare "a"]] = .ok m ∧
        ∀ x ∈ [Value.text .typed "b", .text .bare "a"], LessEq x m :=
  have h := items_haveOneOrder [⟨.typed, 1⟩, ⟨.bare, 2⟩, ⟨.typed, 2⟩] [⟨.typed, "b"⟩, ⟨.bare, "a"⟩]
  ⟨h.1.least (by decide), h.1.ends (by rfl) _ _ rfl rfl,
    h.1.slices (by rfl) _ _ 1 3 rfl rfl (by decide) (by decide) (by decide),
    h.2.greatest (by decide)⟩

/-- Of equal items, the one in front is the least and the greatest. -/
example :
    apply .min [.list .typed [.text .bare "a", .ofString "a"]] = .ok (.text .bare "a") ∧
      apply .max [.list .typed [.text .bare "a", .ofString "a"]] = .ok (.text .bare "a") :=
  ⟨by rfl, by rfl⟩

end Library

end Admission
