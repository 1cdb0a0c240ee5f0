import Admission.Proofs.IntegerArgument
import Admission.Proofs.Occurrence

/-!
# Where parts are found

A part is searched in a text or in a list from the front and from the end. The search from the front
answers with the least place, from an offset on; the one from the end with the greatest place, up to
an offset; both with -1 where there is none. Reading receiver and part from the end exchanges the
two: what stands behind an occurrence stands before it then, so the two places add up.

* `FoundFirst`, `FoundLast`: a number says where a property of places holds first or last.
* `FoundLast.add_foundFirst`: the last place and the first one from the end add up.
* `indexOf_text`, `lastIndexOf_text`, `lastIndexOf_whole`: what is found in a text.
* `EqualAt`, `firstEqual_eq`: where an item equals a value, and what is found in a list.
* `SearchesText`, `SearchesItems`, `searches_extremes`: **searches find the extreme places, and
  each is the other one read from the end.**
-/

namespace Admission.Library

open Text

/-! ### Places as numbers -/

/-- A number says where a property of places first holds: -1 stands for nowhere. -/
inductive FoundFirst (p : Nat → Prop) : Int → Prop
  | nowhere (h : ∀ i, ¬ p i) : FoundFirst p (-1)
  | place {i : Nat} (holds : p i) (least : ∀ j, p j → i ≤ j) : FoundFirst p i

/-- A number says where a property of places last holds: -1 stands for nowhere. -/
inductive FoundLast (p : Nat → Prop) : Int → Prop
  | nowhere (h : ∀ i, ¬ p i) : FoundLast p (-1)
  | place {i : Nat} (holds : p i) (greatest : ∀ j, p j → j ≤ i) : FoundLast p i

/-- The number of a place, -1 for none. -/
def numberOf (found : Option Nat) : Int := (found.map Int.ofNat).getD (-1)

variable {p q : Nat → Prop} {i j n : Int}

theorem foundFirst_numberOf {found : Option Nat} (hnone : found = none → ∀ i, ¬ p i)
    (hsome : ∀ i, found = some i → p i ∧ ∀ j, p j → i ≤ j) : FoundFirst p (numberOf found) := by
  cases found with
  | none => exact .nowhere (hnone rfl)
  | some i => exact .place (hsome i rfl).1 (hsome i rfl).2

theorem foundLast_numberOf {found : Option Nat} (hnone : found = none → ∀ i, ¬ p i)
    (hsome : ∀ i, found = some i → p i ∧ ∀ j, p j → j ≤ i) : FoundLast p (numberOf found) := by
  cases found with
  | none => exact .nowhere (hnone rfl)
  | some i => exact .place (hsome i rfl).1 (hsome i rfl).2

/-- Whether two numbers of places are those of one place, counted from both ends. -/
structure Opposite (i j n : Int) : Prop where
  nowhere_iff : i = -1 ↔ j = -1
  add : i ≠ -1 → i + j = n

/-- **The last place with a property and the first place with its mirror image add up,** if each
place is the other one counted from the end. -/
theorem FoundLast.add_foundFirst (hi : FoundLast p i) (hj : FoundFirst q j)
    (hp : ∀ i, p i → ∃ j, q j ∧ (i + j : Int) = n) (hq : ∀ j, q j → ∃ i, p i ∧ (i + j : Int) = n) :
    Opposite i j n := by
  cases hi with
  | nowhere hi =>
    cases hj with
    | nowhere hj => exact ⟨Iff.rfl, fun h => absurd rfl h⟩
    | place hj _ =>
      obtain ⟨i, hi', -⟩ := hq _ hj
      exact absurd hi' (hi i)
  | @place i hi hgreatest =>
    obtain ⟨j', hj', hadd'⟩ := hp i hi
    cases hj with
    | nowhere hj => exact absurd hj' (hj j')
    | @place j hj hleast =>
      -- the image of each place is a place of the other property, so neither sum is too small
      obtain ⟨i', hi', hadd⟩ := hq j hj
      have hle := hgreatest i' hi'
      have hge := hleast j' hj'
      exact ⟨by omega, fun _ => by omega⟩

/-! ### Texts -/

section

variable {α : Type} [BEq α] [LawfulBEq α]

theorem foundFirst_firstIndex? (x s : List α) :
    FoundFirst (OccursAt x s) (numberOf (firstIndex? x s)) := by
  refine foundFirst_numberOf firstIndex?_eq_none_iff.1 fun i hi => ?_
  have hfirst := firstAt_of_firstIndex? hi
  exact ⟨hfirst.occurs, hfirst.least⟩

/-- A search in the rest from a place on finds the first occurrence there or behind. -/
theorem foundFirst_firstIndex?_drop (x : List α) {s : List α} {k : Nat} (hk : k ≤ s.length) :
    FoundFirst (fun i => k ≤ i ∧ OccursAt x s i)
      (numberOf ((firstIndex? x (s.drop k)).map (· + k))) := by
  refine foundFirst_numberOf (fun hnone i => ?_) fun i hi => ?_
  · rintro ⟨hki, hi⟩
    have hrest : OccursAt x (s.drop k) (i - k) := by
      rw [occursAt_drop_iff hk, Nat.add_sub_cancel' hki]
      exact hi
    exact firstIndex?_eq_none_iff.1 (Option.map_eq_none_iff.1 hnone) _ hrest
  · obtain ⟨j, hj, rfl⟩ := Option.map_eq_some_iff.1 hi
    obtain ⟨hoccurs, hleast⟩ := firstAt_of_firstIndex? hj
    rw [occursAt_drop_iff hk, Nat.add_comm] at hoccurs
    refine ⟨⟨Nat.le_add_left k j, hoccurs⟩, ?_⟩
    rintro i ⟨hki, hi⟩
    have hrest : OccursAt x (s.drop k) (i - k) := by
      rw [occursAt_drop_iff hk, Nat.add_sub_cancel' hki]
      exact hi
    have := hleast _ hrest
    omega

theorem foundLast_lastIndex? (x s : List α) :
    FoundLast (OccursAt x s) (numberOf (lastIndex? x s)) := by
  refine foundLast_numberOf not_occursAt_of_lastIndex? fun i hi => ?_
  have hlast := lastAt_of_lastIndex? hi
  exact ⟨hlast.occurs, hlast.greatest⟩

/-- A search up to a place and the length of the part finds the last occurrence there or before. -/
theorem foundLast_lastIndex?_take (x s : List α) (k : Nat) :
    FoundLast (fun i => i ≤ k ∧ OccursAt x s i)
      (numberOf (lastIndex? x (s.take (k + x.length)))) := by
  have hup : OccursAt x (s.take (k + x.length)) = fun i => i ≤ k ∧ OccursAt x s i :=
    funext fun i => propext occursAt_take_iff
  rw [← hup]
  exact foundLast_lastIndex? x (s.take (k + x.length))

end

/-- **In a text and in a part read from the end,** the places of the part are counted from the
end. -/
theorem opposite_text {s x : List Point} (hi : FoundLast (OccursAt x s) i)
    (hj : FoundFirst (OccursAt x.reverse s.reverse) j) :
    Opposite i j (s.length - x.length) := by
  refine hi.add_foundFirst hj (fun i h => ?_) fun j h => ?_
  · obtain ⟨j, hj, hadd⟩ := h.reverse
    exact ⟨j, hj, by omega⟩
  · obtain ⟨i, hi, hadd⟩ := h.reverse
    rw [List.reverse_reverse, List.reverse_reverse] at hi
    rw [List.length_reverse, List.length_reverse] at hadd
    exact ⟨i, hi, by omega⟩

variable {o : Origin} {s x : Text} {offset : Value} {k : Int} {m : Nat}

/-- An integer inside a text is an offset. -/
theorem offsetIn_inside (e : Extension) {length : Nat} (h : offset.integer? = some (m : Int))
    (hm : m ≤ length) : offsetIn e length offset = .ok m := by
  have hint : requireInt ⟨e, .offset⟩ offset = .ok (m : Int) :=
    requireInt_of_argument (argument?_of_integer? h)
  have hinside : ¬ ((m : Int) < 0 ∨ (m : Int) > length) := by omega
  simp only [offsetIn, hint, bind, Except.bind, if_neg hinside]
  rfl

/-- An integer outside a text is refused. -/
theorem offsetIn_outside (e : Extension) {length : Nat} (h : offset.integer? = some k)
    (hk : k < 0 ∨ length < k) :
    offsetIn e length offset = .error (.outside ⟨e, .offset⟩ k) := by
  have hint : requireInt ⟨e, .offset⟩ offset = .ok k :=
    requireInt_of_argument (argument?_of_integer? h)
  have houtside : k < 0 ∨ k > length := hk
  simp only [offsetIn, hint, bind, Except.bind, if_pos houtside]
  rfl

/-- **What is found in a text from an offset on.** -/
theorem indexOf_text (h : offsetIn .indexOf s.length offset = .ok m) :
    indexOf (.ofString s) (.text o x) offset = .ok (.int .typed
      (numberOf ((firstIndex? x.toList (s.toList.drop m)).map (· + m)))) := by
  unfold indexOf
  dsimp only [Value.ofString]
  rw [h]
  rfl

/-- An integer is not taken for an offset left out. -/
theorem lastIndexOf_integer (h : offset.integer? = some k) :
    lastIndexOf (.ofString s) (.text o x) offset = (do
      let stop ← offsetIn .lastIndexOf s.length offset
      return place (lastIndex? x.toList (s.toList.take (stop + x.toList.length)))) := by
  cases offset with
  | null => cases h
  | _ => rfl

/-- **What is found in a text up to an offset.** -/
theorem lastIndexOf_text (h : offset.integer? = some k)
    (hoffset : offsetIn .lastIndexOf s.length offset = .ok m) :
    lastIndexOf (.ofString s) (.text o x) offset = .ok (.int .typed
      (numberOf (lastIndex? x.toList (s.toList.take (m + x.toList.length))))) := by
  rw [lastIndexOf_integer h, hoffset]
  rfl

/-- What is found in a text as a whole. -/
theorem indexOf_whole (o : Origin) (s x : Text) : apply .indexOf [.ofString s, .text o x] =
    .ok (.int .typed (numberOf (firstIndex? x.toList s.toList))) := by
  have hzero : offsetIn .indexOf s.length (.int .typed 0) = .ok 0 :=
    offsetIn_inside (m := 0) .indexOf rfl (Nat.zero_le _)
  have hfound : (firstIndex? x.toList (s.toList.drop 0)).map (· + 0) =
      firstIndex? x.toList s.toList := by
    simp
  rw [← hfound]
  exact indexOf_text hzero

/-- What is last found in a text as a whole. -/
theorem lastIndexOf_whole (o : Origin) (s x : Text) :
    apply .lastIndexOf [.ofString s, .text o x] =
      .ok (.int .typed (numberOf (lastIndex? x.toList s.toList))) := rfl

/-! ### Lists -/

/-- An item of a list equals a value. -/
def EqualAt (x : Value) (xs : List Value) (i : Nat) : Prop :=
  ∃ item, xs[i]? = some item ∧ item.equals x = some true

/-- All items of a list can be compared with a value. -/
def Comparable (x : Value) (xs : List Value) : Prop := ∀ item ∈ xs, (item.equals x).isSome

/-- The first place where an item equals a value. -/
def equalIndex? (x : Value) (xs : List Value) : Option Nat :=
  xs.findIdx? fun item => item.equals x == some true

variable {v : Value} {xs : List Value}

/-- Items that can be compared are searched up to the first that is equal. -/
theorem firstEqual_eq (h : Comparable v xs) (start : Nat) :
    firstEqual v start xs = .ok ((equalIndex? v xs).map (· + start)) := by
  unfold equalIndex?
  induction xs generalizing start with
  | nil => rfl
  | cons item xs ih =>
    obtain ⟨hitem, hrest⟩ := List.forall_mem_cons.1 h
    obtain ⟨b, hb⟩ := Option.isSome_iff_exists.1 hitem
    rw [firstEqual, hb, List.findIdx?_cons, hb]
    cases b with
    | true =>
      change Except.ok (some start) = Except.ok (some (0 + start))
      rw [Nat.zero_add]
    | false =>
      change firstEqual v (start + 1) xs = _
      rw [ih hrest]
      simp [Function.comp_def, Nat.add_comm, Nat.add_left_comm]

theorem not_equalAt_of_equalIndex? (h : equalIndex? v xs = none) (i : Nat) : ¬ EqualAt v xs i := by
  rintro ⟨item, hitem, heq⟩
  have hne := List.findIdx?_eq_none_iff.1 h item (List.mem_of_getElem? hitem)
  rw [heq] at hne
  cases hne

theorem equalAt_of_equalIndex? {i : Nat} (h : equalIndex? v xs = some i) :
    EqualAt v xs i ∧ ∀ j, EqualAt v xs j → i ≤ j := by
  obtain ⟨hlt, heq, hbefore⟩ := List.findIdx?_eq_some_iff_getElem.1 h
  refine ⟨⟨xs[i], List.getElem?_eq_getElem hlt, eq_of_beq heq⟩, ?_⟩
  rintro j ⟨item, hitem, hj⟩
  by_contra hji
  obtain ⟨hjlt, rfl⟩ := List.getElem?_eq_some_iff.1 hitem
  exact hbefore j (by omega) (by rw [hj]; rfl)

/-- Read from the end, a list has the items it has read from the front. -/
theorem EqualAt.reverse {i : Nat} (h : EqualAt v xs i) :
    ∃ j, EqualAt v xs.reverse j ∧ i + 1 + j = xs.length := by
  obtain ⟨item, hitem, heq⟩ := h
  obtain ⟨hlt, -⟩ := List.getElem?_eq_some_iff.1 hitem
  refine ⟨xs.length - 1 - i, ⟨item, ?_, heq⟩, by omega⟩
  rw [List.getElem?_reverse (by omega), ← hitem]
  congr 1
  omega

/-- The same for a list that was read from the end. -/
theorem EqualAt.of_reverse {j : Nat} (h : EqualAt v xs.reverse j) :
    ∃ i, EqualAt v xs i ∧ i + 1 + j = xs.length := by
  obtain ⟨i, hi, hadd⟩ := h.reverse
  rw [List.reverse_reverse] at hi
  rw [List.length_reverse] at hadd
  exact ⟨i, hi, by omega⟩

theorem foundFirst_equalIndex? (v : Value) (xs : List Value) :
    FoundFirst (EqualAt v xs) (numberOf (equalIndex? v xs)) :=
  foundFirst_numberOf not_equalAt_of_equalIndex? fun _ => equalAt_of_equalIndex?

/-- **The first item from the end that is equal** is the last one. -/
theorem foundLast_equalIndex?_reverse (v : Value) (xs : List Value) :
    FoundLast (EqualAt v xs)
      (numberOf ((equalIndex? v xs.reverse).map (xs.length - 1 - ·))) := by
  refine foundLast_numberOf (fun hnone i hi => ?_) fun i hi => ?_
  · obtain ⟨j, hj, -⟩ := hi.reverse
    exact not_equalAt_of_equalIndex? (Option.map_eq_none_iff.1 hnone) j hj
  · obtain ⟨j, hfound, rfl⟩ := Option.map_eq_some_iff.1 hi
    obtain ⟨hj, hleast⟩ := equalAt_of_equalIndex? hfound
    obtain ⟨i, hi, hadd⟩ := hj.of_reverse
    obtain rfl : i = xs.length - 1 - j := by omega
    refine ⟨hi, fun k hk => ?_⟩
    obtain ⟨l, hl, hadd'⟩ := hk.reverse
    have := hleast l hl
    omega

/-- **In a list read from the end,** the places of equal items are counted from the end. -/
theorem opposite_items (hi : FoundLast (EqualAt v xs) i)
    (hj : FoundFirst (EqualAt v xs.reverse) j) : Opposite i j (xs.length - 1) := by
  refine hi.add_foundFirst hj (fun i h => ?_) fun j h => ?_
  · obtain ⟨j, hj, hadd⟩ := h.reverse
    exact ⟨j, hj, by omega⟩
  · obtain ⟨i, hi, hadd⟩ := h.of_reverse
    exact ⟨i, hi, by omega⟩

/-! ### Searches -/

/-- The first place of a part in a text, both of them read from the end. -/
def indexOfReversed (s x : Text) : Except Fault Value := do
  let reversed ← apply .reverse [.ofString s]
  let part ← apply .reverse [.ofString x]
  apply .indexOf [reversed, part]

/-- The first place of an item in a list read from the end. -/
def indexOfFromEnd (xs : List Value) (x : Value) : Except Fault Value := do
  let reversed ← apply .reverse [.list .typed xs]
  apply .indexOf [reversed, x]

/-- **What it means that searches find the extreme places of a part in a text.** -/
structure SearchesText (o : Origin) (s x : Text) : Prop where
  /-- Without an offset the first occurrence in the whole text is found. -/
  first : ∃ i, apply .indexOf [.ofString s, .text o x] = .ok (.int .typed i) ∧
    FoundFirst (OccursAt x.toList s.toList) i
  /-- Without an offset the last occurrence in the whole text is found. -/
  last : ∃ i, apply .lastIndexOf [.ofString s, .text o x] = .ok (.int .typed i) ∧
    FoundLast (OccursAt x.toList s.toList) i
  /-- From an offset on, the first occurrence is found that begins there or behind. -/
  firstFrom : ∀ (offset : Value) (k : Int), offset.integer? = some k → 0 ≤ k → k ≤ s.length →
    ∃ i, apply .indexOf [.ofString s, .text o x, offset] = .ok (.int .typed i) ∧
      FoundFirst (fun i => k ≤ i ∧ OccursAt x.toList s.toList i) i
  /-- Up to an offset, the last occurrence is found that begins there or before; it may extend
  beyond. -/
  lastUpTo : ∀ (offset : Value) (k : Int), offset.integer? = some k → 0 ≤ k → k ≤ s.length →
    ∃ i, apply .lastIndexOf [.ofString s, .text o x, offset] = .ok (.int .typed i) ∧
      FoundLast (fun i => i ≤ k ∧ OccursAt x.toList s.toList i) i
  /-- Every other integer is no offset. -/
  outside : ∀ (offset : Value) (k : Int), offset.integer? = some k → k < 0 ∨ s.length < k →
    apply .indexOf [.ofString s, .text o x, offset] = .error (.outside ⟨.indexOf, .offset⟩ k) ∧
      apply .lastIndexOf [.ofString s, .text o x, offset] =
        .error (.outside ⟨.lastIndexOf, .offset⟩ k)
  /-- The last place is the first one of what is read from the end, counted from the end. -/
  opposite : ∃ i j, apply .lastIndexOf [.ofString s, .ofString x] = .ok (.int .typed i) ∧
    indexOfReversed s x = .ok (.int .typed j) ∧ Opposite i j (s.length - x.length)

/-- **What it means that searches find the extreme places of an item in a list.** -/
structure SearchesItems (xs : List Value) (x : Value) : Prop where
  first : ∃ i, apply .indexOf [.list .typed xs, x] = .ok (.int .typed i) ∧
    FoundFirst (EqualAt x xs) i
  last : ∃ i, apply .lastIndexOf [.list .typed xs, x] = .ok (.int .typed i) ∧
    FoundLast (EqualAt x xs) i
  /-- The last place is the first one from the end, counted from the end. -/
  opposite : ∃ i j, apply .lastIndexOf [.list .typed xs, x] = .ok (.int .typed i) ∧
    indexOfFromEnd xs x = .ok (.int .typed j) ∧ Opposite i j (xs.length - 1)

theorem searchesText (o : Origin) (s x : Text) : SearchesText o s x where
  first := ⟨_, indexOf_whole o s x, foundFirst_firstIndex? _ _⟩
  last := ⟨_, lastIndexOf_whole o s x, foundLast_lastIndex? _ _⟩
  firstFrom offset k hoffset hleast hgreatest := by
    lift k to Nat using hleast
    have hlength : k ≤ s.length := Int.ofNat_le.1 hgreatest
    have hfirst := foundFirst_firstIndex?_drop x.toList
      (hlength.trans_eq (Text.length_toList (s := s)).symm)
    refine ⟨_, indexOf_text (offsetIn_inside .indexOf hoffset hlength), ?_⟩
    simpa only [Int.ofNat_le] using hfirst
  lastUpTo offset k hoffset hleast hgreatest := by
    lift k to Nat using hleast
    have hlength : k ≤ s.length := Int.ofNat_le.1 hgreatest
    refine ⟨_, lastIndexOf_text hoffset (offsetIn_inside .lastIndexOf hoffset hlength), ?_⟩
    simpa only [Int.ofNat_le] using foundLast_lastIndex?_take x.toList s.toList k
  outside offset k hoffset hk := by
    constructor
    · exact refused_bind (offsetIn_outside .indexOf hoffset hk) _
    · change lastIndexOf (.ofString s) (.text o x) offset = _
      rw [lastIndexOf_integer hoffset]
      exact refused_bind (offsetIn_outside .lastIndexOf hoffset hk) _
  opposite := by
    -- the first occurrence backwards is the last one, counted from the other end
    have hreversed : indexOfReversed s x = .ok (.int .typed
        (numberOf (firstIndex? x.toList.reverse s.toList.reverse))) := by
      have h := indexOf_whole .typed (Text.ofList s.toList.reverse)
        (Text.ofList x.toList.reverse)
      rw [Text.toList_ofList, Text.toList_ofList] at h
      exact h
    have hadd := opposite_text (foundLast_lastIndex? x.toList s.toList)
      (foundFirst_firstIndex? x.toList.reverse s.toList.reverse)
    rw [Text.length_toList, Text.length_toList] at hadd
    exact ⟨_, _, lastIndexOf_whole .typed s x, hreversed, hadd⟩

theorem Comparable.reverse {xs : List Value} {x : Value} (h : Comparable x xs) :
    Comparable x xs.reverse := fun item hitem => h item (List.mem_reverse.1 hitem)

/-- **What is found in a list** whose items can be compared. -/
theorem indexOf_items {xs : List Value} {x : Value} (h : Comparable x xs) :
    apply .indexOf [.list .typed xs, x] = .ok (.int .typed (numberOf (equalIndex? x xs))) := by
  have hfound : firstEqual x 0 xs = .ok (equalIndex? x xs) := by
    rw [firstEqual_eq h 0]
    simp
  change (do return place (← firstEqual x 0 xs)) = _
  rw [hfound]
  rfl

/-- **What is last found in a list** whose items can be compared. -/
theorem lastIndexOf_items {xs : List Value} {x : Value} (h : Comparable x xs) :
    apply .lastIndexOf [.list .typed xs, x] = .ok (.int .typed
      (numberOf ((equalIndex? x xs.reverse).map (xs.length - 1 - ·)))) := by
  have hfound : firstEqual x 0 xs.reverse = .ok (equalIndex? x xs.reverse) := by
    rw [firstEqual_eq h.reverse 0]
    simp
  change (do return place ((← firstEqual x 0 xs.reverse).map (xs.length - 1 - ·))) = _
  rw [hfound]
  rfl

theorem searchesItems {xs : List Value} {x : Value} (h : Comparable x xs) :
    SearchesItems xs x where
  first := ⟨_, indexOf_items h, foundFirst_equalIndex? x xs⟩
  last := ⟨_, lastIndexOf_items h, foundLast_equalIndex?_reverse x xs⟩
  opposite := by
    have hreversed : indexOfFromEnd xs x =
        .ok (.int .typed (numberOf (equalIndex? x xs.reverse))) := indexOf_items h.reverse
    have hadd := opposite_items (foundLast_equalIndex?_reverse x xs)
      (foundFirst_equalIndex? x xs.reverse)
    exact ⟨_, _, lastIndexOf_items h, hreversed, hadd⟩

/-- **Searches find the extreme places,** in texts and in lists whose items can be compared, and the
two of them are each other's mirror images. -/
theorem searches_extremes (o : Origin) (s x : Text) {xs : List Value} {v : Value}
    (h : Comparable v xs) : SearchesText o s x ∧ SearchesItems xs v :=
  ⟨searchesText o s x, searchesItems h⟩

/-- Booleans can be compared with an integer, and the last item that equals it is one. -/
theorem searches_extremes_mixed :
    Comparable (.int .typed 1) [.bool 0, .int .typed 1, .bool 1] ∧
      SearchesText .bare "abaaba" "aba" ∧
      SearchesItems [.bool 0, .int .typed 1, .bool 1] (.int .typed 1) := by
  have hcomparable : Comparable (.int .typed 1) [.bool 0, .int .typed 1, .bool 1] := by
    intro item hitem
    simp only [List.mem_cons, List.not_mem_nil, or_false] at hitem
    rcases hitem with rfl | rfl | rfl <;> rfl
  exact ⟨hcomparable, searches_extremes .bare "abaaba" "aba" hcomparable⟩

/-- An occurrence may extend beyond the offset up to which it is searched. -/
example : apply .lastIndexOf [.ofString "abaaba", .ofString "aba", .int .typed 4] =
    .ok (.int .typed 3) := by rfl

end Admission.Library
