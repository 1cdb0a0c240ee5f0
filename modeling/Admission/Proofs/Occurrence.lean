import Mathlib.Data.List.Infix
import Admission.Text.Search

/-!
# Occurrences of one list in another

Where a list occurs in another one, and what searches from the front and from the end find.

* `OccursAt`: one list occurs in another at a place.
* `FirstAt`, `LastAt`: the first and the last such place.
* `firstAt_of_firstIndex?`, `firstIndex?_eq_none_iff`: a search finds the first place if there is
  one.
* `lastAt_of_lastIndex?`, `not_occursAt_of_lastIndex?`: the other search finds the last place if
  there is one.
* `occursAt_drop_iff`, `occursAt_take_iff`: the occurrences from a place on, and up to a place.
* `OccursAt.reverse`: from the end to the front, occurrences are occurrences.
* `OccursAt.split`: what stands before an occurrence, and what stands behind it.
* `FirstAt.upTo`: up to its own end, the first occurrence is the first one.
-/

namespace Admission.Text

variable {α : Type} {x s t : List α} {c : α} {i j : Nat}

/-- One list occurs in another at a place: so many elements stand before it. -/
def OccursAt (x s : List α) (i : Nat) : Prop :=
  ∃ before after, s = before ++ x ++ after ∧ before.length = i

/-- The first place where one list occurs in another. -/
structure FirstAt (x s : List α) (i : Nat) : Prop where
  occurs : OccursAt x s i
  least : ∀ j, OccursAt x s j → i ≤ j

/-- The last place where one list occurs in another. -/
structure LastAt (x s : List α) (i : Nat) : Prop where
  occurs : OccursAt x s i
  greatest : ∀ j, OccursAt x s j → j ≤ i

theorem occursAt_zero : OccursAt x s 0 ↔ x <+: s := by
  constructor
  · rintro ⟨before, after, rfl, h⟩
    obtain rfl := List.length_eq_zero_iff.1 h
    exact ⟨after, rfl⟩
  · rintro ⟨after, rfl⟩
    exact ⟨[], after, rfl, rfl⟩

theorem occursAt_cons_succ : OccursAt x (c :: s) (i + 1) ↔ OccursAt x s i := by
  constructor
  · rintro ⟨before, after, hs, h⟩
    cases before with
    | nil => cases h
    | cons b before =>
      obtain ⟨-, rfl⟩ := List.cons.inj hs
      exact ⟨before, after, rfl, Nat.succ.inj h⟩
  · rintro ⟨before, after, rfl, rfl⟩
    exact ⟨c :: before, after, rfl, rfl⟩

theorem occursAt_nil : OccursAt x [] i ↔ x = [] ∧ i = 0 := by
  constructor
  · rintro ⟨before, after, h, rfl⟩
    obtain ⟨h, -⟩ := List.append_eq_nil_iff.1 h.symm
    obtain ⟨rfl, rfl⟩ := List.append_eq_nil_iff.1 h
    exact ⟨rfl, rfl⟩
  · rintro ⟨rfl, rfl⟩
    exact ⟨[], [], rfl, rfl⟩

/-- What occurs at a place is what the rest from there on begins with. -/
theorem occursAt_iff : OccursAt x s i ↔ i ≤ s.length ∧ x <+: s.drop i := by
  constructor
  · rintro ⟨before, after, rfl, rfl⟩
    rw [List.append_assoc, List.drop_left]
    refine ⟨?_, after, rfl⟩
    rw [List.length_append]
    exact Nat.le_add_right _ _
  · rintro ⟨hi, after, hafter⟩
    refine ⟨s.take i, after, ?_, List.length_take_of_le hi⟩
    rw [List.append_assoc, hafter, List.take_append_drop]

/-- **From a place on,** the occurrences are those at this place and behind it. -/
theorem occursAt_drop_iff {k : Nat} (hk : k ≤ s.length) :
    OccursAt x (s.drop k) i ↔ OccursAt x s (k + i) := by
  rw [occursAt_iff, occursAt_iff, List.drop_drop, List.length_drop]
  have hlength : i ≤ s.length - k ↔ k + i ≤ s.length := by omega
  rw [hlength]

/-- **Up to a place** and what fits behind it, the occurrences are those up to this place. -/
theorem occursAt_take_iff {k : Nat} :
    OccursAt x (s.take (k + x.length)) i ↔ i ≤ k ∧ OccursAt x s i := by
  rw [occursAt_iff, occursAt_iff, List.drop_take, List.prefix_take_iff, List.length_take]
  constructor
  · rintro ⟨hi, hx, hlength⟩
    exact ⟨by omega, by omega, hx⟩
  · rintro ⟨hik, hi, hx⟩
    exact ⟨by omega, hx, by omega⟩

namespace OccursAt

/-- Read from the end, a list has what it has read from the front. -/
theorem reverse (h : OccursAt x s i) :
    ∃ j, OccursAt x.reverse s.reverse j ∧ i + x.length + j = s.length := by
  obtain ⟨before, after, rfl, rfl⟩ := h
  refine ⟨after.length, ⟨after.reverse, before.reverse, ?_, List.length_reverse⟩, ?_⟩
  · rw [List.reverse_append, List.reverse_append, List.append_assoc]
  · rw [List.length_append, List.length_append]

/-- An occurrence ends inside the list. -/
theorem add_length_le (h : OccursAt x s i) : i + x.length ≤ s.length := by
  obtain ⟨before, after, rfl, rfl⟩ := h
  simp only [List.length_append]
  omega

/-- What occurs in a list occurs in it with more behind it. -/
theorem append_right (h : OccursAt x s i) (t : List α) : OccursAt x (s ++ t) i := by
  obtain ⟨before, after, rfl, rfl⟩ := h
  exact ⟨before, after ++ t, by simp only [List.append_assoc], rfl⟩

/-- A list is what stands before an occurrence, what occurs, and what stands behind it. -/
theorem split (h : OccursAt x s i) : s = s.take i ++ x ++ s.drop (i + x.length) := by
  obtain ⟨before, after, rfl, rfl⟩ := h
  have htake : (before ++ x ++ after).take before.length = before := by
    rw [List.append_assoc, List.take_left]
  have hdrop : (before ++ x ++ after).drop (before.length + x.length) = after :=
    List.drop_left' List.length_append
  rw [htake, hdrop]

theorem length_take (h : OccursAt x s i) : (s.take i).length = i := by
  have := h.add_length_le
  rw [List.length_take]
  omega

end OccursAt

namespace FirstAt

/-- There is one first place. -/
theorem unique (h : FirstAt x s i) (h' : FirstAt x s j) : i = j :=
  le_antisymm (h.least j h'.occurs) (h'.least i h.occurs)

/-- **The first occurrence in a list is the first one in what stands up to its end.** -/
theorem upTo (h : FirstAt x s i) : FirstAt x (s.take i ++ x) (s.take i).length where
  occurs := ⟨s.take i, [], (List.append_nil _).symm, rfl⟩
  least j hj := by
    -- an occurrence up there is one in the whole list
    have hs : OccursAt x s j := by
      rw [h.occurs.split]
      exact hj.append_right _
    rw [h.occurs.length_take]
    exact h.least j hs

end FirstAt

variable [BEq α] [LawfulBEq α]

theorem isPrefixOf_iff_occursAt : x.isPrefixOf s ↔ OccursAt x s 0 := by
  rw [occursAt_zero, List.isPrefixOf_iff_prefix]

/-- **What a search from the front finds** is the first occurrence. -/
theorem firstAt_of_firstIndex? (h : firstIndex? x s = some i) : FirstAt x s i := by
  induction s generalizing i with
  | nil =>
    rw [firstIndex?] at h
    split at h
    · next hx =>
      obtain rfl := Option.some.inj h
      exact ⟨occursAt_nil.2 ⟨List.isEmpty_iff.1 hx, rfl⟩, fun j _ => Nat.zero_le j⟩
    · cases h
  | cons c s ih =>
    rw [firstIndex?] at h
    split at h
    · next hx =>
      obtain rfl := Option.some.inj h
      exact ⟨isPrefixOf_iff_occursAt.1 hx, fun j _ => Nat.zero_le j⟩
    · next hx =>
      obtain ⟨i, hi, rfl⟩ := Option.map_eq_some_iff.1 h
      obtain ⟨hoccurs, hleast⟩ := ih hi
      refine ⟨occursAt_cons_succ.2 hoccurs, fun j hj => ?_⟩
      cases j with
      | zero => exact absurd (isPrefixOf_iff_occursAt.2 hj) hx
      | succ j => exact Nat.succ_le_succ (hleast j (occursAt_cons_succ.1 hj))

/-- **A search finds nothing** where nothing occurs. -/
theorem firstIndex?_eq_none_iff : firstIndex? x s = none ↔ ∀ i, ¬ OccursAt x s i := by
  constructor
  · intro h
    induction s with
    | nil =>
      intro i hi
      rw [firstIndex?, (occursAt_nil.1 hi).1] at h
      cases h
    | cons c s ih =>
      rw [firstIndex?] at h
      split at h
      · cases h
      · next hx =>
        intro i hi
        cases i with
        | zero => exact hx (isPrefixOf_iff_occursAt.2 hi)
        | succ i => exact ih (Option.map_eq_none_iff.1 h) i (occursAt_cons_succ.1 hi)
  · intro h
    cases hi : firstIndex? x s with
    | none => rfl
    | some i => exact absurd (firstAt_of_firstIndex? hi).occurs (h i)

/-- **A search from the end finds nothing** only where nothing occurs. -/
theorem not_occursAt_of_lastIndex? (h : lastIndex? x s = none) (i : Nat) : ¬ OccursAt x s i := by
  induction s generalizing i with
  | nil =>
    intro hi
    rw [lastIndex?, (occursAt_nil.1 hi).1] at h
    cases h
  | cons c s ih =>
    rw [lastIndex?] at h
    split at h
    · cases h
    · next hnone =>
      split at h
      · cases h
      · next hx =>
        intro hi
        cases i with
        | zero => exact hx (isPrefixOf_iff_occursAt.2 hi)
        | succ i => exact ih hnone i (occursAt_cons_succ.1 hi)

/-- **What a search from the end finds** is the last occurrence. -/
theorem lastAt_of_lastIndex? (h : lastIndex? x s = some i) : LastAt x s i := by
  induction s generalizing i with
  | nil =>
    rw [lastIndex?] at h
    split at h
    · next hx =>
      obtain rfl := Option.some.inj h
      exact ⟨occursAt_nil.2 ⟨List.isEmpty_iff.1 hx, rfl⟩, fun j hj => (occursAt_nil.1 hj).2.le⟩
    · cases h
  | cons c s ih =>
    rw [lastIndex?] at h
    -- an occurrence behind the front is later than one at the front
    split at h
    · next i hi =>
      obtain rfl := Option.some.inj h
      obtain ⟨hoccurs, hgreatest⟩ := ih hi
      refine ⟨occursAt_cons_succ.2 hoccurs, fun j hj => ?_⟩
      cases j with
      | zero => exact Nat.zero_le _
      | succ j => exact Nat.succ_le_succ (hgreatest j (occursAt_cons_succ.1 hj))
    · next hnone =>
      split at h
      · next hx =>
        obtain rfl := Option.some.inj h
        refine ⟨isPrefixOf_iff_occursAt.1 hx, fun j hj => ?_⟩
        cases j with
        | zero => exact Nat.le_refl 0
        | succ j =>
          exact absurd (occursAt_cons_succ.1 hj) (not_occursAt_of_lastIndex? hnone j)
      · cases h

end Admission.Text
