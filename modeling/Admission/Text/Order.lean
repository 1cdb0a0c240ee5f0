import Admission.Text.Basic
import Mathlib.Data.List.Lex
import Mathlib.Order.Defs.LinearOrder

/-!
# The order of texts

Code points are ordered by their codes, which tell them apart, and texts like the rows of their
code points. Both orders are total.

* `Point.toNat_inj`: code points of one code are the same.
-/

namespace Admission

namespace Point

theorem toNat_char_ne (c : Char) (h : Fin 2048) : (char c).toNat ≠ (half h).toNat := by
  have hc : c.toNat < 0xD800 ∨ 0xDFFF < c.toNat ∧ c.toNat < 0x110000 := c.valid
  simp only [toNat]
  omega

/-- Code points of one code are the same. -/
theorem toNat_inj {p q : Point} : p.toNat = q.toNat ↔ p = q := by
  refine ⟨fun h => ?_, congrArg toNat⟩
  cases p with
  | char c =>
    cases q with
    | char d => exact congrArg char (Char.toNat_inj.1 h)
    | half i => exact absurd h (toNat_char_ne c i)
  | half i =>
    cases q with
    | char d => exact absurd h.symm (toNat_char_ne d i)
    | half j => exact congrArg half (Fin.ext (Nat.add_left_cancel h))

instance : LinearOrder Point where
  le_refl p := Nat.le_refl p.toNat
  le_trans _ _ _ := Nat.le_trans
  lt_iff_le_not_ge _ _ := Nat.lt_iff_le_and_not_ge
  le_antisymm _ _ h h' := toNat_inj.1 (Nat.le_antisymm h h')
  le_total p q := Nat.le_total p.toNat q.toNat
  toDecidableLE := inferInstance
  toDecidableEq := inferInstance
  toDecidableLT := inferInstance

end Point

namespace Text

variable {s t : Text}

theorem lt_iff_toList_lt : s < t ↔ s.toList < t.toList := Iff.rfl

theorem le_iff_not_lt : s ≤ t ↔ ¬ t < s := Iff.rfl

theorem le_iff_toList_le : s ≤ t ↔ s.toList ≤ t.toList := by
  rw [le_iff_not_lt, lt_iff_toList_lt, not_lt]

instance : LinearOrder Text where
  le_refl _ := le_iff_toList_le.2 le_rfl
  le_trans _ _ _ := by
    simp only [le_iff_toList_le]
    exact le_trans
  lt_iff_le_not_ge _ _ := by
    simp only [lt_iff_toList_lt, le_iff_toList_le, lt_iff_le_not_ge]
  le_antisymm _ _ := by
    simp only [le_iff_toList_le, ← toList_inj]
    exact le_antisymm
  le_total _ _ := by
    simp only [le_iff_toList_le]
    exact le_total _ _
  toDecidableLE := inferInstance
  toDecidableEq := inferInstance
  toDecidableLT := inferInstance
  compare_eq_compareOfLessAndEq _ _ := rfl

end Text

end Admission
