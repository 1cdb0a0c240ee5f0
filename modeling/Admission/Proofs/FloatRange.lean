import Mathlib.Algebra.Order.Ring.Nat
import Mathlib.Data.Nat.Log
import Admission.Decimal.Binary64

/-!
# Integers beyond every float

An integer that is rounded to a float becomes infinite from `2 ^ 1024 - 2 ^ 970` on: that number is
half-way between the largest float and `2 ^ 1024`, and the tie goes to the even side.

* `isFinite_ofBits`: the finite floats are those whose exponent field is not all ones.
* `le_roundHalfEven_iff`: from where on a quotient is rounded up to an even number.
* `ofInt?_eq_none_iff`: **which integers are beyond every float.**
-/

namespace Admission.Decimal

open Float.Model
open Float.Model.UnpackedFloat (unpackExponent unpackExponent_packComponents)

/-! ### Finite floats -/

theorem isFinite_unpack (b : BitVec Format.binary64.numBits) :
    (UnpackedFloat.unpack Format.binary64 b).isFinite ↔ unpackExponent b ≠ -1#_ := by
  unfold UnpackedFloat.unpack
  dsimp only
  by_cases h : unpackExponent b = -1#_
  · rw [if_pos h]
    by_cases hm : UnpackedFloat.unpackMantissa b = 0#_
    · rw [if_pos hm]
      exact ⟨fun hf => (nomatch hf), fun hne => absurd h hne⟩
    · rw [if_neg hm]
      exact ⟨fun hf => (nomatch hf), fun hne => absurd h hne⟩
  · rw [if_neg h]
    refine ⟨fun _ => h, fun _ => ?_⟩
    by_cases h0 : unpackExponent b = 0#_
    · rw [if_pos h0]
      by_cases hm : UnpackedFloat.unpackMantissa b = 0#_
      · rw [dif_pos hm]
        rfl
      · rw [dif_neg hm]
        rfl
    · rw [if_neg h0]
      rfl

/-- A number with an exponent below the greatest is packed with an exponent field that is not all
ones. -/
theorem unpackExponent_pack_finite {s : UnpackedFloat.Sign} {m : Nat} {e : Int} {hm : 0 < m}
    (he : e < 972) :
    unpackExponent (UnpackedFloat.pack Format.binary64 (.finite s m e hm)) ≠ -1#_ := by
  have hbias : (e + Format.binary64.exponentBias +
      Format.binary64.mantissaBitsWithoutImplicit).toNat < 2047 := by
    simp only [Format.exponentBias]
    omega
  unfold UnpackedFloat.pack
  dsimp only
  generalize (e + Format.binary64.exponentBias +
    Format.binary64.mantissaBitsWithoutImplicit).toNat = b at hbias
  rw [if_neg (by omega)]
  split
  · rw [unpackExponent_packComponents]
    intro h
    have := congrArg BitVec.toNat h
    simp at this
    omega
  · rw [unpackExponent_packComponents]
    decide

/-- Unpacking and packing keeps an exponent field of all ones, and makes none. -/
theorem unpackExponent_pack_unpack (b : BitVec Format.binary64.numBits) :
    unpackExponent (UnpackedFloat.pack Format.binary64 (UnpackedFloat.unpack Format.binary64 b)) =
      -1#_ ↔ unpackExponent b = -1#_ := by
  unfold UnpackedFloat.unpack
  dsimp only
  by_cases h : unpackExponent b = -1#_
  · rw [if_pos h]
    refine ⟨fun _ => h, fun _ => ?_⟩
    by_cases hm : UnpackedFloat.unpackMantissa b = 0#_
    · rw [if_pos hm]
      exact unpackExponent_packComponents
    · rw [if_neg hm]
      exact unpackExponent_packComponents
  · have hlt : (unpackExponent b).toNat < 2047 := by
      have hne : (unpackExponent b).toNat ≠ 2047 := fun he => h (BitVec.eq_of_toNat_eq he)
      have := (unpackExponent b).isLt
      simp only [Format.binary64] at this
      omega
    rw [if_neg h]
    refine iff_of_false ?_ h
    -- an exponent field of zero stands for an exponent that is one greater
    by_cases h0 : unpackExponent b = 0#_
    · rw [if_pos h0]
      by_cases hm : UnpackedFloat.unpackMantissa b = 0#_
      · rw [dif_pos hm]
        change unpackExponent (UnpackedFloat.packedZero Format.binary64 _) ≠ _
        rw [UnpackedFloat.packedZero, unpackExponent_packComponents]
        decide
      · rw [dif_neg hm]
        refine unpackExponent_pack_finite ?_
        simp [h0, Format.exponentBias]
    · rw [if_neg h0]
      refine unpackExponent_pack_finite ?_
      simp only [Format.exponentBias]
      omega

/-- **The finite floats are those whose exponent field is not all ones.** -/
theorem isFinite_ofBits (b : UInt64) :
    (Float.ofBits b).isFinite ↔ b.toNat / 2 ^ 52 % 2048 ≠ 2047 := by
  have hfield : @unpackExponent Format.binary64 b.toBitVec = -1#_ ↔
      b.toNat / 2 ^ 52 % 2048 = 2047 := by
    rw [← BitVec.toNat_inj, unpackExponent]
    simp [Nat.shiftRight_eq_div_pow]
  rw [ne_eq, ← hfield, ← unpackExponent_pack_unpack]
  exact isFinite_unpack _

/-! ### Rounding -/

theorem le_roundHalfEven (num den : Nat) : num / den ≤ roundHalfEven num den := by
  simp only [roundHalfEven]
  split
  · exact le_refl _
  · split <;> omega

/-- Rounding adds at most one. -/
theorem roundHalfEven_le (num den : Nat) : roundHalfEven num den ≤ num / den + 1 := by
  simp only [roundHalfEven]
  split
  · omega
  · split <;> omega

/-- **A quotient is rounded to an even number or beyond** from half a unit below that number on. -/
theorem le_roundHalfEven_iff {num den m : Nat} (hd : 0 < den) (hm : m % 2 = 0) (hpos : 0 < m) :
    m ≤ roundHalfEven num den ↔ (2 * m - 1) * den ≤ 2 * num := by
  have hdiv := Nat.div_add_mod num den
  have hmod := Nat.mod_lt num hd
  have hlo := le_roundHalfEven num den
  have hhi := roundHalfEven_le num den
  rcases Nat.lt_trichotomy m (num / den + 1) with h | h | h
  · have : (2 * m - 1) * den ≤ 2 * (num / den) * den := Nat.mul_le_mul_right den (by omega)
    rw [mul_assoc, mul_comm (num / den)] at this
    exact ⟨fun _ => by omega, fun _ => by omega⟩
  · -- the quotient is odd, so a tie goes up
    have : (2 * m - 1) * den = 2 * (den * (num / den)) + den := by
      rw [show 2 * m - 1 = 2 * (num / den) + 1 by omega, add_mul, one_mul, mul_assoc,
        mul_comm (num / den)]
    rw [this]
    simp only [roundHalfEven]
    split
    · omega
    · split <;> omega
  · have : (2 * (num / den) + 3) * den ≤ (2 * m - 1) * den := Nat.mul_le_mul_right den (by omega)
    rw [add_mul, mul_assoc, mul_comm (num / den)] at this
    exact ⟨fun _ => by omega, fun _ => by omega⟩

/-! ### The range of floats -/

/-- The least natural number that is beyond every float. -/
def overflowBound : Nat := 2 ^ 1024 - 2 ^ 970

/-- The float of an assembled number is finite if the number is not too large. -/
theorem isFinite_assemble (negative : Bool) {m : Nat} (h52 : 2 ^ 52 ≤ m) (h53 : m ≤ 2 ^ 53)
    {e : Int} (he : -1074 ≤ e) :
    (assemble negative m e).isFinite ↔ e < 971 ∨ e = 971 ∧ m < 2 ^ 53 := by
  unfold assemble
  rw [if_neg (by change ¬ m < 2 ^ 52; omega), isFinite_ofBits]
  have hp52 : Nat.pow 2 52 = 4503599627370496 := rfl
  have hp63 : Nat.pow 2 63 = 9223372036854775808 := rfl
  -- the sign is worth a multiple of 2048 in the exponent field
  simp only [hp52, hp63, UInt64.toNat_ofNat']
  cases negative <;> simp <;> omega

/-- The mantissa of the float nearest to a positive natural number. -/
def mantissaOf (n : Nat) : Nat :=
  if 52 ≤ n.log2 then roundHalfEven n (2 ^ (n.log2 - 52)) else n * 2 ^ (52 - n.log2)

theorem roundHalfEven_one (n : Nat) : roundHalfEven n 1 = n := by
  simp [roundHalfEven, Nat.mod_one]

theorem ofQuotient_one (negative : Bool) {n : Nat} (hn : n ≠ 0) :
    ofQuotient negative n 1 = assemble negative (mantissaOf n) (n.log2 - 52) := by
  have hlog := Nat.log2_self_le hn
  have h1 : Nat.log2 1 = 0 := rfl
  unfold ofQuotient mantissaOf
  rw [if_neg hn]
  simp only [h1, Int.natCast_zero, Int.sub_zero, mul_one, one_mul, Nat.pow_eq]
  -- the guess is right: the quotient is the number itself, whose length is known
  by_cases h : 52 ≤ n.log2
  · have hexp : ((n.log2 : Int) - 52).toNat = n.log2 - 52 := by omega
    have hlow : ¬ n < 2 ^ (52 + (n.log2 - 52)) := by
      rw [Nat.add_sub_cancel' h]
      omega
    have hmax : max ((n.log2 : Int) - 52) (-1074) = n.log2 - 52 := by omega
    have hge : (n.log2 : Int) - 52 ≥ 0 := by omega
    simp only [hexp, hlow, hmax, hge, h, if_true, if_false]
  · have hexp : (-((n.log2 : Int) - 52)).toNat = 52 - n.log2 := by omega
    have hlow : ¬ n * 2 ^ (52 - n.log2) < 2 ^ 52 := by
      have := Nat.mul_le_mul_right (2 ^ (52 - n.log2)) hlog
      rw [← pow_add, Nat.add_sub_cancel' (by omega)] at this
      omega
    have hmax : max ((n.log2 : Int) - 52) (-1074) = n.log2 - 52 := by omega
    have hge : ¬ (n.log2 : Int) - 52 ≥ 0 := by omega
    simp only [hexp, hlow, hmax, hge, h, if_false, roundHalfEven_one]

/-- The mantissa of a nearest float has 53 bits, or is the first beyond. -/
theorem mantissaOf_bounds {n : Nat} (hn : n ≠ 0) :
    2 ^ 52 ≤ mantissaOf n ∧ mantissaOf n ≤ 2 ^ 53 := by
  have hlog := Nat.log2_self_le hn
  have hlt := Nat.lt_log2_self (n := n)
  unfold mantissaOf
  -- a long number is rounded to its first 53 bits, a short one is filled up with zeros
  by_cases h : 52 ≤ n.log2
  · rw [if_pos h]
    have hlo := le_roundHalfEven n (2 ^ (n.log2 - 52))
    have hhi := roundHalfEven_le n (2 ^ (n.log2 - 52))
    have hpos : 0 < 2 ^ (n.log2 - 52) := Nat.two_pow_pos _
    have h52 : 2 ^ 52 ≤ n / 2 ^ (n.log2 - 52) := by
      rw [Nat.le_div_iff_mul_le hpos, ← pow_add, Nat.add_sub_cancel' h]
      exact hlog
    have h53 : n / 2 ^ (n.log2 - 52) < 2 ^ 53 := by
      rw [Nat.div_lt_iff_lt_mul hpos, ← pow_add, show 53 + (n.log2 - 52) = n.log2 + 1 by omega]
      exact hlt
    omega
  · rw [if_neg h]
    have hlo := Nat.mul_le_mul_right (2 ^ (52 - n.log2)) hlog
    have hhi := Nat.mul_le_mul_right (2 ^ (52 - n.log2)) hlt.le
    rw [← pow_add, Nat.add_sub_cancel' (by omega)] at hlo
    rw [← pow_add, show n.log2 + 1 + (52 - n.log2) = 53 by omega] at hhi
    exact ⟨hlo, hhi⟩

/-- The mantissa carries from half a unit below the next power of two on. -/
theorem le_mantissaOf_iff {n k : Nat} (h : n.log2 = 52 + k) :
    2 ^ 53 ≤ mantissaOf n ↔ (2 * 2 ^ 53 - 1) * 2 ^ k ≤ 2 * n := by
  rw [mantissaOf, if_pos (by omega), show n.log2 - 52 = k by omega]
  exact le_roundHalfEven_iff (Nat.two_pow_pos k) (by decide) (by decide)

theorem lt_two_pow_mul {n a b : Nat} (h : n.log2 < a + b) : n < 2 ^ a * 2 ^ b := by
  have hlt := Nat.lt_log2_self (n := n)
  have hle := Nat.pow_le_pow_right (n := 2) (by omega) (show n.log2 + 1 ≤ a + b by omega)
  rw [Nat.pow_add 2 a b] at hle
  omega

theorem two_pow_mul_le {n a b : Nat} (hn : n ≠ 0) (h : a + b ≤ n.log2) : 2 ^ a * 2 ^ b ≤ n := by
  have hlog := Nat.log2_self_le hn
  have hle := Nat.pow_le_pow_right (n := 2) (by omega) h
  rw [Nat.pow_add 2 a b] at hle
  omega

/-- A positive natural number is beyond every float iff its nearest float has too large an exponent,
or the greatest one and a mantissa that carries. -/
theorem overflowBound_le_iff {n : Nat} (hn : n ≠ 0) :
    overflowBound ≤ n ↔ 1023 < n.log2 ∨ n.log2 = 1023 ∧ 2 ^ 53 ≤ mantissaOf n := by
  unfold overflowBound
  rw [show 1024 = 54 + 970 from rfl, Nat.pow_add]
  -- only at the greatest exponent the mantissa decides
  rcases Nat.lt_trichotomy n.log2 1023 with h | h | h
  · have := lt_two_pow_mul (a := 53) (b := 970) h
    omega
  · rw [le_mantissaOf_iff (k := 970 + 1) h, Nat.pow_succ]
    omega
  · have := two_pow_mul_le (a := 54) (b := 970) hn h
    omega

/-- **The integers beyond every float** are those of at least `2 ^ 1024 - 2 ^ 970` in absolute
value. -/
theorem ofInt?_eq_none_iff {n : Int} : ofInt? n = none ↔ overflowBound ≤ n.natAbs := by
  have hfin : ofInt? n = none ↔ ¬ (ofInt n).isFinite := by
    simp only [ofInt?]
    split <;> simp_all
  rw [hfin, ofInt]
  by_cases hn : n.natAbs = 0
  · have hpos : 0 < overflowBound := by decide +kernel
    obtain rfl : n = 0 := by omega
    exact ⟨fun h => absurd (by decide +kernel) h, fun h => by omega⟩
  · obtain ⟨h52, h53⟩ := mantissaOf_bounds hn
    rw [overflowBound_le_iff hn, ofQuotient_one _ hn, isFinite_assemble _ h52 h53 (by omega)]
    omega

end Admission.Decimal
