/-
The decimal exponent of a double.  A guess from the binary exponent is off by at most one, for
`31 / 103` and `28 / 93` enclose the logarithm of two tightly enough for all exponents of doubles,
and the two comparisons with a power of ten decide the rest.
-/
import Amend.Decimal
import Amend.Proofs.Binary64.Value
import Mathlib.Analysis.SpecialFunctions.Log.Basic
import Mathlib.Data.Int.Log

namespace Amend
namespace Decimal

open Binary64 (one one_pos cast_one_pos exists_one_eq cast_two_pow beyond exists_beyond_eq)

/-! ## Powers of two and of ten -/

theorem log_ten_le : 31 * Real.log 10 ≤ 103 * Real.log 2 := by
  have hpow : (10 : ℝ) ^ 31 ≤ 2 ^ 103 := by norm_num
  have hlog := Real.log_le_log (by norm_num) hpow
  rw [Real.log_pow, Real.log_pow] at hlog
  exact_mod_cast hlog

theorem log_two_le : 93 * Real.log 2 ≤ 28 * Real.log 10 := by
  have hpow : (2 : ℝ) ^ 93 ≤ 10 ^ 28 := by norm_num
  have hlog := Real.log_le_log (by norm_num) hpow
  rw [Real.log_pow, Real.log_pow] at hlog
  exact_mod_cast hlog

theorem zpow_ten_le_zpow_two {n g : ℤ} (h : 103 * g ≤ 31 * n) (h' : 93 * g ≤ 28 * n) :
    (10 : ℝ) ^ g ≤ 2 ^ n := by
  have hten : 0 < Real.log 10 := Real.log_pos (by norm_num)
  have hcast : (103 : ℝ) * g ≤ 31 * n := by exact_mod_cast h
  have hcast' : (93 : ℝ) * g ≤ 28 * n := by exact_mod_cast h'
  rw [← Real.log_le_log_iff (by positivity) (by positivity), Real.log_zpow, Real.log_zpow]
  rcases le_total 0 (n : ℝ) with hn | hn
  · have hleft := mul_le_mul_of_nonneg_right hcast hten.le
    have hright := mul_le_mul_of_nonneg_left log_ten_le hn
    linarith
  · have hleft := mul_le_mul_of_nonneg_right hcast' hten.le
    have hright := mul_le_mul_of_nonpos_left log_two_le hn
    linarith

theorem zpow_two_le_zpow_ten {n g : ℤ} (h : 31 * n ≤ 103 * g) (h' : 28 * n ≤ 93 * g) :
    (2 : ℝ) ^ n ≤ 10 ^ g := by
  have hinv : (10 : ℝ) ^ (-g) ≤ 2 ^ (-n) := zpow_ten_le_zpow_two (by omega) (by omega)
  rw [zpow_neg, zpow_neg] at hinv
  exact (inv_le_inv₀ (by positivity) (by positivity)).mp hinv

/-! ## Quotients -/

theorem cast_ten_pow {e : ℤ} (he : 0 ≤ e) : ((Nat.pow 10 e.toNat : ℕ) : ℝ) = 10 ^ e := by
  rw [Nat.pow_eq, Nat.cast_pow, Nat.cast_ofNat, ← zpow_natCast, Int.toNat_of_nonneg he]

theorem quotient_den_pos (m : ℕ) (e : ℤ) : 0 < (quotient m e).2 := by
  have hone := one_pos
  unfold quotient
  generalize one = u at hone
  split
  · exact Nat.mul_pos hone (Nat.pow_pos (by decide))
  · exact hone

/-- A quotient is the number counted in a power of ten. -/
theorem cast_quotient (m : ℕ) (e : ℤ) :
    ((quotient m e).1 : ℝ) / (quotient m e).2 = m / (one : ℕ) / 10 ^ e := by
  unfold quotient
  split
  case isTrue he => rw [Nat.cast_mul, cast_ten_pow he, div_div]
  case isFalse he =>
    rw [Nat.cast_mul, cast_ten_pow (by omega), zpow_neg, mul_div_right_comm,
      div_eq_mul_inv _ (10 ^ e)]

theorem powerLe_iff {m : ℕ} (hm : 0 < m) (e : ℤ) :
    powerLe e m = true ↔ e ≤ Int.log 10 ((m : ℝ) / (one : ℕ)) := by
  have hpos : (0 : ℝ) < m / (one : ℕ) := div_pos (Nat.cast_pos.mpr hm) cast_one_pos
  have hden : (0 : ℝ) < (quotient m e).2 := Nat.cast_pos.mpr (quotient_den_pos m e)
  have hle : powerLe e m = decide ((quotient m e).2 ≤ (quotient m e).1) := rfl
  rw [hle, decide_eq_true_iff, ← Int.zpow_le_iff_le_log (by decide) hpos, ← Nat.cast_le (α := ℝ),
    ← one_le_div hden, cast_quotient, one_le_div (by positivity), Nat.cast_ofNat]

/-! ## The exponent -/

/-- The exponent of a number of units among the powers of two. -/
theorem units_bounds {m : ℕ} (hm : 0 < m) :
    (2 : ℝ) ^ ((m.log2 : ℤ) - 1074) ≤ m / (one : ℕ) ∧
      (m : ℝ) / (one : ℕ) < 2 ^ ((m.log2 : ℤ) - 1074 + 1) := by
  have hone : ((one : ℕ) : ℝ) = 2 ^ (1074 : ℤ) := by
    obtain ⟨k, hk, hone⟩ := exists_one_eq
    rw [hone, cast_two_pow, ← zpow_natCast, hk, Nat.cast_ofNat]
  have hlow : ((2 ^ m.log2 : ℕ) : ℝ) ≤ m := Nat.cast_le.mpr (Nat.log2_self_le (by omega))
  have hhigh : (m : ℝ) < ((2 ^ (m.log2 + 1) : ℕ) : ℝ) := Nat.cast_lt.mpr Nat.lt_log2_self
  have htwo : (2 : ℝ) ≠ 0 := by norm_num
  rw [hone, le_div_iff₀ (by positivity), div_lt_iff₀ (by positivity), ← zpow_add₀ htwo,
    ← zpow_add₀ htwo]
  push_cast at hlow hhigh
  constructor
  · rw [sub_add_cancel, zpow_natCast]
    exact hlow
  · rw [show (m.log2 : ℤ) - 1074 + 1 + 1074 = (m.log2 + 1 : ℕ) by push_cast; ring, zpow_natCast]
    exact hhigh

theorem exponent_eq {m : ℕ} (hm : 0 < m) (hlt : m < beyond) :
    exponent m = Int.log 10 ((m : ℝ) / (one : ℕ)) := by
  have hlog : m.log2 < 2098 := by
    obtain ⟨k, hk, hbeyond⟩ := exists_beyond_eq
    rw [hbeyond] at hlt
    have hbits : m.log2 < k := (Nat.log2_lt (Nat.ne_of_gt hm)).mpr hlt
    omega
  have hpos : (0 : ℝ) < m / (one : ℕ) := div_pos (Nat.cast_pos.mpr hm) cast_one_pos
  obtain ⟨hlow, hhigh⟩ := units_bounds hm
  have hbelow : ((m.log2 : ℤ) - 1074) * 30103 / 100000 - 1 ≤ Int.log 10 ((m : ℝ) / (one : ℕ)) := by
    rw [← Int.zpow_le_iff_le_log (by decide) hpos, Nat.cast_ofNat]
    exact (zpow_ten_le_zpow_two (by omega) (by omega)).trans hlow
  have habove : Int.log 10 ((m : ℝ) / (one : ℕ)) < ((m.log2 : ℤ) - 1074) * 30103 / 100000 + 2 := by
    rw [← Int.lt_zpow_iff_log_lt (by decide) hpos, Nat.cast_ofNat]
    exact hhigh.trans_le (zpow_two_le_zpow_ten (by omega) (by omega))
  simp only [exponent, Bool.not_eq_true', Bool.eq_false_iff, ne_eq, powerLe_iff hm]
  split
  · omega
  · split <;> omega

end Decimal
end Amend
