/-
The values of doubles among the real numbers.  A rounded quotient is off by at most one part in
`2 ^ 53` of it, so the double nearest to an integer or to a fraction, and the quotient of two
doubles, are the real numbers up to that part, unless they are smaller than all doubles of full
precision.
-/
import Amend.Proofs.Binary64.Quotient
import Mathlib.Data.Real.Basic
import Mathlib.Tactic.FieldSimp
import Mathlib.Tactic.Linarith
import Mathlib.Tactic.NormNum
import Mathlib.Tactic.Positivity
import Mathlib.Tactic.Ring

namespace Amend
namespace Binary64

theorem cast_two_pow (k : ℕ) : ((Nat.pow 2 k : ℕ) : ℝ) = 2 ^ k := by
  rw [Nat.pow_eq, Nat.cast_pow, Nat.cast_ofNat]

theorem cast_one_pos : (0 : ℝ) < (one : ℕ) := Nat.cast_pos.mpr one_pos

theorem one_div_one_le {s : ℕ} (hs : s ≤ 1074) : 1 / ((one : ℕ) : ℝ) ≤ 1 / 2 ^ s := by
  refine one_div_le_one_div_of_le (by positivity) ?_
  rw [← cast_two_pow]
  exact Nat.cast_le.mpr (Nat.le_of_dvd one_pos (two_pow_dvd_one hs))

theorem abs_sign_mul (neg : Bool) (a : ℝ) : |(if neg then -1 else 1) * a| = |a| := by
  cases neg with
  | true => rw [if_pos rfl, neg_one_mul, abs_neg]
  | false => rw [if_neg Bool.false_ne_true, one_mul]

namespace Finite

/-- The value of a finite double. -/
noncomputable def real (x : Finite) : ℝ := x.units / (one : ℕ)

variable {x : Finite}

theorem real_eq (h : x.neg = false) : x.real = x.magnitude / (one : ℕ) := by
  rw [real, units, if_neg (by rw [h]; exact Bool.false_ne_true), Int.cast_natCast]

theorem neg_of_real_pos (h : 0 < x.real) : x.neg = false := by
  refine Bool.eq_false_iff.mpr fun hneg => not_le.mpr h ?_
  rw [real, units, if_pos hneg]
  refine div_nonpos_of_nonpos_of_nonneg ?_ cast_one_pos.le
  push_cast
  exact neg_nonpos.mpr (Nat.cast_nonneg _)

theorem abs_real_sub (x : Finite) (k : ℤ) :
    |x.real - k| = ((x.units - k * (one : ℕ)).natAbs : ℕ) / (one : ℕ) := by
  have hone := cast_one_pos
  rw [Nat.cast_natAbs, Int.cast_abs, real]
  push_cast
  rw [← abs_of_pos hone, ← abs_div, abs_of_pos hone, sub_div, mul_div_cancel_right₀ _ hone.ne']

theorem abs_real (x : Finite) : |x.real| = x.magnitude / (one : ℕ) := by
  have habs := x.abs_real_sub 0
  rwa [Int.cast_zero, sub_zero, Int.zero_mul, Int.sub_zero, natAbs_units] at habs

theorem real_eq_sign_mul (x : Finite) : x.real = (if x.neg then -1 else 1) * |x.real| := by
  rw [abs_real, real, units]
  cases x.neg with
  | true => rw [if_pos rfl, if_pos rfl, Int.cast_neg, Int.cast_natCast, neg_one_mul, neg_div]
  | false => rw [if_neg Bool.false_ne_true, if_neg Bool.false_ne_true, Int.cast_natCast, one_mul]

/-- A double and a number of its sign are as far apart as their sizes. -/
theorem abs_real_sub_of_sign {r : ℝ} (hr : r = (if x.neg then -1 else 1) * |r|) :
    |x.real - r| = |(x.magnitude / (one : ℕ) - |r| : ℝ)| := by
  calc |x.real - r| = |(if x.neg then -1 else 1) * (|x.real| - |r|)| := by
        rw [mul_sub, ← x.real_eq_sign_mul, ← hr]
    _ = |(x.magnitude / (one : ℕ) - |r| : ℝ)| := by rw [abs_sign_mul, abs_real]

/-- One unit in the last place. -/
noncomputable def lastUnit (x : Finite) : ℝ := (Nat.pow 2 x.shift : ℕ) / (one : ℕ)

/-- A unit in the last place is one part in `2 ^ 52` at most, or the smallest double. -/
theorem lastUnit_le (x : Finite) : x.lastUnit ≤ |x.real| / 2 ^ 52 + 1 / (one : ℕ) := by
  have hone := cast_one_pos
  rw [lastUnit, abs_real, magnitude, Nat.cast_mul, cast_two_pow x.shift]
  generalize ((one : ℕ) : ℝ) = u at hone
  rw [div_right_comm, ← add_div]
  refine div_le_div_of_nonneg_right ?_ hone.le
  obtain ⟨-, -, hfull | hzero⟩ := x.canonical
  · have hmant : (2 : ℝ) ^ 52 ≤ x.mant := by
      rw [show (2 : ℝ) ^ 52 = (0x10000000000000 : ℕ) by norm_num]
      exact Nat.cast_le.mpr hfull
    have hle : (2 : ℝ) ^ x.shift ≤ x.mant * 2 ^ x.shift / 2 ^ 52 := by
      rw [le_div_iff₀ (by positivity), mul_comm]
      gcongr
    exact hle.trans (le_add_of_nonneg_right zero_le_one)
  · rw [hzero, pow_zero]
    exact le_add_of_nonneg_left (by positivity)

end Finite

theorem nearWhole_iff_real {x : Finite} :
    NearWhole (.finite x) ↔ ∃ k : ℤ, |x.real - k| < 1 / 10 ^ 9 := by
  have hunits : ∀ k : ℤ, |x.real - k| < 1 / 10 ^ 9 ↔
      (x.units - k * one).natAbs * 1000000000 < one := by
    intro k
    rw [Finite.abs_real_sub, div_lt_div_iff₀ cast_one_pos (by norm_num), one_mul]
    norm_cast
  simp only [hunits]
  constructor
  · rintro ⟨_, k, heq, hk⟩
    obtain rfl := finite.inj heq
    exact ⟨k, hk⟩
  · rintro ⟨k, hk⟩
    exact ⟨x, k, rfl, hk⟩

/-! ## Rounded quotients -/

theorem cast_natAbs_sub_mul_le {a b k c : ℕ} (h : ((a : ℤ) - b).natAbs * k ≤ c) :
    |(a : ℝ) - b| * k ≤ c := by
  have hreal : ((((a : ℤ) - b).natAbs * k : ℕ) : ℝ) ≤ c := Nat.cast_le.mpr h
  rwa [Nat.cast_mul, Nat.cast_natAbs, Int.cast_abs, Int.cast_sub, Int.cast_natCast,
    Int.cast_natCast] at hreal

section

variable {num den : ℕ}

theorem abs_nearestQuotient_sub (hden : 0 < den) :
    |(nearestQuotient num den : ℝ) - num / den| =
      |((nearestQuotient num den * den : ℕ) : ℝ) - num| / den := by
  have hden' : (0 : ℝ) < den := Nat.cast_pos.mpr hden
  rw [← abs_of_pos hden', ← abs_div, abs_of_pos hden', sub_div, Nat.cast_mul,
    mul_div_cancel_right₀ _ hden'.ne']

theorem cast_nearestQuotient_error (hden : 0 < den) (h : num = 0 ∨ 52 ≤ (num / den).log2) :
    |(nearestQuotient num den : ℝ) - num / den| ≤ num / den / 2 ^ 53 := by
  have herror :
      ((nearestQuotient num den * den : ℕ) - num : ℤ).natAbs * 0x20000000000000 ≤ num := by
    rcases h with rfl | hlog
    · have hzero : nearestQuotient 0 den ≤ Finite.zero.magnitude :=
        nearestQuotient_le_magnitude hden (Nat.zero_le _)
      have hmagnitude : Finite.zero.magnitude = 0 := rfl
      rw [hmagnitude, Nat.le_zero] at hzero
      rw [hzero, Nat.zero_mul]
      rfl
    · exact nearestQuotient_error hden hlog
  have hcast := cast_natAbs_sub_mul_le herror
  have hparts : ((0x20000000000000 : ℕ) : ℝ) = 2 ^ 53 := by norm_num
  rw [hparts] at hcast
  rw [abs_nearestQuotient_sub hden, div_right_comm]
  refine div_le_div_of_nonneg_right ?_ (Nat.cast_nonneg den)
  rwa [le_div_iff₀ (by positivity)]

theorem cast_nearestQuotient_error_unit (hden : 0 < den) (hlog : (num / den).log2 ≤ 52) :
    |(nearestQuotient num den : ℝ) - num / den| ≤ 1 := by
  have hcast := cast_natAbs_sub_mul_le (nearestQuotient_error_unit hden hlog)
  rw [abs_nearestQuotient_sub hden, div_le_one (Nat.cast_pos.mpr hden)]
  refine le_trans (le_mul_of_one_le_right (abs_nonneg _) ?_) hcast
  norm_num

variable {x : Finite}

/-- The same in ones, for a quotient of ones. -/
theorem abs_magnitude_sub (hmagnitude : x.magnitude = nearestQuotient (num * one) den) :
    |(x.magnitude : ℝ) / (one : ℕ) - num / den| =
      |(nearestQuotient (num * one) den : ℝ) - (num * one : ℕ) / den| / (one : ℕ) := by
  have hone := cast_one_pos
  rw [hmagnitude, ← abs_of_pos hone, ← abs_div, abs_of_pos hone, sub_div, Nat.cast_mul num,
    div_right_comm, mul_div_cancel_right₀ _ hone.ne']

theorem cast_magnitude_error (hden : 0 < den)
    (hbits : num * one = 0 ∨ 52 ≤ (num * one / den).log2)
    (hmagnitude : x.magnitude = nearestQuotient (num * one) den) :
    |(x.magnitude : ℝ) / (one : ℕ) - num / den| ≤ num / den / 2 ^ 53 := by
  have hone := cast_one_pos
  have herror := cast_nearestQuotient_error hden hbits
  rw [Nat.cast_mul, mul_div_right_comm, mul_div_right_comm] at herror
  rwa [abs_magnitude_sub hmagnitude, div_le_iff₀ hone, Nat.cast_mul, mul_div_right_comm]

/-- A quotient of any size is off by the smallest double besides. -/
theorem cast_magnitude_error_add (hden : 0 < den)
    (hmagnitude : x.magnitude = nearestQuotient (num * one) den) :
    |(x.magnitude : ℝ) / (one : ℕ) - num / den| ≤ num / den / 2 ^ 53 + 1 / (one : ℕ) := by
  have hpart : (0 : ℝ) ≤ num / den / 2 ^ 53 := by positivity
  have hone := cast_one_pos
  by_cases hbits : 52 ≤ (num * one / den).log2
  · have herror := cast_magnitude_error hden (.inr hbits) hmagnitude
    exact herror.trans (le_add_of_nonneg_right (one_div_pos.mpr hone).le)
  · have herror := cast_nearestQuotient_error_unit hden (Nat.le_of_not_ge hbits)
    rw [abs_magnitude_sub hmagnitude]
    exact (div_le_div_of_nonneg_right herror hone.le).trans (le_add_of_nonneg_left hpart)

end

/-- The double nearest to an integer of binary fractions is that number up to one part in
`2 ^ 53`. -/
theorem exists_ofRatio (v : ℤ) {s : ℕ} (hs : s + 52 ≤ 1074) (hlog : v.natAbs.log2 ≤ 1022) :
    ∃ x : Finite, ofRatio (decide (v < 0)) v.natAbs (Nat.pow 2 s) = .finite x ∧
      |x.real - v / 2 ^ s| ≤ |(v : ℝ) / 2 ^ s| / 2 ^ 53 := by
  have hden := two_pow_pos s
  have hfull : Nat.pow 2 s * 2 ^ 52 ≤ one := by
    have hle := Nat.le_of_dvd one_pos (two_pow_dvd_one hs)
    rw [Nat.add_comm, two_pow_add] at hle
    exact hle
  have hcast := cast_two_pow s
  rw [← hcast]
  generalize Nat.pow 2 s = den at *
  have hden' : (0 : ℝ) < den := Nat.cast_pos.mpr hden
  obtain ⟨x, hx, hneg, hmagnitude⟩ := ofRatio_eq_finite (decide (v < 0)) hden hlog
  have hbits : v.natAbs * one = 0 ∨ 52 ≤ (v.natAbs * one / den).log2 := by
    by_cases hzero : v.natAbs = 0
    · exact .inl (by rw [hzero, Nat.zero_mul])
    · have hle : 2 ^ 52 ≤ v.natAbs * one / den := by
        refine (Nat.le_div_iff_mul_le hden).mpr ?_
        rw [Nat.mul_comm]
        exact hfull.trans (Nat.le_mul_of_pos_left one (by omega))
      exact .inr ((Nat.le_log2 (by omega)).mpr hle)
  have herror := cast_magnitude_error hden hbits hmagnitude
  rw [Nat.cast_natAbs, Int.cast_abs] at herror
  have hsign : (v : ℝ) / den = (if x.neg then -1 else 1) * |(v : ℝ) / den| := by
    rw [hneg, abs_div, abs_of_pos hden', ← mul_div_assoc]
    by_cases hv : v < 0
    · rw [if_pos (decide_eq_true hv), abs_of_neg (Int.cast_lt_zero.mpr hv), neg_one_mul, neg_neg]
    · rw [if_neg (ne_true_of_eq_false (decide_eq_false hv)),
        abs_of_nonneg (Int.cast_nonneg (not_lt.mp hv)), one_mul]
  refine ⟨x, hx, ?_⟩
  rwa [Finite.abs_real_sub_of_sign hsign, abs_div, abs_of_pos hden']

/-! ## Integers and quotients -/

/-- The double nearest to an integer is off by at most one part in `2 ^ 53`. -/
theorem exists_ofInt {n : ℤ} (hlog : n.natAbs.log2 ≤ 1022) :
    ∃ x : Finite, ofInt n = .finite x ∧ |x.real - n| ≤ |(n : ℝ)| / 2 ^ 53 := by
  obtain ⟨x, hx, herror⟩ := exists_ofRatio n (s := 0) (by norm_num) hlog
  rw [pow_zero, div_one] at herror
  exact ⟨x, hx, herror⟩

theorem log2_quotient_le {a b : ℕ} (h : a ≤ b * 2 ^ 100) : (a * one / b).log2 ≤ 2096 := by
  have hge : a * one / b ≤ one * Nat.pow 2 100 := by
    refine Nat.div_le_of_le_mul ?_
    calc a * one ≤ b * 2 ^ 100 * one := Nat.mul_le_mul_right _ h
      _ = b * (one * Nat.pow 2 100) := by rw [Nat.pow_eq]; ring
  have htop : (one * Nat.pow 2 100).log2 = 1074 + 100 := by
    obtain ⟨k, hk, hone⟩ := exists_one_eq
    rw [log2_mul_two_pow one_pos.ne', hone, ← hk]
    exact congrArg (· + 100) Nat.log2_two_pow
  have hlog := log2_mono hge
  rw [htop] at hlog
  exact hlog.trans (by norm_num)

namespace Finite

theorem real_eq_zero_iff {x : Finite} : x.real = 0 ↔ x.magnitude = 0 := by
  rw [real, div_eq_zero_iff, or_iff_left cast_one_pos.ne', Int.cast_eq_zero, ← natAbs_units,
    Int.natAbs_eq_zero]

theorem not_isZero_of_real_pos {x : Finite} (h : 0 < x.real) : x.isZero ≠ true := by
  intro hzero
  refine h.ne' (real_eq_zero_iff.mpr ?_)
  rw [magnitude, eq_of_beq hzero, Nat.zero_mul]

end Finite

/-- A quotient of two doubles is off by at most one part in `2 ^ 53` and the smallest double,
unless it is very large. -/
theorem exists_div {a b : Finite} (hb : 0 < b.real) (ha : |a.real| ≤ b.real * 2 ^ 100) :
    ∃ q : Finite, (Binary64.finite a).div (.finite b) = .finite q ∧
      |q.real - a.real / b.real| ≤ |a.real| / b.real / 2 ^ 53 + 1 / (one : ℕ) := by
  have hone := cast_one_pos
  have hnegb := Finite.neg_of_real_pos hb
  have hdiv :
      (Binary64.finite a).div (.finite b) = round a.neg (a.magnitude * one) b.magnitude := by
    simp only [div, if_neg (Finite.not_isZero_of_real_pos hb)]
    rw [hnegb, Bool.bne_false]
  rw [hdiv]
  have hreal := Finite.real_eq hnegb
  rw [Finite.abs_real, hreal, div_mul_eq_mul_div, div_le_div_iff_of_pos_right hone] at ha
  have hbpos : 0 < b.magnitude := by
    rw [hreal] at hb
    exact_mod_cast (div_pos_iff_of_pos_right hone).mp hb
  have hbits := log2_quotient_le (by exact_mod_cast ha : a.magnitude ≤ b.magnitude * 2 ^ 100)
  obtain ⟨q, hq, hneg, hmagnitude⟩ := round_eq_finite a.neg hbpos hbits
  have hsign : a.real / b.real = (if q.neg then -1 else 1) * |a.real / b.real| := by
    rw [hneg, abs_div, abs_of_pos hb, ← mul_div_assoc, ← a.real_eq_sign_mul]
  refine ⟨q, hq, ?_⟩
  rw [Finite.abs_real_sub_of_sign hsign, abs_div, abs_of_pos hb, Finite.abs_real, hreal,
    div_div_div_cancel_right₀ hone.ne']
  exact cast_magnitude_error_add hbpos hmagnitude

end Binary64
end Amend
