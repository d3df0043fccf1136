/-
Quotients as doubles, and doubles near whole numbers.  A rounded quotient is off by at most one
part in `2 ^ 53`, unless it is smaller than all doubles of full precision.  What a double is away
from the whole number nearest to it is a double again, so a subtraction finds it exactly.
-/
import Amend.Proofs.Binary64.Places

namespace Amend
namespace Binary64

/-! ## A rounded quotient -/

/-- A quotient of units, rounded to a multiple of its last place. -/
def nearestQuotient (num den : Nat) : Nat :=
  roundHalfEven num (den * Nat.pow 2 (lastPlace num den)) * Nat.pow 2 (lastPlace num den)

theorem roundHalfEven_error (num : Nat) {den : Nat} (hden : 0 < den) :
    ((roundHalfEven num den * den : Nat) - num : Int).natAbs * 2 ≤ den := by
  have hsplit := Nat.div_add_mod num den
  have hmod := Nat.mod_lt num hden
  rw [Nat.mul_comm den] at hsplit
  rw [roundHalfEven_eq]
  split
  · rw [Nat.add_mul, Nat.one_mul]
    omega
  · omega

theorem nearestQuotient_error {num den : Nat} (hden : 0 < den) (hlog : 52 ≤ (num / den).log2) :
    ((nearestQuotient num den * den : Nat) - num : Int).natAbs *
      0x20000000000000 ≤ num := by
  have hplace : lastPlace num den + 52 = (num / den).log2 := Nat.sub_add_cancel hlog
  have hne : num / den ≠ 0 := by
    intro hzero
    rw [hzero, Nat.log2_zero] at hlog
    omega
  have hle : Nat.pow 2 (lastPlace num den + 52) * den ≤ num := by
    refine (Nat.le_div_iff_mul_le hden).mp ?_
    rw [hplace]
    exact Nat.log2_self_le hne
  have herror := roundHalfEven_error num (Nat.mul_pos hden (two_pow_pos (lastPlace num den)))
  have hunfold : nearestQuotient num den * den =
      roundHalfEven num (den * Nat.pow 2 (lastPlace num den)) *
        (den * Nat.pow 2 (lastPlace num den)) := by
    rw [nearestQuotient, Nat.mul_assoc, Nat.mul_comm den]
  have hbits : Nat.pow 2 (lastPlace num den + 52) * den =
      den * Nat.pow 2 (lastPlace num den) * 0x10000000000000 := by
    rw [Nat.add_comm, two_pow_add, Nat.mul_comm den, Nat.mul_right_comm]
  rw [hunfold]
  omega

/-- A quotient with no bits to lose is off by half a unit. -/
theorem nearestQuotient_error_unit {num den : Nat} (hden : 0 < den)
    (hlog : (num / den).log2 ≤ 52) :
    ((nearestQuotient num den * den : Nat) - num : Int).natAbs * 2 ≤ den := by
  have hplace : lastPlace num den = 0 := Nat.sub_eq_zero_of_le hlog
  have hpow : Nat.pow 2 0 = 1 := rfl
  rw [nearestQuotient, hplace, hpow, Nat.mul_one, Nat.mul_one]
  exact roundHalfEven_error num hden

theorem ofRatio_eq_finite (neg : Bool) {num den : Nat} (hden : 0 < den) (hnum : num.log2 ≤ 1022) :
    ∃ x : Finite, ofRatio neg num den = .finite x ∧ x.neg = neg ∧
      x.magnitude = nearestQuotient (num * one) den := by
  obtain ⟨k, hk, hone⟩ := exists_one_eq
  refine round_eq_finite neg hden (Nat.le_trans (log2_mono (Nat.div_le_self _ _)) ?_)
  by_cases hzero : num = 0
  · rw [hzero, Nat.zero_mul, Nat.log2_zero]
    exact Nat.zero_le _
  · rw [hone, log2_mul_two_pow hzero]
    omega

/-- Rounding a quotient does not pass a double. -/
theorem nearestQuotient_le_magnitude {num den : Nat} {y : Finite} (hden : 0 < den)
    (h : num ≤ y.magnitude * den) : nearestQuotient num den ≤ y.magnitude := by
  have hplace : lastPlace num den ≤ y.shift := by
    have hlog : (num / den).log2 ≤ (y.magnitude / 1).log2 := by
      rw [Nat.div_one]
      exact log2_mono (Nat.div_le_of_le_mul (Nat.mul_comm _ _ ▸ h))
    rw [← y.lastPlace_magnitude]
    exact Nat.sub_le_sub_right hlog 52
  have hdvd : Nat.pow 2 (lastPlace num den) ∣ y.magnitude :=
    Nat.dvd_mul_left_of_dvd (Nat.pow_dvd_pow 2 hplace) y.mant
  obtain ⟨whole, hwhole⟩ := hdvd
  rw [hwhole, Nat.mul_comm _ whole] at h ⊢
  refine Nat.mul_le_mul_right _ (roundHalfEven_le (Nat.mul_pos hden (two_pow_pos _)) ?_)
  rwa [Nat.mul_assoc, Nat.mul_comm _ den] at h

/-- A magnitude of at most 53 bits, but for zeros below them, is a double's. -/
theorem exists_magnitude {k s : Nat} (hk : k < 0x20000000000000) (hs : s ≤ 2044) :
    ∃ y : Finite, y.magnitude = k * Nat.pow 2 s := by
  have hlog : (k * Nat.pow 2 s / 1).log2 ≤ s + 52 := by
    rw [Nat.div_one]
    by_cases hzero : k = 0
    · rw [hzero, Nat.zero_mul, Nat.log2_zero]
      exact Nat.zero_le _
    · have hbits : k.log2 < 53 := (Nat.log2_lt hzero).mpr hk
      rw [log2_mul_two_pow hzero]
      omega
  have hplace : lastPlace (k * Nat.pow 2 s) 1 ≤ s := by
    unfold lastPlace
    omega
  have hdvd : Nat.pow 2 (lastPlace (k * Nat.pow 2 s) 1) ∣ k * Nat.pow 2 s :=
    Nat.dvd_mul_left_of_dvd (Nat.pow_dvd_pow 2 hplace) k
  obtain ⟨y, -, -, hy⟩ := round_eq_finite false Nat.one_pos (Nat.le_trans hlog (by omega))
  refine ⟨y, ?_⟩
  rw [hy, Nat.one_mul]
  generalize lastPlace (k * Nat.pow 2 s) 1 = p at hdvd
  obtain ⟨whole, hwhole⟩ := hdvd
  rw [hwhole, Nat.mul_comm (Nat.pow 2 p), roundHalfEven_mul whole (two_pow_pos p)]

/-! ## The nearest whole number -/

theorem two_pow_dvd_one {s : Nat} (h : s ≤ 1074) : Nat.pow 2 s ∣ one := by
  obtain ⟨k, hk, hone⟩ := exists_one_eq
  rw [hone]
  exact Nat.pow_dvd_pow 2 (by omega)

theorem one_dvd_two_pow {s : Nat} (h : 1074 ≤ s) : one ∣ Nat.pow 2 s := by
  obtain ⟨k, hk, hone⟩ := exists_one_eq
  rw [hone]
  exact Nat.pow_dvd_pow 2 (by omega)

/-- Different whole numbers are at least one apart. -/
theorem one_le_natAbs_mul {k : Int} (h : k ≠ 0) : one ≤ (k * one).natAbs := by
  rw [Int.natAbs_mul, Int.natAbs_natCast]
  exact Nat.le_mul_of_pos_left one (Int.natAbs_pos.mpr h)

namespace Finite

/-- The number of ones nearest to a magnitude, a half going up. -/
def ones (x : Finite) : Nat := (2 * x.magnitude + one) / (2 * one)

/-- How far a double is from the nearest whole number, in units. -/
def gap (x : Finite) : Nat := ((x.magnitude : Int) - x.ones * one).natAbs

theorem two_mul_gap_le (x : Finite) : x.gap * 2 ≤ one := by
  have hpos := one_pos
  unfold gap ones
  generalize one = u at hpos
  have hsplit := Nat.div_add_mod (2 * x.magnitude + u) (2 * u)
  have hmod := Nat.mod_lt (2 * x.magnitude + u) (Nat.mul_pos Nat.two_pos hpos)
  rw [Nat.mul_assoc, Nat.mul_comm u] at hsplit
  generalize (2 * x.magnitude + u) / (2 * u) = w at hsplit
  rw [← Int.natCast_mul]
  omega

/-- No whole number is nearer. -/
theorem gap_le (x : Finite) (k : Int) : x.gap ≤ (x.units - k * one).natAbs := by
  have hnearest : ∀ k : Int, x.gap ≤ ((x.magnitude : Int) - k * one).natAbs := by
    intro k
    have hhalf := x.two_mul_gap_le
    unfold gap at hhalf ⊢
    by_cases hk : k = x.ones
    · exact Nat.le_of_eq (congrArg (fun w : Int => ((x.magnitude : Int) - w * one).natAbs) hk.symm)
    · have hapart : one ≤ ((k - x.ones) * one).natAbs := one_le_natAbs_mul (by omega)
      rw [Int.sub_mul] at hapart
      generalize (one : Nat) = u at hhalf hapart ⊢
      omega
  unfold units
  split
  · have hneg := hnearest (-k)
    rw [Int.neg_mul] at hneg
    omega
  · exact hnearest k

theorem gap_le_magnitude (x : Finite) : x.gap ≤ x.magnitude := by
  have hzero := x.gap_le 0
  rwa [Int.zero_mul, Int.sub_zero, natAbs_units] at hzero

/-- From `2 ^ 52` ones on every double is a whole number of ones. -/
theorem ones_of_le_shift {x : Finite} (h : 1074 ≤ x.shift) : x.magnitude = x.ones * one := by
  have hpos := one_pos
  have hdvd : one ∣ x.magnitude := Nat.dvd_mul_left_of_dvd (one_dvd_two_pow h) x.mant
  unfold ones
  generalize one = u at hpos hdvd
  obtain ⟨whole, hwhole⟩ := hdvd
  have hodd : 2 * (u * whole) + u = u * (2 * whole + 1) := by
    rw [Nat.mul_add, Nat.mul_one, Nat.mul_left_comm]
  rw [hwhole, hodd, Nat.mul_comm 2 u, Nat.mul_div_mul_left _ _ hpos,
    show (2 * whole + 1) / 2 = whole by omega, Nat.mul_comm]

theorem magnitude_mul_two_le {x : Finite} (h : x.shift < 1074) :
    x.magnitude * 2 ≤ 0x20000000000000 * one := by
  obtain ⟨hmant, -, -⟩ := x.canonical
  have hpow : Nat.pow 2 x.shift * 2 ≤ one := Nat.le_of_dvd one_pos (two_pow_dvd_one h)
  unfold magnitude
  rw [Nat.mul_assoc]
  exact Nat.mul_le_mul (Nat.le_of_lt hmant) hpow

/-- Below `2 ^ 52` ones the nearest whole number has few bits. -/
theorem ones_lt {x : Finite} (h : x.shift < 1074) : x.ones < 0x20000000000000 := by
  have hpos := one_pos
  have hmagnitude := magnitude_mul_two_le h
  unfold ones
  generalize one = u at hpos hmagnitude
  refine (Nat.div_lt_iff_lt_mul (Nat.mul_pos Nat.two_pos hpos)).mpr ?_
  omega

theorem exists_ones (x : Finite) : ∃ y : Finite, y.magnitude = x.ones * one := by
  by_cases h : 1074 ≤ x.shift
  · exact ⟨x, ones_of_le_shift h⟩
  · obtain ⟨s, hs, hone⟩ := exists_one_eq
    rw [hone]
    exact exists_magnitude (ones_lt (Nat.not_le.mp h)) (by omega)

theorem exists_gap (x : Finite) : ∃ y : Finite, y.magnitude = x.gap := by
  by_cases h : 1074 ≤ x.shift
  · refine ⟨zero, ?_⟩
    rw [gap, ones_of_le_shift h, Int.natCast_mul, Int.sub_self]
    rfl
  · obtain ⟨hmant, -, -⟩ := x.canonical
    have hpow := two_pow_pos x.shift
    have hdvd : Nat.pow 2 x.shift ∣ x.gap := by
      have hone : (Nat.pow 2 x.shift : Int) ∣ one :=
        Int.natCast_dvd_natCast.mpr (two_pow_dvd_one (by omega))
      have hmagnitude : (Nat.pow 2 x.shift : Int) ∣ x.magnitude :=
        Int.natCast_dvd_natCast.mpr (Nat.dvd_mul_left _ _)
      exact Int.ofNat_dvd_left.mp (Int.dvd_sub hmagnitude (Int.dvd_mul_of_dvd_right hone))
    obtain ⟨k, hk⟩ := hdvd
    rw [Nat.mul_comm] at hk
    have hle : k ≤ x.mant := by
      have hgap := x.gap_le_magnitude
      rw [hk] at hgap
      exact Nat.le_of_mul_le_mul_right hgap hpow
    rw [hk]
    exact exists_magnitude (Nat.lt_of_le_of_lt hle hmant) (by omega)

/-- The whole number nearest to a double is a double, and so is what is between the two. -/
theorem sub_nearest (x : Finite) :
    ∃ z : Finite, (Binary64.finite x).sub (Binary64.nearest (.finite x)) = .finite z ∧
      z.magnitude = x.gap := by
  obtain ⟨y, hy⟩ := x.exists_ones
  obtain ⟨z, hz⟩ := x.exists_gap
  have hnearest : Binary64.nearest (.finite x) = .finite { y with neg := x.neg } := by
    show ofRatio x.neg x.ones 1 = _
    rw [ofRatio, ← hy, round_magnitude]
  have hunits : (negate { y with neg := x.neg }).units =
      if x.neg then (y.magnitude : Int) else -(y.magnitude : Int) := by
    cases hneg : x.neg <;> rfl
  have hsum : (x.units + (negate { y with neg := x.neg }).units).natAbs = z.magnitude := by
    rw [hunits, hz, gap, ← Int.natCast_mul, ← hy]
    unfold units
    split <;> omega
  rw [hnearest]
  show ∃ z : Finite, add (.finite x) (.finite (negate { y with neg := x.neg })) = _ ∧ _
  unfold add
  simp only
  split
  · next hzero =>
    rw [hzero] at hsum
    rw [show (0 : Nat) = z.magnitude from hsum, round_magnitude]
    exact ⟨_, rfl, hz⟩
  · rw [hsum, round_magnitude]
    exact ⟨_, rfl, hz⟩

end Finite

/-- A double less than a billionth away from a whole number. -/
def NearWhole (d : Binary64) : Prop :=
  ∃ (x : Finite) (k : Int), d = .finite x ∧ (x.units - k * one).natAbs * 1000000000 < one

theorem nearWhole_finite_iff {x : Finite} :
    NearWhole (.finite x) ↔ x.gap * 1000000000 < one := by
  constructor
  · rintro ⟨_, k, heq, hk⟩
    obtain rfl := finite.inj heq
    exact Nat.lt_of_le_of_lt (Nat.mul_le_mul_right _ (x.gap_le k)) hk
  · intro h
    refine ⟨x, if x.neg then -x.ones else x.ones, rfl, ?_⟩
    have hgap : (x.units - (if x.neg then -(x.ones : Int) else x.ones) * one).natAbs = x.gap := by
      unfold Finite.units Finite.gap
      split
      · rw [Int.neg_mul]
        omega
      · rfl
    rwa [hgap]

end Binary64
end Amend
