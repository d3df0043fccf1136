/-
Rounding to whole numbers, and how far rounding stays finite.  Cutting off, rounding down, up and
to the nearest whole number all stay less than one away from a double, so they leave a whole number
alone, and the whole number they give is a double.  A number of units rounds to a finite double if
it is less than half a last place beyond the greatest of them.
-/
import Amend.Proofs.Binary64.Quotient

namespace Amend
namespace Binary64

/-! ## Whole numbers -/

/-- A whole number of ones that is less than one away from every magnitude. -/
def Near (whole : Finite → Nat) : Prop :=
  ∀ x : Finite, x.magnitude < whole x * one + one ∧ whole x * one < x.magnitude + one

theorem near_of_div {whole : Finite → Nat}
    (h : ∀ x : Finite, whole x = x.magnitude / one ∨
      whole x = (x.magnitude + (one - 1)) / one ∨
      whole x = (2 * x.magnitude + one) / (2 * one)) : Near whole := by
  intro x
  have hpos := one_pos
  have hx := h x
  generalize one = u at hpos hx ⊢
  generalize x.magnitude = m at hx ⊢
  rcases hx with hx | hx | hx <;> rw [hx]
  · have hsplit := Nat.div_add_mod m u
    have hmod := Nat.mod_lt m hpos
    rw [Nat.mul_comm] at hsplit
    omega
  · have hsplit := Nat.div_add_mod (m + (u - 1)) u
    have hmod := Nat.mod_lt (m + (u - 1)) hpos
    rw [Nat.mul_comm] at hsplit
    omega
  · have hsplit := Nat.div_add_mod (2 * m + u) (2 * u)
    have hmod := Nat.mod_lt (2 * m + u) (Nat.mul_pos Nat.two_pos hpos)
    rw [Nat.mul_assoc, Nat.mul_comm u] at hsplit
    omega

variable {whole : Finite → Nat} {x : Finite}

theorem Near.eq_of_magnitude (hwhole : Near whole) {k : Nat} (h : x.magnitude = k * one) :
    whole x = k := by
  obtain ⟨hlow, hhigh⟩ := hwhole x
  rw [h, ← Nat.succ_mul] at hlow hhigh
  have hlow := Nat.lt_of_mul_lt_mul_right hlow
  have hhigh := Nat.lt_of_mul_lt_mul_right hhigh
  omega

/-- A function that rounds a double to a whole number less than one away. -/
def ToWhole (f : Binary64 → Binary64) : Prop := ∃ whole, Near whole ∧ f = integralBy whole

theorem toWhole_floor : ToWhole floor := by
  refine ⟨_, near_of_div fun x => ?_, rfl⟩
  by_cases hneg : x.neg = true
  · exact .inr (.inl (if_pos hneg))
  · exact .inl (if_neg hneg)

theorem toWhole_ceil : ToWhole ceil := by
  refine ⟨_, near_of_div fun x => ?_, rfl⟩
  by_cases hneg : x.neg = true
  · exact .inl (if_pos hneg)
  · exact .inr (.inl (if_neg hneg))

theorem toWhole_trunc : ToWhole trunc := ⟨_, near_of_div fun _ => .inl rfl, rfl⟩

theorem toWhole_nearest : ToWhole nearest := ⟨_, near_of_div fun _ => .inr (.inr rfl), rfl⟩

variable {f : Binary64 → Binary64}

/-- Whole numbers stay what they are. -/
theorem ToWhole.of_magnitude (hf : ToWhole f) {k : Nat} (h : x.magnitude = k * one) :
    f (.finite x) = .finite x := by
  obtain ⟨whole, hwhole, rfl⟩ := hf
  show ofRatio x.neg (whole x) 1 = _
  rw [ofRatio, hwhole.eq_of_magnitude h, ← h, Finite.round_magnitude]

theorem ToWhole.exists_finite (hf : ToWhole f) (x : Finite) : ∃ y, f (.finite x) = .finite y := by
  by_cases h : 1074 ≤ x.shift
  · exact ⟨x, hf.of_magnitude (Finite.ones_of_le_shift h)⟩
  · obtain ⟨whole, hwhole, rfl⟩ := hf
    have hmagnitude := Finite.magnitude_mul_two_le (Nat.not_le.mp h)
    have hhigh := (hwhole x).2
    have hsmall : whole x * one < 0x10000000000001 * one := by omega
    have hlt : whole x < 0x10000000000001 := Nat.lt_of_mul_lt_mul_right hsmall
    have hlog : (whole x).log2 ≤ 1022 :=
      Nat.le_trans (log2_mono (n := 0x10000000000001) (Nat.le_of_lt hlt)) (by decide)
    obtain ⟨y, hy, -, -⟩ := ofRatio_eq_finite x.neg Nat.one_pos hlog
    exact ⟨y, hy⟩

/-! ## The greatest finite doubles -/

/-- The least number of units that rounds beyond all finite doubles. -/
def overflow : Nat := 0x3FFFFFFFFFFFFF * Nat.pow 2 2044

/-- The exponent of `overflow`, apart from its power, which is too large to be evaluated. -/
theorem exists_overflow_eq : ∃ k, k = 2044 ∧ overflow = 0x3FFFFFFFFFFFFF * Nat.pow 2 k := by
  unfold overflow
  generalize 2044 = k
  exact ⟨k, rfl, rfl⟩

theorem roundHalfEven_le_of_lt {num bound den : Nat} (h : 2 * num < (2 * bound + 1) * den) :
    roundHalfEven num den ≤ bound := by
  have hden : 0 < den := Nat.pos_of_ne_zero fun hzero => by simp [hzero] at h
  have herror := roundHalfEven_error num hden
  have hlt : roundHalfEven num den * den < (bound + 1) * den := by
    rw [Nat.add_mul, Nat.mul_assoc] at h
    rw [Nat.add_mul]
    omega
  exact Nat.lt_succ_iff.mp (Nat.lt_of_mul_lt_mul_right hlt)

theorem nearestWhole_overflow : nearestWhole overflow = beyond := by
  obtain ⟨k, hk, hover⟩ := exists_overflow_eq
  obtain ⟨j, hj, hbeyond⟩ := exists_beyond_eq
  have hlog : overflow.log2 = 53 + k := by
    rw [hover, log2_mul_two_pow (by decide)]
    rfl
  have hspacing : spacing overflow = 2 * Nat.pow 2 k := by
    rw [spacing, hlog, show 53 + k - 52 = k + 1 by omega]
    exact Nat.mul_comm _ _
  have htie : roundHalfEven 0x3FFFFFFFFFFFFF 2 = Nat.pow 2 53 := by decide
  rw [nearestWhole, hspacing, hover, roundHalfEven_scale _ _ (two_pow_pos k), htie, hbeyond,
    show j = k + 1 + 53 by omega, two_pow_add (k + 1), two_pow_add k]

/-- The last place of the greatest binade is two `k`th powers, of which fewer than all fit in. -/
theorem nearestWhole_lt_beyond_iff {m : Nat} : nearestWhole m < beyond ↔ m < overflow := by
  obtain ⟨k, hk, hover⟩ := exists_overflow_eq
  obtain ⟨j, hj, hbeyond⟩ := exists_beyond_eq
  have htop : beyond = 0x20000000000000 * (Nat.pow 2 k * 2) := by
    rw [hbeyond, show j = k + 1 + 53 by omega, two_pow_add (k + 1)]
    rfl
  constructor
  · refine fun hlt => Nat.not_le.mp fun hle => Nat.not_le.mpr hlt ?_
    rw [← nearestWhole_overflow]
    exact nearestWhole_mono hle
  · intro hlt
    by_cases hlow : m.log2 + 1 < j
    · have hle : nearestWhole m ≤ Nat.pow 2 (m.log2 + 1) :=
        nearestWhole_le (Nat.pow_dvd_pow 2 (by omega)) (Nat.le_of_lt Nat.lt_log2_self)
      rw [hbeyond]
      exact Nat.lt_of_le_of_lt hle (Nat.pow_lt_pow_right (by decide) hlow)
    · have hlog : m.log2 < j := by
        have hzero : m ≠ 0 := by
          rintro rfl
          rw [Nat.log2_zero] at hlow
          omega
        refine (Nat.log2_lt hzero).mpr ?_
        show m < Nat.pow 2 j
        rw [← hbeyond]
        omega
      have hspacing : spacing m = Nat.pow 2 k * 2 := by
        rw [spacing, show m.log2 - 52 = k + 1 by omega]
        rfl
      have hrounded : roundHalfEven m (Nat.pow 2 k * 2) ≤ 0x1FFFFFFFFFFFFF :=
        roundHalfEven_le_of_lt (by omega)
      rw [nearestWhole, hspacing, htop]
      exact Nat.mul_lt_mul_of_pos_right (by omega) (by have := two_pow_pos k; omega)

theorem natAbs_signed (neg : Bool) (n : Nat) : (signed neg n).natAbs = n := by
  unfold signed
  split
  · rw [Int.natAbs_neg, Int.natAbs_natCast]
  · rw [Int.natAbs_natCast]

theorem beyond_pos : 0 < beyond := by
  obtain ⟨j, -, hbeyond⟩ := exists_beyond_eq
  rw [hbeyond]
  exact two_pow_pos j

variable {d : Binary64}

theorem exists_finite_of_position {u : Int} (h : d.position = some u) (hu : u.natAbs < beyond) :
    ∃ y, d = .finite y := by
  cases d with
  | nan => nomatch h
  | finite y => exact ⟨y, rfl⟩
  | infinite neg =>
    rw [position_infinite] at h
    rw [← Option.some.inj h, natAbs_signed] at hu
    exact absurd hu (Nat.lt_irrefl _)

theorem eq_infinite_of_position {neg : Bool} (h : d.position = some (signed neg beyond)) :
    d = .infinite neg := by
  have hpos := beyond_pos
  cases d with
  | nan => nomatch h
  | finite x =>
    have hunits : x.units = signed neg beyond := Option.some.inj h
    have hmagnitude : x.magnitude = beyond := by
      rw [← x.natAbs_units, hunits, natAbs_signed]
    exact absurd (magnitude_lt_beyond x) (by rw [hmagnitude]; exact Nat.lt_irrefl _)
  | infinite neg' =>
    rw [position_infinite] at h
    have hsigned := Option.some.inj h
    unfold signed at hsigned
    cases neg <;> cases neg' <;>
      simp only [Bool.false_eq_true, if_false, if_true] at hsigned ⊢ <;> omega

theorem round_finite (neg : Bool) {m : Nat} (h : m < overflow) :
    ∃ y, round neg m 1 = .finite y := by
  have hlt := nearestWhole_lt_beyond_iff.mpr h
  refine exists_finite_of_position (position_round neg m) ?_
  rwa [natAbs_signed, Nat.min_eq_left (Nat.le_of_lt hlt)]

theorem round_infinite (neg : Bool) {m : Nat} (h : overflow ≤ m) :
    round neg m 1 = .infinite neg := by
  have hle := Nat.not_lt.mp (mt nearestWhole_lt_beyond_iff.mp (Nat.not_lt.mpr h))
  have hposition := position_round neg m
  rw [Nat.min_eq_right hle] at hposition
  exact eq_infinite_of_position hposition

end Binary64
end Amend
