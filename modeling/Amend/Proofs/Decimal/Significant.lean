/-
A number of significant digits.  Rounding in the place of the last digit may carry into a new first
digit.  The exponent is then one higher and the last place is one coarser, but nothing is rounded
again, for what was rounded up to a power of ten is nearer to it than half of the coarser place.
-/
import Amend.Decimal
import Amend.Proofs.Decimal.Exponent

namespace Amend
namespace Binary64

/-! ## Rounded quotients -/

/-- Of two whole numbers that are as near, the even one is taken. -/
theorem roundHalfEven_even {num den : Nat} (hden : 0 < den)
    (h : ((roundHalfEven num den * den : Nat) - num : Int).natAbs * 2 = den) :
    roundHalfEven num den % 2 = 0 := by
  have hsplit := Nat.div_add_mod num den
  have hmod := Nat.mod_lt num hden
  rw [Nat.mul_comm den] at hsplit
  rw [roundHalfEven_eq] at h ⊢
  split at h
  case isTrue hup =>
    rw [if_pos hup]
    rw [Nat.add_mul, Nat.one_mul] at h
    omega
  case isFalse hdown =>
    rw [if_neg hdown]
    omega

theorem roundHalfEven_of_near {num den whole : Nat} (hden : 0 < den)
    (h : ((whole * den : Nat) - num : Int).natAbs * 2 < den) : roundHalfEven num den = whole := by
  have herror := roundHalfEven_error num hden
  rcases Nat.lt_trichotomy (roundHalfEven num den) whole with hlt | heq | hgt
  · have hstep := Nat.mul_le_mul_right den (Nat.succ_le_of_lt hlt)
    rw [Nat.succ_mul] at hstep
    omega
  · exact heq
  · have hstep := Nat.mul_le_mul_right den (Nat.succ_le_of_lt hgt)
    rw [Nat.succ_mul] at hstep
    omega

/-- A quotient that a finer rounding takes to a whole number is taken there by a coarser one. -/
theorem roundHalfEven_of_finer {num den whole : Nat} (hden : 0 < den)
    (h : roundHalfEven (num * 10) den = whole * 10) : roundHalfEven num den = whole := by
  have herror := roundHalfEven_error (num * 10) hden
  rw [h, Nat.mul_right_comm] at herror
  exact roundHalfEven_of_near hden (by omega)

theorem abs_roundHalfEven_sub (num : ℕ) {den : ℕ} (hden : 0 < den) :
    |(roundHalfEven num den : ℝ) - num / den| =
      (((roundHalfEven num den * den : ℕ) - num : ℤ).natAbs : ℕ) / den := by
  have hden' : (0 : ℝ) < den := Nat.cast_pos.mpr hden
  rw [eq_div_iff hden'.ne', Nat.cast_natAbs, Int.cast_abs]
  nth_rewrite 2 [← abs_of_pos hden']
  rw [← abs_mul, sub_mul, div_mul_cancel₀ _ hden'.ne']
  push_cast
  rfl

end Binary64

namespace Decimal

open Binary64 (Finite one one_pos cast_one_pos roundHalfEven)

/-! ## The nearest multiple -/

/-- Whether a number is a multiple of a step that is nearer to another number than all other
multiples, or as near as another one and even. -/
def Nearest (step a b : ℝ) : Prop :=
  ∃ k : ℤ, b = k * step ∧
    ∀ j : ℤ, j ≠ k → |b - a| < |j * step - a| ∨ |b - a| = |j * step - a| ∧ Even k

variable {step a b : ℝ} {x : Finite} {places : ℕ}

theorem Nearest.neg (h : Nearest step a b) : Nearest step (-a) (-b) := by
  obtain ⟨k, hb, hnearer⟩ := h
  have habs : |(-b) - (-a)| = |b - a| := by rw [neg_sub_neg, abs_sub_comm]
  refine ⟨-k, by rw [hb, Int.cast_neg, neg_mul], fun j hj => ?_⟩
  have hother : |j * step - (-a)| = |(-j : ℤ) * step - a| := by
    rw [Int.cast_neg, neg_mul, ← neg_add', abs_neg, sub_neg_eq_add]
  rw [habs, hother, even_neg]
  exact hnearer (-j) fun heq => hj (neg_eq_iff_eq_neg.mp heq)

/-- A multiple at most half a step away is nearest, for any other one is a step away from it. -/
theorem nearest_of_half {k : ℤ} (hstep : 0 < step) (hhalf : 2 * |k * step - a| ≤ step)
    (heven : 2 * |k * step - a| = step → Even k) : Nearest step a (k * step) := by
  refine ⟨k, rfl, fun j hj => ?_⟩
  have hapart : step ≤ |j * step - k * step| := by
    have hone : (1 : ℝ) ≤ |(j - k : ℤ)| := by exact_mod_cast Int.one_le_abs (sub_ne_zero.mpr hj)
    rw [← sub_mul, abs_mul, abs_of_pos hstep, ← Int.cast_sub, ← Int.cast_abs]
    exact le_mul_of_one_le_left hstep.le hone
  have htriangle := abs_sub_le (j * step) a (k * step)
  rw [abs_sub_comm a] at htriangle
  rcases lt_or_eq_of_le (show |k * step - a| ≤ |j * step - a| by linarith) with hlt | heq
  · exact .inl hlt
  · exact .inr ⟨heq, heven (by linarith)⟩

theorem nearest_roundHalfEven {num den : ℕ} (hden : 0 < den) (hstep : 0 < step)
    (ha : a = num / den * step) : Nearest step a (roundHalfEven num den * step) := by
  have hden' : (0 : ℝ) < den := Nat.cast_pos.mpr hden
  have habs : 2 * |((roundHalfEven num den : ℕ) : ℤ) * step - a| =
      ((((roundHalfEven num den * den : ℕ) - num : ℤ).natAbs * 2 : ℕ) : ℝ) / den * step := by
    rw [Int.cast_natCast, ha, ← sub_mul, abs_mul, Binary64.abs_roundHalfEven_sub num hden,
      abs_of_pos hstep]
    push_cast
    ring
  rw [← Int.cast_natCast (roundHalfEven num den)]
  refine nearest_of_half hstep ?_ fun htie => ?_
  · rw [habs]
    refine mul_le_of_le_one_left hstep.le ((div_le_one hden').mpr ?_)
    exact Nat.cast_le.mpr (Binary64.roundHalfEven_error num hden)
  · rw [habs, mul_eq_right₀ hstep.ne', div_eq_one_iff_eq hden'.ne', Nat.cast_inj] at htie
    exact_mod_cast Nat.even_iff.mpr (Binary64.roundHalfEven_even hden htie)

/-! ## Significant digits -/

theorem magnitude_pos (hx : x.isZero = false) : 0 < x.magnitude :=
  Nat.mul_pos (Nat.pos_of_ne_zero (beq_eq_false_iff_ne.mp hx)) (Binary64.two_pow_pos _)

theorem abs_real_pos (hx : x.isZero = false) : 0 < |x.real| := by
  rw [Finite.abs_real]
  exact div_pos (Nat.cast_pos.mpr (magnitude_pos hx)) cast_one_pos

/-- The magnitude of a double counted in a power of ten, rounded once. -/
def countIn (x : Finite) (e : ℤ) : ℕ :=
  roundHalfEven (quotient x.magnitude e).1 (quotient x.magnitude e).2

theorem countIn_neg (x : Finite) (p : ℕ) :
    countIn x (-(p : ℤ)) = roundHalfEven (x.magnitude * Nat.pow 10 p) one := by
  unfold countIn quotient
  generalize one = u
  split
  case isTrue hp =>
    obtain rfl : p = 0 := by omega
    show roundHalfEven x.magnitude (u * 1) = roundHalfEven (x.magnitude * 1) u
    rw [Nat.mul_one, Nat.mul_one]
  case isFalse hp => rw [neg_neg, Int.toNat_natCast]

/-- What is rounded up to a power of ten is the same power of ten in the next coarser place. -/
theorem countIn_of_carry {p : ℕ} (h : countIn x (-((p + 1 : ℕ) : ℤ)) = 10 ^ (places + 1)) :
    countIn x (-(p : ℤ)) = 10 ^ places := by
  have hone := one_pos
  rw [countIn_neg] at h ⊢
  generalize one = u at hone h ⊢
  rw [Nat.pow_eq, Nat.pow_succ, Nat.pow_succ, ← Nat.mul_assoc] at h
  exact Binary64.roundHalfEven_of_finer hone h

theorem nearest_countIn (x : Finite) (e : ℤ) :
    Nearest (10 ^ e) |x.real| (countIn x e * 10 ^ e) := by
  refine nearest_roundHalfEven (quotient_den_pos _ _) (by positivity) ?_
  rw [cast_quotient, ← Finite.abs_real, div_mul_cancel₀ _ (by positivity)]

/-- Counted in the place of the last digit, a double has as many digits as asked for. -/
theorem scaled_bounds (hx : x.isZero = false) (places : ℕ) :
    10 ^ places ≤ |x.real| / 10 ^ (Int.log 10 |x.real| - places) ∧
      |x.real| / 10 ^ (Int.log 10 |x.real| - places) < 10 ^ (places + 1) := by
  have hlow := Int.zpow_log_le_self (b := 10) (by decide) (abs_real_pos hx)
  have hhigh := Int.lt_zpow_succ_log_self (b := 10) (by decide) |x.real|
  have hten : (10 : ℝ) ≠ 0 := by norm_num
  rw [Nat.cast_ofNat] at hlow hhigh
  rw [le_div_iff₀ (by positivity), div_lt_iff₀ (by positivity), ← zpow_natCast, ← zpow_natCast,
    ← zpow_add₀ hten, ← zpow_add₀ hten]
  constructor
  · rwa [add_sub_cancel]
  · rwa [Nat.cast_succ, add_right_comm, add_sub_cancel]

theorem countIn_bounds (hx : x.isZero = false) (places : ℕ) :
    10 ^ places ≤ countIn x (Int.log 10 |x.real| - places) ∧
      countIn x (Int.log 10 |x.real| - places) ≤ 10 ^ (places + 1) := by
  have hden := quotient_den_pos x.magnitude (Int.log 10 |x.real| - places)
  have hden' := Nat.cast_pos (α := ℝ).mpr hden
  obtain ⟨hlow, hhigh⟩ := scaled_bounds hx places
  rw [Finite.abs_real, ← cast_quotient, ← Finite.abs_real] at hlow hhigh
  constructor
  · rw [le_div_iff₀ hden'] at hlow
    exact Binary64.le_roundHalfEven hden (by exact_mod_cast hlow)
  · rw [div_lt_iff₀ hden'] at hhigh
    exact Binary64.roundHalfEven_le hden (by exact_mod_cast hhigh.le)

theorem significant_eq (hx : x.isZero = false) (places : ℕ) :
    significant x places =
      if countIn x (Int.log 10 |x.real| - places) = 10 ^ (places + 1) then
        (10 ^ places, Int.log 10 |x.real| + 1)
      else (countIn x (Int.log 10 |x.real| - places), Int.log 10 |x.real|) := by
  have htop := exponent_eq (magnitude_pos hx) (Binary64.magnitude_lt_beyond x)
  rw [← Finite.abs_real] at htop
  rw [significant, if_neg (by rw [hx]; exact Bool.false_ne_true), htop]
  rfl

/-- What digits and an exponent say of a double when the digits are as many as asked for. -/
structure IsSignificant (x : Finite) (places : ℕ) (coeff : ℕ) (top : ℤ) : Prop where
  low : 10 ^ places ≤ coeff
  high : coeff < 10 ^ (places + 1)
  nearest : Nearest (10 ^ (Int.log 10 |x.real| - places)) |x.real| (coeff * 10 ^ (top - places))
  /-- Rounding again in the place of the last digit, if it is not before the point, changes
  nothing. -/
  fixed : top ≤ places → countIn x (top - places) = coeff

theorem isSignificant (hx : x.isZero = false) (places : ℕ) :
    IsSignificant x places (significant x places).1 (significant x places).2 := by
  obtain ⟨hlow, hhigh⟩ := countIn_bounds hx places
  have hnearest := nearest_countIn x (Int.log 10 |x.real| - places)
  rw [significant_eq hx]
  split
  case isTrue hcarry =>
    refine ⟨Nat.le_refl _, Nat.pow_lt_pow_right (by decide) (Nat.lt_succ_self places), ?_, ?_⟩
    · have hvalue : ((10 ^ places : ℕ) : ℝ) * 10 ^ (Int.log 10 |x.real| + 1 - places) =
          (10 ^ (places + 1) : ℕ) * 10 ^ (Int.log 10 |x.real| - places) := by
        rw [add_sub_right_comm, zpow_add_one₀ (by norm_num)]
        push_cast
        ring
      rw [hvalue, ← hcarry]
      exact hnearest
    · intro htop
      obtain ⟨p, hp⟩ := Int.exists_eq_neg_ofNat (sub_nonpos.mpr htop)
      have hfiner : Int.log 10 |x.real| - places = -((p + 1 : ℕ) : ℤ) := by omega
      rw [hfiner] at hcarry
      exact hp ▸ countIn_of_carry hcarry
  case isFalse hcarry =>
    exact ⟨hlow, Nat.lt_of_le_of_ne hhigh hcarry, hnearest, fun _ => rfl⟩

/-- The exponent of the first digit. -/
theorem IsSignificant.log_eq {coeff : ℕ} {top : ℤ} (h : IsSignificant x places coeff top) :
    Int.log 10 ((coeff : ℝ) * 10 ^ (top - places)) = top := by
  have hcoeff : (0 : ℝ) < coeff := Nat.cast_pos.mpr (Nat.lt_of_lt_of_le (by positivity) h.low)
  have hlow : ((10 ^ places : ℕ) : ℝ) ≤ coeff := Nat.cast_le.mpr h.low
  have hhigh : (coeff : ℝ) < (10 ^ (places + 1) : ℕ) := Nat.cast_lt.mpr h.high
  have hpos : (0 : ℝ) < coeff * 10 ^ (top - places) := by positivity
  have hten : (10 : ℝ) ≠ 0 := by norm_num
  push_cast at hlow hhigh
  have hfirst : (10 : ℝ) ^ top ≤ coeff * 10 ^ (top - places) :=
    calc (10 : ℝ) ^ top = 10 ^ places * 10 ^ (top - places) := by
          rw [← zpow_natCast, ← zpow_add₀ hten, add_sub_cancel]
      _ ≤ coeff * 10 ^ (top - places) := mul_le_mul_of_nonneg_right hlow (by positivity)
  have hnext : (coeff : ℝ) * 10 ^ (top - places) < 10 ^ (top + 1) :=
    calc (coeff : ℝ) * 10 ^ (top - places) < 10 ^ (places + 1) * 10 ^ (top - places) :=
          mul_lt_mul_of_pos_right hhigh (by positivity)
      _ = 10 ^ (top + 1) := by
          rw [← zpow_natCast, ← zpow_add₀ hten, Nat.cast_succ, add_right_comm, add_sub_cancel]
  refine le_antisymm (Int.lt_add_one_iff.mp ?_) ?_
  · rwa [← Int.lt_zpow_iff_log_lt (by decide) hpos, Nat.cast_ofNat]
  · rwa [← Int.zpow_le_iff_le_log (by decide) hpos, Nat.cast_ofNat]

end Decimal
end Amend
