/-
Rounding to the nearest integer and to the nearest double.  A quotient rounded half to even lies
between any two whole numbers that the quotient lies between, keeps the order of quotients, and
does not see a common factor.  The double that `round` gives is finite while the quotient is not
too large, and its magnitude is the quotient counted in its last place, rounded once.
-/
import Amend.Binary64.Basic

namespace Amend
namespace Binary64

/-! ## To an integer -/

/-- A quotient is rounded up past the half, and at the half where its whole part is odd. -/
theorem roundHalfEven_eq (num den : Nat) :
    roundHalfEven num den =
      if den < 2 * (num % den) ∨ 2 * (num % den) = den ∧ num / den % 2 = 1 then num / den + 1
      else num / den := by
  unfold roundHalfEven
  simp only
  by_cases hlow : 2 * (num % den) < den
  · rw [if_pos hlow, if_neg (by omega)]
  · rw [if_neg hlow]
    by_cases hhigh : den < 2 * (num % den)
    · rw [if_pos hhigh, if_pos (.inl hhigh)]
    · rw [if_neg hhigh]
      by_cases heven : num / den % 2 = 0
      · rw [if_pos heven, if_neg (by omega)]
      · rw [if_neg heven, if_pos (by omega)]

theorem div_le_roundHalfEven (num den : Nat) : num / den ≤ roundHalfEven num den := by
  rw [roundHalfEven_eq]
  split <;> omega

theorem roundHalfEven_le_succ (num den : Nat) : roundHalfEven num den ≤ num / den + 1 := by
  rw [roundHalfEven_eq]
  split <;> omega

theorem roundHalfEven_mul (whole : Nat) {den : Nat} (hden : 0 < den) :
    roundHalfEven (whole * den) den = whole := by
  have hdiv : whole * den / den = whole := Nat.mul_div_cancel whole hden
  have hmod : whole * den % den = 0 := Nat.mul_mod_left whole den
  rw [roundHalfEven_eq, hdiv, hmod, if_neg (by omega)]

theorem roundHalfEven_scale (num den : Nat) {factor : Nat} (hfactor : 0 < factor) :
    roundHalfEven (num * factor) (den * factor) = roundHalfEven num den := by
  have htwice : 2 * (num % den * factor) = 2 * (num % den) * factor := (Nat.mul_assoc _ _ _).symm
  unfold roundHalfEven
  simp only [Nat.mul_div_mul_right _ _ hfactor, Nat.mul_mod_mul_right, htwice,
    Nat.mul_lt_mul_right hfactor]

theorem roundHalfEven_mono {num num' : Nat} (h : num ≤ num') (den : Nat) :
    roundHalfEven num den ≤ roundHalfEven num' den := by
  have hdiv : num / den ≤ num' / den := Nat.div_le_div_right h
  by_cases hsame : num / den = num' / den
  · -- The quotients have one whole part, so the remainders are in order.
    have hmod : num % den ≤ num' % den := by
      have hnum := Nat.div_add_mod num den
      have hnum' := Nat.div_add_mod num' den
      rw [hsame] at hnum
      omega
    rw [roundHalfEven_eq, roundHalfEven_eq, hsame]
    split <;> split <;> omega
  · have hle := roundHalfEven_le_succ num den
    have hge := div_le_roundHalfEven num' den
    omega

theorem roundHalfEven_le {num whole den : Nat} (hden : 0 < den) (h : num ≤ whole * den) :
    roundHalfEven num den ≤ whole := by
  have hmono := roundHalfEven_mono h den
  rwa [roundHalfEven_mul whole hden] at hmono

theorem le_roundHalfEven {num whole den : Nat} (hden : 0 < den) (h : whole * den ≤ num) :
    whole ≤ roundHalfEven num den := by
  have hmono := roundHalfEven_mono h den
  rwa [roundHalfEven_mul whole hden] at hmono

/-! ## To a double -/

theorem ofParts_eq_finite {neg : Bool} {mant shift : Nat}
    (h : mant < 0x20000000000000 ∧ shift ≤ 2045 ∧ (0x10000000000000 ≤ mant ∨ shift = 0)) :
    ofParts neg mant shift = .finite ⟨neg, mant, shift, h⟩ := dif_pos h

theorem two_pow_pos (k : Nat) : 0 < Nat.pow 2 k := Nat.two_pow_pos k

theorem two_pow_add (k n : Nat) : Nat.pow 2 (k + n) = Nat.pow 2 n * Nat.pow 2 k := by
  show 2 ^ (k + n) = 2 ^ n * 2 ^ k
  rw [Nat.pow_add, Nat.mul_comm]

/-- The last place of the double nearest to a quotient. -/
def lastPlace (num den : Nat) : Nat := (num / den).log2 - 52

theorem roundHalfEven_lastPlace_le (num : Nat) {den : Nat} (hden : 0 < den) :
    roundHalfEven num (den * Nat.pow 2 (lastPlace num den)) ≤ Nat.pow 2 53 := by
  have hpow := two_pow_pos (lastPlace num den)
  have hlog : num / den < Nat.pow 2 ((num / den).log2 + 1) := Nat.lt_log2_self
  have hle : Nat.pow 2 ((num / den).log2 + 1) ≤ Nat.pow 2 (lastPlace num den + 53) := by
    refine Nat.pow_le_pow_right Nat.two_pos ?_
    unfold lastPlace
    omega
  have hlt : num < Nat.pow 2 (lastPlace num den + 53) * den :=
    (Nat.div_lt_iff_lt_mul hden).mp (Nat.lt_of_lt_of_le hlog hle)
  rw [two_pow_add, Nat.mul_assoc, Nat.mul_comm _ den] at hlt
  exact roundHalfEven_le (Nat.mul_pos hden hpow) (Nat.le_of_lt hlt)

theorem le_roundHalfEven_lastPlace (num : Nat) {den : Nat} (hden : 0 < den)
    (h : lastPlace num den ≠ 0) :
    Nat.pow 2 52 ≤ roundHalfEven num (den * Nat.pow 2 (lastPlace num den)) := by
  have hpow := two_pow_pos (lastPlace num den)
  have hplace : lastPlace num den + 52 = (num / den).log2 := by
    unfold lastPlace at h ⊢
    omega
  have hne : num / den ≠ 0 := by
    intro hzero
    rw [hzero, Nat.log2_zero] at hplace
    omega
  have hlog : Nat.pow 2 (lastPlace num den + 52) ≤ num / den := by
    rw [hplace]
    exact Nat.log2_self_le hne
  have hle : Nat.pow 2 (lastPlace num den + 52) * den ≤ num :=
    (Nat.le_div_iff_mul_le hden).mp hlog
  rw [two_pow_add, Nat.mul_assoc, Nat.mul_comm _ den] at hle
  exact le_roundHalfEven (Nat.mul_pos hden hpow) hle

/-- A quotient below the top binade rounds to a finite double. -/
theorem round_eq_finite (neg : Bool) {num den : Nat} (hden : 0 < den)
    (hlog : (num / den).log2 ≤ 2096) :
    ∃ x : Finite, round neg num den = .finite x ∧ x.neg = neg ∧
      x.magnitude = roundHalfEven num (den * Nat.pow 2 (lastPlace num den)) *
        Nat.pow 2 (lastPlace num den) := by
  have hplace : (num / den).log2 - 52 = lastPlace num den := rfl
  have hle : lastPlace num den ≤ 2044 := by omega
  have hupper : roundHalfEven num (den * Nat.pow 2 (lastPlace num den)) ≤ 0x20000000000000 :=
    roundHalfEven_lastPlace_le num hden
  have hlower : lastPlace num den ≠ 0 →
      0x10000000000000 ≤ roundHalfEven num (den * Nat.pow 2 (lastPlace num den)) :=
    le_roundHalfEven_lastPlace num hden
  unfold round
  simp only [hplace]
  by_cases hcarry : roundHalfEven num (den * Nat.pow 2 (lastPlace num den)) = 0x20000000000000
  · -- The rounding carries into a new binade.
    rw [if_pos hcarry, ofParts_eq_finite (by omega), hcarry]
    refine ⟨_, rfl, rfl, ?_⟩
    show 0x10000000000000 * Nat.pow 2 (lastPlace num den + 1) = _
    have hdouble : Nat.pow 2 (lastPlace num den + 1) = Nat.pow 2 (lastPlace num den) * 2 := rfl
    omega
  · rw [if_neg hcarry, ofParts_eq_finite (by omega)]
    exact ⟨_, rfl, rfl, rfl⟩

end Binary64
end Amend
