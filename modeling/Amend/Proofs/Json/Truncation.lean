/-
Numbers that count places.  A bound or a position is read as the double of a number, cut off toward
zero and held within the signed 64-bit range.  That is the number itself, cut off and held within
the range, but rounded on the way as a double is, so places are read in the order of the numbers
and exactly up to 53 bits.
-/
import Amend.Proofs.Binary64.Quotient
import Amend.Proofs.Json.Magnitude

namespace Amend

namespace Binary64

/-- A double that is a whole number is not rounded again. -/
theorem rounded_of_units {x : Finite} {n : Int} (hlog : n.natAbs.log2 ≤ 1022)
    (h : x.units = n * one) : rounded n = n := by
  obtain ⟨y, hy, hunits⟩ := isWhole_ofInt hlog
  have hplace := position_ofInt n
  rw [hy, ← h, place_units] at hplace
  have hsame : y.units = x.units := Option.some.inj hplace
  exact Int.eq_of_mul_eq_mul_right one_ne_zero (hunits.symm.trans (hsame.trans h))

/-- A double with a fraction is far below `2 ^ 53`. -/
theorem Finite.natAbs_toInt_le {x : Finite} (h : x.shift < 1074) :
    x.toInt.natAbs ≤ 0x20000000000000 := by
  have hmagnitude := magnitude_mul_two_le h
  rw [toInt, Int.natAbs_tdiv, natAbs_units, Int.natAbs_natCast]
  refine Nat.div_le_of_le_mul ?_
  rw [Nat.mul_comm]
  omega

end Binary64

namespace Number

open Binary64 (rounded)

variable {a b : Number} {n k : Int}

/-- The signed integer nearest to an integer. -/
def saturated (n : Int) : Int := max minSigned (min maxSigned n)

theorem saturated_of_signed (h : Signed n) : saturated n = n := by
  unfold Signed at h
  unfold saturated
  omega

theorem signed_saturated (n : Int) : Signed (saturated n) := by
  unfold Signed saturated minSigned maxSigned
  omega

theorem saturated_of_ge (h : maxSigned ≤ n) : saturated n = maxSigned := by
  unfold saturated minSigned
  unfold maxSigned at *
  omega

theorem saturated_of_le (h : n ≤ minSigned) : saturated n = minSigned := by
  unfold saturated maxSigned
  unfold minSigned at *
  omega

theorem saturated_mono (h : n ≤ k) : saturated n ≤ saturated k := by
  unfold saturated
  omega

/-- The number cut off toward zero and held within the signed range. -/
def truncated (a : Number) : Int := saturated (a.units.tdiv Binary64.one)

/-- The double of the number, cut off toward zero and held within the signed range. -/
def asInt64 (a : Number) : Int := a.toBinary64.toInt64

theorem truncated_of_units (h : a.units = n * Binary64.one) : a.truncated = saturated n := by
  rw [truncated, h, Int.mul_tdiv_cancel n Binary64.one_ne_zero]

theorem asInt64_of_isWhole (h : a.toBinary64.IsWhole n) : a.asInt64 = saturated n := by
  obtain ⟨x, hx, hunits⟩ := h
  rw [asInt64, hx]
  show saturated x.toInt = saturated n
  rw [Binary64.Finite.toInt_of_units hunits]

/-! ## Rounding once -/

theorem saturated_rounded_of_ge (h : maxSigned ≤ n) : saturated (rounded n) = maxSigned := by
  have htop : maxSigned ≤ rounded maxSigned := by decide
  exact saturated_of_ge (Int.le_trans htop (Binary64.rounded_mono h))

theorem saturated_rounded_of_le (h : n ≤ minSigned) : saturated (rounded n) = minSigned := by
  have hleast : rounded minSigned ≤ minSigned := by decide
  exact saturated_of_le (Int.le_trans (Binary64.rounded_mono h) hleast)

/-- Held within the range before it is rounded or after, an integer is the same. -/
theorem saturated_rounded_saturated (n : Int) :
    saturated (rounded (saturated n)) = saturated (rounded n) := by
  by_cases hlow : n ≤ minSigned
  · rw [saturated_of_le hlow, saturated_rounded_of_le hlow, saturated_rounded_of_le (Int.le_refl _)]
  · by_cases hhigh : maxSigned ≤ n
    · rw [saturated_of_ge hhigh, saturated_rounded_of_ge hhigh,
        saturated_rounded_of_ge (Int.le_refl _)]
    · rw [saturated_of_signed (n := n) ⟨by omega, by omega⟩]

theorem saturated_rounded_toInt (x : Binary64.Finite) :
    saturated (rounded x.toInt) = saturated x.toInt := by
  by_cases hshift : 1074 ≤ x.shift
  · have hintegral : x.isIntegral = true := by
      rw [Binary64.Finite.isIntegral, Binary64.Finite.ones_of_le_shift hshift, Nat.mul_mod_left]
      rfl
    obtain ⟨n, hunits⟩ := Binary64.Finite.isIntegral_iff.mp hintegral
    rw [Binary64.Finite.toInt_of_units hunits]
    by_cases hsigned : Signed n
    · have hlog : n.natAbs.log2 ≤ Nat.log2 0x8000000000000000 :=
        Binary64.log2_mono (natAbs_le_of_signed hsigned)
      have htop : Nat.log2 0x8000000000000000 ≤ 1022 := by decide
      rw [Binary64.rounded_of_units (Nat.le_trans hlog htop) hunits]
    · unfold Signed at hsigned
      rcases Int.lt_or_le n minSigned with hlow | hlow
      · have hle := Int.le_of_lt hlow
        rw [saturated_rounded_of_le hle, saturated_of_le hle]
      · have hge : maxSigned ≤ n := by omega
        rw [saturated_rounded_of_ge hge, saturated_of_ge hge]
  · rw [Binary64.rounded_of_le (Binary64.Finite.natAbs_toInt_le (Nat.not_le.mp hshift))]

/-- A number is read as what it is cut off to, rounded to a double. -/
theorem asInt64_eq (h : a.Ranged) : a.asInt64 = saturated (rounded a.truncated) := by
  cases a with
  | int n =>
    rw [truncated_of_units (n := n) rfl, saturated_rounded_saturated,
      asInt64_of_isWhole (isWhole_toBinary64 (h n rfl))]
  | float x =>
    show saturated x.toInt = saturated (rounded (saturated x.toInt))
    rw [saturated_rounded_saturated, saturated_rounded_toInt]

theorem signed_asInt64 (h : a.Ranged) : Signed a.asInt64 := by
  rw [asInt64_eq h]
  exact signed_saturated _

/-! ## Order -/

theorem asInt64_mono (ha : a.Ranged) (hb : b.Ranged) (h : a.truncated ≤ b.truncated) :
    a.asInt64 ≤ b.asInt64 := by
  rw [asInt64_eq ha, asInt64_eq hb]
  exact saturated_mono (Binary64.rounded_mono h)

/-- Numbers are read in their order, unless they are read alike. -/
theorem asInt64_lt_iff (ha : a.Ranged) (hb : b.Ranged) :
    a.asInt64 < b.asInt64 ↔ a.truncated < b.truncated ∧ a.asInt64 ≠ b.asInt64 := by
  constructor
  · intro hlt
    refine ⟨Int.not_le.mp fun hle => ?_, Int.ne_of_lt hlt⟩
    have hmono := asInt64_mono hb ha hle
    omega
  · rintro ⟨hlt, hne⟩
    have hmono := asInt64_mono ha hb (Int.le_of_lt hlt)
    omega

theorem saturated_rounded_of_bits (h : n.natAbs ≤ 0x20000000000000) :
    saturated (rounded n) = n := by
  rw [Binary64.rounded_of_le h]
  refine saturated_of_signed ?_
  unfold Signed minSigned maxSigned
  omega

/-- Against an integer of at most 53 bits a number is read where it stands. -/
theorem le_asInt64_iff (ha : a.Ranged) (hlow : -0x20000000000000 < k)
    (hhigh : k ≤ 0x20000000000000) : k ≤ a.asInt64 ↔ k ≤ a.truncated := by
  rw [asInt64_eq ha]
  constructor
  · intro hle
    refine Int.not_lt.mp fun hlt => ?_
    have hbelow : a.truncated ≤ k - 1 := by omega
    have hmono := saturated_mono (Binary64.rounded_mono hbelow)
    rw [saturated_rounded_of_bits (n := k - 1) (by omega)] at hmono
    omega
  · intro hle
    have hmono := saturated_mono (Binary64.rounded_mono hle)
    rwa [saturated_rounded_of_bits (n := k) (by omega)] at hmono

theorem asInt64_of_bits (ha : a.Ranged) (h : a.truncated.natAbs ≤ 0x20000000000000) :
    a.asInt64 = a.truncated := by
  rw [asInt64_eq ha, saturated_rounded_of_bits h]

theorem asInt64_int (h : n.natAbs ≤ 0x20000000000000) : (Number.int n).asInt64 = n := by
  have hsigned : Signed n := by
    unfold Signed minSigned maxSigned
    omega
  have htruncated : (Number.int n).truncated = n :=
    (truncated_of_units rfl).trans (saturated_of_signed hsigned)
  rw [asInt64_of_bits (ranged_int (inRange_of_signed hsigned)) (by rwa [htruncated]), htruncated]

/-- Between bounds of at most 53 bits a whole number is held as it is. -/
theorem clamped_asInt64 (ha : a.Ranged) (hn : a.units = n * Binary64.one) (low high : Int)
    (hlow : -0x20000000000000 ≤ low) (hhigh : high ≤ 0x20000000000000) :
    max low (min high a.asInt64) = max low (min high n) := by
  have htruncated := truncated_of_units hn
  unfold saturated minSigned maxSigned at htruncated
  by_cases hbits : n.natAbs ≤ 0x20000000000000
  · have hread := asInt64_of_bits ha (by omega)
    omega
  · have hbelow := le_asInt64_iff ha (k := -0x1FFFFFFFFFFFFF) (by decide) (by decide)
    have habove := le_asInt64_iff ha (k := 0x20000000000000) (by decide) (by decide)
    omega

theorem asInt64_neg_iff (ha : a.Ranged) (hn : a.units = n * Binary64.one) :
    a.asInt64 < 0 ↔ n < 0 := by
  have hclamped := clamped_asInt64 ha hn (-1) 0 (by decide) (by decide)
  omega

end Number
end Amend
