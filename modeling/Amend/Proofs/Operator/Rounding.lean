/-
Operators that round.  Each changes the double of the stored number.  A stored integer is a whole
number as a double, so rounding to a whole number leaves the double alone, and what is stored is
the double nearest to the integer.  Rounding to decimals scales the double up and down again, and
is refused exactly where the scaled number is beyond all finite doubles.
-/
import Amend.Proofs.Binary64.Integral
import Amend.Proofs.Json.Magnitude
import Amend.Proofs.Operator.Arithmetic

namespace Amend

namespace Binary64

theorem isWhole_abs {d : Binary64} {n : Int} (h : d.IsWhole n) : d.abs.IsWhole n.natAbs := by
  obtain ⟨x, rfl, hx⟩ := h
  refine ⟨x.abs, rfl, ?_⟩
  rw [Finite.units_abs, Finite.magnitude_of_units hx, Int.natCast_mul]

/-- Rounding keeps the sign, so an integer is a double if its magnitude is. -/
theorem natAbs_rounded_eq_iff {n : Int} : (rounded n).natAbs = n.natAbs ↔ rounded n = n := by
  constructor
  · intro h
    by_cases hneg : n ≤ 0
    · rw [rounded_of_nonpos hneg] at h ⊢
      omega
    · rw [rounded_of_nonneg (by omega)] at h ⊢
      omega
  · exact congrArg Int.natAbs

/-- A number of ones that is far from the greatest doubles, whatever power of ten scales it. -/
theorem scaled_lt_overflow {k digits : Nat} (hk : k ≤ 0x10000000000000000) (hdigits : digits ≤ 15) :
    k * one * Nat.pow 10 digits < overflow := by
  obtain ⟨i, hi, hone⟩ := exists_one_eq
  obtain ⟨j, hj, hover⟩ := exists_overflow_eq
  have hten : Nat.pow 10 digits ≤ Nat.pow 2 50 :=
    Nat.le_trans (Nat.pow_le_pow_right (by decide) hdigits) (by decide)
  have hpow : Nat.pow 2 (i + 114) ≤ Nat.pow 2 j := Nat.pow_le_pow_right Nat.two_pos (by omega)
  have hpos := two_pow_pos j
  calc k * one * Nat.pow 10 digits
      ≤ 0x10000000000000000 * one * Nat.pow 2 50 :=
        Nat.mul_le_mul (Nat.mul_le_mul_right _ hk) hten
    _ = Nat.pow 2 (i + 114) := by
        rw [hone, two_pow_add, Nat.mul_right_comm]
    _ < overflow := by omega

end Binary64

namespace Operator
namespace Numeric

open Binary64 (rounded overflow)
open Number (InRange Ranged Signed StandsFor)

theorem change_num (f : Binary64 → Binary64) (a : Number) :
    change f (some (.num a)) = ofResult (f a.toBinary64) := rfl

/-! ## Rounding to decimals -/

theorem roundDigits_le (operand : Value) : roundDigits operand ≤ 15 := by
  unfold roundDigits
  split
  · next d _ =>
    split
    · next h =>
      have hle : d ≤ 15 := h.2
      omega
    · exact Nat.zero_le _
  · exact Nat.zero_le _

theorem exists_scale {digits : Nat} (h : digits ≤ 15) :
    ∃ s : Binary64.Finite, Binary64.ofInt (Nat.pow 10 digits) = .finite s ∧ s.neg = false ∧
      s.isZero ≠ true ∧ s.magnitude = Nat.pow 10 digits * Binary64.one := by
  have hpos : 0 < Nat.pow 10 digits := Nat.pow_pos (by decide)
  have hle : Nat.pow 10 digits ≤ 0x20000000000000 :=
    Nat.le_trans (Nat.pow_le_pow_right (by decide) h) (by decide)
  obtain ⟨s, hs, hunits⟩ := Binary64.isWhole_ofInt_of_le (n := (Nat.pow 10 digits : Nat)) hle
  have hsign := Binary64.Finite.sign_of_units hunits
  refine ⟨s, hs, Bool.eq_false_iff.mpr fun hneg => ?_, ?_, ?_⟩
  · rw [if_pos hneg] at hsign
    omega
  · exact Binary64.Finite.not_isZero_of_units hunits (by omega)
  · rw [Binary64.Finite.magnitude_of_units hunits, Int.natAbs_natCast]

section

variable {x s : Binary64.Finite} {k digits : Nat}

theorem mul_scale (hneg : s.neg = false) (hs : s.magnitude = k * Binary64.one) :
    (Binary64.finite x).mul (.finite s) = Binary64.round x.neg (x.magnitude * k) 1 := by
  show Binary64.round (x.neg != s.neg) (x.magnitude * s.magnitude) Binary64.one = _
  rw [hneg, Bool.bne_false, hs, ← Nat.mul_assoc,
    ← Binary64.round_scale x.neg (x.magnitude * k) 1 Binary64.one_pos, Nat.one_mul]

theorem div_scale (hneg : s.neg = false) (hzero : s.isZero ≠ true)
    (hs : s.magnitude = k * Binary64.one) :
    (Binary64.finite x).div (.finite s) = Binary64.round x.neg x.magnitude k := by
  simp only [Binary64.div, if_neg hzero]
  rw [hneg, Bool.bne_false, hs, Binary64.round_scale _ _ _ Binary64.one_pos]

/-- A proper quotient leaves the top binade. -/
theorem log2_div_le (x : Binary64.Finite) (hk : 2 ≤ k) : (x.magnitude / k).log2 ≤ 2096 := by
  obtain ⟨j, hj, hbeyond⟩ := Binary64.exists_beyond_eq
  have hlt : x.magnitude < Nat.pow 2 (j - 1) * 2 := by
    have hmagnitude := Binary64.magnitude_lt_beyond x
    rw [hbeyond, show j = 1 + (j - 1) by omega, Binary64.two_pow_add] at hmagnitude
    exact hmagnitude
  have hquotient : x.magnitude / k < Nat.pow 2 (j - 1) :=
    (Nat.div_lt_iff_lt_mul (by omega)).mpr
      (Nat.lt_of_lt_of_le hlt (Nat.mul_le_mul_left _ hk))
  by_cases hzero : x.magnitude / k = 0
  · rw [hzero, Nat.log2_zero]
    exact Nat.zero_le _
  · have hlog : (x.magnitude / k).log2 < j - 1 := (Nat.log2_lt hzero).mpr hquotient
    omega

theorem exists_div_scale (hneg : s.neg = false) (hzero : s.isZero ≠ true)
    (hs : s.magnitude = Nat.pow 10 digits * Binary64.one) :
    ∃ y, (Binary64.finite x).div (.finite s) = .finite y := by
  rw [div_scale hneg hzero hs]
  by_cases hdigits : digits = 0
  · rw [hdigits]
    exact ⟨_, Binary64.Finite.round_magnitude x.neg x⟩
  · have hten : 10 ≤ Nat.pow 10 digits := Nat.le_self_pow hdigits 10
    have hpos : 0 < Nat.pow 10 digits := by omega
    have hlog := log2_div_le x (k := Nat.pow 10 digits) (by omega)
    obtain ⟨y, hy, -, -⟩ := Binary64.round_eq_finite x.neg hpos hlog
    exact ⟨y, hy⟩

/-- A number whose scaled magnitude is a double's is rounded to a finite double. -/
theorem exists_roundTo (hdigits : digits ≤ 15) (h : x.magnitude * Nat.pow 10 digits < overflow) :
    ∃ y, roundTo digits (.finite x) = .finite y := by
  obtain ⟨s, hs, hneg, hzero, hscale⟩ := exists_scale hdigits
  obtain ⟨scaled, hscaled⟩ := Binary64.round_finite x.neg h
  obtain ⟨whole, hwhole⟩ := Binary64.toWhole_nearest.exists_finite scaled
  obtain ⟨y, hy⟩ := exists_div_scale (x := whole) hneg hzero hscale
  refine ⟨y, ?_⟩
  rw [roundTo, hs, mul_scale hneg hscale, hscaled, hwhole, hy]

/-- A number that is too large to be scaled is lost. -/
theorem roundTo_eq_infinite (hdigits : digits ≤ 15)
    (h : overflow ≤ x.magnitude * Nat.pow 10 digits) :
    roundTo digits (.finite x) = .infinite x.neg := by
  obtain ⟨s, hs, hneg, -, hscale⟩ := exists_scale hdigits
  rw [roundTo, hs, mul_scale hneg hscale, Binary64.round_infinite x.neg h]
  show Binary64.infinite (x.neg != s.neg) = _
  rw [hneg, Bool.bne_false]

/-- Without decimals nothing is scaled. -/
theorem roundTo_zero (x : Binary64.Finite) :
    roundTo 0 (.finite x) = Binary64.nearest (.finite x) := by
  obtain ⟨s, hs, hneg, hzero, hscale⟩ := exists_scale (Nat.zero_le 15)
  obtain ⟨y, hy⟩ := Binary64.toWhole_nearest.exists_finite x
  have hmul : (Binary64.finite x).mul (.finite s) = .finite x := by
    rw [mul_scale hneg hscale, Nat.pow_eq, Nat.pow_zero, Nat.mul_one]
    exact Binary64.Finite.round_magnitude x.neg x
  have hdiv : (Binary64.finite y).div (.finite s) = .finite y := by
    rw [div_scale hneg hzero hscale]
    exact Binary64.Finite.round_magnitude y.neg y
  rw [roundTo, hs, hmul, hy, hdiv]

end

/-! ## Stored integers -/

/-- The operators that round to a whole number. -/
inductive RoundsToWhole (operand : Value) : Numeric → Prop where
  | floor : RoundsToWhole operand .floor
  | ceil : RoundsToWhole operand .ceil
  | trunc : RoundsToWhole operand .trunc
  | round (hdigits : roundDigits operand = 0) : RoundsToWhole operand .round

variable {operand : Value} {op : Numeric} {a : Number} {n m : Int}

theorem RoundsToWhole.exists_toWhole (hop : RoundsToWhole operand op) :
    ∃ f, Binary64.ToWhole f ∧ ∀ (a : Number) (x : Binary64.Finite) (stream : Random.Stream),
      a.toBinary64 = .finite x →
        op.transform stream (some (.num a)) operand = ofResult (f (.finite x)) := by
  have hchange : ∀ (f : Binary64 → Binary64) {a : Number} {x : Binary64.Finite},
      a.toBinary64 = .finite x → change f (some (.num a)) = ofResult (f (.finite x)) := by
    intro f a x hx
    rw [change_num, hx]
  cases hop with
  | floor => exact ⟨_, Binary64.toWhole_floor, fun _ _ _ hx => hchange _ hx⟩
  | ceil => exact ⟨_, Binary64.toWhole_ceil, fun _ _ _ hx => hchange _ hx⟩
  | trunc => exact ⟨_, Binary64.toWhole_trunc, fun _ _ _ hx => hchange _ hx⟩
  | round hdigits =>
    refine ⟨_, Binary64.toWhole_nearest, fun a x _ hx => ?_⟩
    show change (roundTo (roundDigits operand)) (some (.num a)) = _
    rw [hchange _ hx, hdigits, roundTo_zero]

theorem transform_toWhole_int (hn : InRange n) (hop : RoundsToWhole operand op)
    (stream : Random.Stream) :
    ∃ number, op.transform stream (some (.int n)) operand = .ok (.num number) ∧
      number.StandsFor (rounded n) := by
  have hwhole := Number.isWhole_toBinary64 hn
  obtain ⟨x, hx, hunits⟩ := hwhole
  obtain ⟨f, hf, htransform⟩ := hop.exists_toWhole
  rw [Value.int, htransform _ x _ hx, hf.of_magnitude (Binary64.Finite.magnitude_of_units hunits)]
  exact ofResult_of_isWhole ⟨x, rfl, hunits⟩

theorem transform_abs_int (hn : InRange n) (operand : Value) (stream : Random.Stream) :
    ∃ number, Numeric.abs.transform stream (some (.int n)) operand = .ok (.num number) ∧
      number.StandsFor (rounded n).natAbs := by
  show ∃ number, change Binary64.abs (some (.num (.int n))) = .ok (.num number) ∧ _
  rw [change_num]
  exact ofResult_of_isWhole (Binary64.isWhole_abs (Number.isWhole_toBinary64 hn))

/-- Rounding a stored integer stores the double nearest to it, as an integer where it is a signed
one and as a float beyond.  So the integers that stay what they are are the signed ones that are
doubles, and the same integers have an exact magnitude. -/
theorem transform_integer_rounded (hn : InRange n) (operand : Value) (stream : Random.Stream) :
    (∀ op, RoundsToWhole operand op →
      ∃ number, op.transform stream (some (.int n)) operand = .ok (.num number) ∧
        number.StandsFor (rounded n) ∧ (number = .int n ↔ Signed n ∧ rounded n = n)) ∧
    (Signed n → n ≠ Number.minSigned →
      ∃ number, Numeric.abs.transform stream (some (.int n)) operand = .ok (.num number) ∧
        number.StandsFor (rounded n).natAbs ∧ (number = .int n.natAbs ↔ rounded n = n)) ∧
    (n.natAbs ≤ 0x20000000000000 → rounded n = n) := by
  refine ⟨fun op hop => ?_, fun hsigned hleast => ?_, Binary64.rounded_of_le⟩
  · obtain ⟨number, hnumber, hstands⟩ := transform_toWhole_int hn hop stream
    exact ⟨number, hnumber, hstands, hstands.eq_int_iff⟩
  · obtain ⟨number, hnumber, hstands⟩ := transform_abs_int hn operand stream
    have habs : Signed n.natAbs := by
      unfold Signed Number.maxSigned at hsigned ⊢
      unfold Number.minSigned at hsigned hleast ⊢
      omega
    refine ⟨number, hnumber, hstands, hstands.eq_int_iff.trans ?_⟩
    rw [and_iff_right habs, Int.natCast_inj, Binary64.natAbs_rounded_eq_iff]

/-- The greatest power of two that is a signed integer. -/
theorem transform_integer_rounded_power :
    InRange 0x4000000000000000 ∧ RoundsToWhole .null .round ∧
      Numeric.round.transform (.ofSeed 0) (some (.int 0x4000000000000000)) .null =
        .ok (.int 0x4000000000000000) := by
  have hn : InRange 0x4000000000000000 := by decide
  have hop : RoundsToWhole .null .round := .round rfl
  obtain ⟨number, hnumber, -, hexact⟩ :=
    (transform_integer_rounded hn .null (.ofSeed 0)).1 .round hop
  have hstored := hexact.mpr ⟨by decide, by decide⟩
  rw [hstored] at hnumber
  exact ⟨hn, hop, hnumber⟩

/-- The first integer that is no double is rounded down by one. -/
theorem floor_integer_inexact :
    InRange 0x20000000000001 ∧
      Numeric.floor.transform (.ofSeed 0) (some (.int 0x20000000000001)) .null ≠
        .ok (.int 0x20000000000001) := by
  have hn : InRange 0x20000000000001 := by decide
  refine ⟨hn, fun h => ?_⟩
  obtain ⟨number, hnumber, hstands⟩ := transform_toWhole_int hn
    (show RoundsToWhole .null .floor from .floor) (.ofSeed 0)
  have hstored : number = .int 0x20000000000001 :=
    Value.num.inj (Except.ok.inj (hnumber.symm.trans h))
  exact absurd (hstands.eq_int_iff.mp hstored) (by decide)

/-! ## Any stored number -/

theorem ofResult_finite (x : Binary64.Finite) :
    ∃ number, ofResult (.finite x) = .ok (.num number) := by
  have hnumber : ∃ number, Number.ofBinary64? (.finite x) = some number := by
    rw [Number.ofBinary64?]
    split
    · exact ⟨_, rfl⟩
    · exact ⟨_, rfl⟩
  obtain ⟨number, hnumber⟩ := hnumber
  exact ⟨number, by rw [ofResult, hnumber]⟩

/-- The double of a number is finite, and as far from the greatest doubles as the number. -/
theorem exists_toBinary64 (ha : a.Ranged) {digits : Nat} (hdigits : digits ≤ 15) :
    ∃ x : Binary64.Finite, a.toBinary64 = .finite x ∧
      (x.magnitude * Nat.pow 10 digits < overflow ↔
        a.units.natAbs * Nat.pow 10 digits < overflow) := by
  cases a with
  | int n =>
    have hn := ha n rfl
    obtain ⟨x, hx, hunits⟩ := Number.isWhole_toBinary64 hn
    refine ⟨x, hx, iff_of_true ?_ ?_⟩
    · rw [Binary64.Finite.magnitude_of_units hunits]
      exact Binary64.scaled_lt_overflow (Number.natAbs_rounded_le hn) hdigits
    · rw [Number.units, Int.natAbs_mul, Int.natAbs_natCast]
      have hle := Number.natAbs_le_of_inRange hn
      exact Binary64.scaled_lt_overflow (by omega) hdigits
  | float x =>
    refine ⟨x, rfl, ?_⟩
    rw [Number.units, Binary64.Finite.natAbs_units]

theorem exists_transform_toWhole (ha : a.Ranged) (hop : RoundsToWhole operand op)
    (stream : Random.Stream) :
    ∃ number, op.transform stream (some (.num a)) operand = .ok (.num number) := by
  obtain ⟨x, hx, -⟩ := exists_toBinary64 ha (Nat.zero_le 15)
  obtain ⟨f, hf, htransform⟩ := hop.exists_toWhole
  obtain ⟨y, hy⟩ := hf.exists_finite x
  rw [htransform a x stream hx, hy]
  exact ofResult_finite y

theorem exists_transform_abs (ha : a.Ranged) (stream : Random.Stream) :
    ∃ number, Numeric.abs.transform stream (some (.num a)) operand = .ok (.num number) := by
  obtain ⟨x, hx, -⟩ := exists_toBinary64 ha (Nat.zero_le 15)
  show ∃ number, change Binary64.abs (some (.num a)) = .ok (.num number)
  rw [change_num, hx]
  exact ofResult_finite x.abs

theorem transform_round (stream : Random.Stream) {x : Binary64.Finite}
    (hx : a.toBinary64 = .finite x) :
    Numeric.round.transform stream (some (.num a)) operand =
      ofResult (roundTo (roundDigits operand) (.finite x)) := by
  show change (roundTo (roundDigits operand)) (some (.num a)) = _
  rw [change_num, hx]

/-- Rounding to a whole number and the magnitude never fail on a stored number.  Rounding to
decimals fails exactly where the number, scaled by the power of ten, is beyond all finite doubles,
and then it blames a result that is infinite. -/
theorem transform_rounds (ha : a.Ranged) (operand : Value) (stream : Random.Stream) :
    (∀ op, RoundsToWhole operand op ∨ op = .abs →
      ∃ number, op.transform stream (some (.num a)) operand = .ok (.num number)) ∧
    (a.units.natAbs * Nat.pow 10 (roundDigits operand) < overflow →
      ∃ number, Numeric.round.transform stream (some (.num a)) operand = .ok (.num number)) ∧
    (overflow ≤ a.units.natAbs * Nat.pow 10 (roundDigits operand) →
      ∃ neg, Numeric.round.transform stream (some (.num a)) operand =
        .error (.notFinite (Decimal.plain (.infinite neg)))) := by
  have hdigits := roundDigits_le operand
  obtain ⟨x, hx, hscaled⟩ := exists_toBinary64 ha hdigits
  refine ⟨?_, fun hlt => ?_, fun hle => ?_⟩
  · rintro op (hop | rfl)
    · exact exists_transform_toWhole ha hop stream
    · exact exists_transform_abs ha stream
  · obtain ⟨y, hy⟩ := exists_roundTo hdigits (hscaled.mpr hlt)
    rw [transform_round stream hx, hy]
    exact ofResult_finite y
  · have hlarge := Nat.not_lt.mp (mt hscaled.mp (Nat.not_lt.mpr hle))
    rw [transform_round stream hx, roundTo_eq_infinite hdigits hlarge]
    exact ⟨x.neg, rfl⟩

/-- The double nearest to `10 ^ 300`. -/
def huge : Binary64.Finite := ⟨false, 0x17e43c8800759c, 2018, by decide⟩

/-- Scaled by `10 ^ 8` it is still finite. -/
theorem transform_rounds_huge :
    Ranged (.float huge) ∧
      (Number.float huge).units.natAbs * Nat.pow 10 (roundDigits (.int 8)) < overflow ∧
      ∃ number, Numeric.round.transform (.ofSeed 0) (some (.num (.float huge))) (.int 8) =
        .ok (.num number) := by
  have hranged : Ranged (.float huge) := Number.ranged_float huge
  have hscaled : (Number.float huge).units.natAbs * Nat.pow 10 (roundDigits (.int 8)) <
      overflow := by decide +kernel
  exact ⟨hranged, hscaled, (transform_rounds hranged (.int 8) (.ofSeed 0)).2.1 hscaled⟩

/-- Scaled by `10 ^ 9` it is infinite, though it is a whole number and has nothing to round. -/
theorem round_huge_rejected :
    (Number.float huge).toBinary64.isIntegral = true ∧
      Numeric.round.transform (.ofSeed 0) (some (.num (.float huge))) (.int 9) =
        .error (.notFinite "inf") := by
  have hscaled : overflow ≤ huge.magnitude * Nat.pow 10 (roundDigits (.int 9)) := by
    decide +kernel
  refine ⟨by decide +kernel, ?_⟩
  rw [transform_round (.ofSeed 0) (x := huge) rfl,
    roundTo_eq_infinite (roundDigits_le (.int 9)) hscaled]
  rfl

end Numeric
end Operator
end Amend
