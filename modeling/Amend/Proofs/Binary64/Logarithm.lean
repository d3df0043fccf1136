/-
Logarithms of doubles.  The logarithm of a machine is known up to a unit in the last place, and no
more than that is asked of one here.  A series in fixed point meets it with room to spare: a
positive double is `2 ^ k * y` with `1 ≤ y < 2`, so its logarithm is `k * ln 2 + ln y`, and `ln y`
is twice the inverse hyperbolic tangent of `(y - 1) / (y + 1)`, at most one third, whose power
series gains three bits a term.  With 256 fraction bits and 96 terms the series loses at most three
parts a term and half a part in its tail, so that the fixed-point logarithm is off by at most
`2 ^ 20` of its `2 ^ 256` parts, and the double nearest to that is the logarithm up to one part in
`2 ^ 52`.
-/
import Amend.Proofs.Binary64.Value
import Mathlib.Analysis.SpecialFunctions.Log.Deriv
import Mathlib.Analysis.Complex.ExponentialBounds

namespace Amend
namespace Binary64

open Finset

/-! ## Fixed point -/

/-- A whole quotient is the quotient, less than one below. -/
theorem cast_div_bounds (num : ℕ) {den : ℕ} (hden : 0 < den) :
    (num : ℝ) / den - 1 ≤ (num / den : ℕ) ∧ ((num / den : ℕ) : ℝ) ≤ num / den := by
  refine ⟨?_, Nat.cast_div_le⟩
  have hlt : (num : ℝ) < den * ((num / den : ℕ) + 1) := by
    exact_mod_cast Nat.lt_mul_div_succ num hden
  rw [sub_le_iff_le_add, div_le_iff₀ (Nat.cast_pos.mpr hden), mul_comm]
  exact hlt.le

namespace Logarithm

/-- One in fixed point. -/
abbrev unit : Nat := Nat.pow 2 256

/-- The sum of `z ^ (2 * i + 1) / (2 * i + 1)` for the `fuel` indices from `i` on, where
`power` is the first power and `square` is `z ^ 2`, all in fixed point. -/
def oddSeries (square : Nat) : Nat → Nat → Nat → Nat
  | 0, _, _ => 0
  | fuel + 1, i, power =>
    power / (2 * i + 1) + oddSeries square fuel (i + 1) (power * square / unit)

/-- The logarithm of `num / den`, at least one and at most two, in fixed point. -/
def ofMantissa (num den : Nat) : Nat :=
  let z := (num - den) * unit / (num + den)
  2 * oddSeries (z * z / unit) 96 0 z

/-- The logarithm of two in fixed point. -/
def two : Nat := ofMantissa 2 1

/-- The logarithm of a positive number of units in fixed point. -/
def ofUnits (magnitude : Nat) : Int :=
  let bits := magnitude.log2
  ((bits : Int) - 1074) * two + ofMantissa magnitude (Nat.pow 2 bits)

/-- The parts of one in fixed point. -/
noncomputable def parts : ℝ := 2 ^ 256

theorem parts_pos : 0 < parts := by
  unfold parts
  positivity

theorem cast_unit : ((unit : ℕ) : ℝ) = parts := by
  rw [unit, Nat.pow_eq, Nat.cast_pow, Nat.cast_ofNat, parts]

theorem unit_pos : 0 < unit := two_pow_pos 256

/-- A fixed-point number that is at most `loss` parts below a value. -/
def Below (loss : ℝ) (fixed : ℕ) (value : ℝ) : Prop :=
  parts * value - loss ≤ fixed ∧ (fixed : ℝ) ≤ parts * value

section

variable {a b v w : ℝ} {p q : ℕ}

theorem Below.mono (hp : Below a p v) (h : a ≤ b) : Below b p v :=
  ⟨(sub_le_sub_left h _).trans hp.1, hp.2⟩

theorem Below.nonneg (hp : Below a p v) : 0 ≤ v :=
  nonneg_of_mul_nonneg_right ((Nat.cast_nonneg p).trans hp.2) parts_pos

theorem Below.abs_sub_le (hp : Below a p v) (ha : 0 ≤ a) : |(p : ℝ) - parts * v| ≤ a := by
  obtain ⟨hlow, hhigh⟩ := hp
  rw [abs_le]
  constructor <;> linarith

/-- Each factor loses as much of the product as the other is large, and cutting off loses one. -/
theorem Below.mul (hp : Below a p v) (hq : Below b q w) (hb : 0 ≤ b) :
    Below (a * w + b * v + 1) (p * q / unit) (v * w) := by
  have hparts := parts_pos
  have hv := hp.nonneg
  have hw := hq.nonneg
  obtain ⟨hplow, hphigh⟩ := hp
  obtain ⟨hqlow, hqhigh⟩ := hq
  obtain ⟨hlow, hhigh⟩ := cast_div_bounds (p * q) unit_pos
  rw [Nat.cast_mul, cast_unit] at hlow hhigh
  unfold Below
  generalize p * q / unit = s at hlow hhigh ⊢
  generalize parts = u at *
  have hp0 : (0 : ℝ) ≤ p := Nat.cast_nonneg p
  have hq0 : (0 : ℝ) ≤ q := Nat.cast_nonneg q
  constructor
  · have hfirst : (u * v - p) * (u * w) ≤ a * (u * w) :=
      mul_le_mul_of_nonneg_right (by linarith) (hq0.trans hqhigh)
    have hsecond : p * (u * w - q) ≤ u * v * b :=
      (mul_le_mul_of_nonneg_left (by linarith) hp0).trans (mul_le_mul_of_nonneg_right hphigh hb)
    have hloss : (u * (v * w) - (a * w + b * v)) * u ≤ p * q := by linarith
    have hdiv : u * (v * w) - (a * w + b * v) ≤ (p * q : ℝ) / u := (le_div_iff₀ hparts).mpr hloss
    linarith
  · refine hhigh.trans ?_
    rw [div_le_iff₀ hparts]
    calc (p : ℝ) * q ≤ (u * v) * (u * w) := mul_le_mul hphigh hqhigh hq0 (hp0.trans hphigh)
      _ = u * (v * w) * u := by ring

theorem Below.div (hp : Below a p v) (ha : 0 ≤ a) {k : ℕ} (hk : 1 ≤ k) :
    Below (a + 1) (p / k) (v / k) := by
  have hk' : (1 : ℝ) ≤ k := Nat.one_le_cast.mpr hk
  obtain ⟨hlow, hhigh⟩ := cast_div_bounds p hk
  constructor
  · have hloss : a / k ≤ a := div_le_self ha hk'
    have hle : (parts * v - a) / k ≤ p / k := div_le_div_of_nonneg_right hp.1 (by linarith)
    rw [sub_div, mul_div_assoc] at hle
    linarith
  · rw [← mul_div_assoc]
    exact hhigh.trans (div_le_div_of_nonneg_right hp.2 (by linarith))

theorem Below.add (hp : Below a p v) (hq : Below b q w) : Below (a + b) (p + q) (v + w) := by
  obtain ⟨hplow, hphigh⟩ := hp
  obtain ⟨hqlow, hqhigh⟩ := hq
  unfold Below
  rw [Nat.cast_add, mul_add]
  constructor <;> linarith

end

/-! ## The series -/

variable {x : ℝ}

/-- The terms of the series of the inverse hyperbolic tangent from an index on. -/
noncomputable def tail (x : ℝ) (fuel i : ℕ) : ℝ :=
  ∑ j ∈ range fuel, x ^ (2 * (i + j) + 1) / (2 * (i + j : ℕ) + 1)

theorem tail_succ (x : ℝ) (fuel i : ℕ) :
    tail x (fuel + 1) i = x ^ (2 * i + 1) / (2 * i + 1 : ℕ) + tail x fuel (i + 1) := by
  unfold tail
  rw [sum_range_succ', add_comm]
  congr 1
  · simp
  · refine sum_congr rfl fun j _ => ?_
    rw [show i + (j + 1) = i + 1 + j by omega]

/-- Each term loses three parts at most, two with its power and one with its division. -/
theorem below_oddSeries {square : ℕ} (hx0 : 0 ≤ x) (hx : x ≤ 1 / 3)
    (hsquare : Below 2 square (x ^ 2)) (fuel : ℕ) :
    ∀ i power : ℕ, Below 2 power (x ^ (2 * i + 1)) →
      Below (3 * fuel) (oddSeries square fuel i power) (tail x fuel i) := by
  induction fuel with
  | zero =>
    intro i power _
    simp [oddSeries, tail, Below]
  | succ fuel ih =>
    intro i power hpower
    have hpow : x ^ (2 * i + 1) ≤ x := pow_le_of_le_one hx0 (by linarith) (by omega)
    have hnext : Below 2 (power * square / unit) (x ^ (2 * (i + 1) + 1)) := by
      have hmul := hpower.mul hsquare (by norm_num)
      rw [← pow_add] at hmul
      refine hmul.mono ?_
      nlinarith
    have hterm := hpower.div (by norm_num) (k := 2 * i + 1) (by omega)
    rw [tail_succ]
    refine (hterm.add (ih (i + 1) _ hnext)).mono ?_
    push_cast
    linarith

/-- What the series leaves out after 96 terms is less than half a part. -/
theorem parts_mul_rest_le (hx0 : 0 ≤ x) (hx : x ≤ 1 / 3) :
    parts * (x ^ 193 / (1 - x ^ 2)) ≤ 1 / 2 := by
  have hpow : x ^ 193 ≤ (1 / 3) ^ 193 := pow_le_pow_left₀ hx0 hx 193
  have hsquare : 8 / 9 ≤ 1 - x ^ 2 := by nlinarith
  have hrest : x ^ 193 / (1 - x ^ 2) ≤ (1 / 3) ^ 193 / (8 / 9) :=
    div_le_div₀ (by positivity) hpow (by norm_num) hsquare
  calc parts * (x ^ 193 / (1 - x ^ 2)) ≤ parts * ((1 / 3) ^ 193 / (8 / 9)) :=
        mul_le_mul_of_nonneg_left hrest parts_pos.le
    _ ≤ 1 / 2 := by
        unfold parts
        norm_num

/-- The logarithm is twice the inverse hyperbolic tangent of a smaller number. -/
theorem log_div_eq {num den : ℝ} (hden : 0 < den) (hnum : 0 < num) :
    (1 + (num - den) / (num + den)) / (1 - (num - den) / (num + den)) = num / den := by
  have hsum : num + den ≠ 0 := by linarith
  have hplus : 1 + (num - den) / (num + den) = 2 * num / (num + den) := by
    rw [eq_div_iff hsum, add_mul, div_mul_cancel₀ _ hsum]
    ring
  have hminus : 1 - (num - den) / (num + den) = 2 * den / (num + den) := by
    rw [eq_div_iff hsum, sub_mul, div_mul_cancel₀ _ hsum]
    ring
  rw [hplus, hminus, div_div_div_cancel_right₀ hsum, mul_div_mul_left _ _ two_ne_zero]

/-- The logarithm of a fraction from one to two, by the series with 96 terms. -/
theorem below_ofMantissa {num den : ℕ} (hden : 0 < den) (hle : den ≤ num) (htwice : num ≤ 2 * den) :
    Below 577 (ofMantissa num den) (Real.log (num / den)) := by
  have hden' : (0 : ℝ) < den := Nat.cast_pos.mpr hden
  have hle' : (den : ℝ) ≤ num := Nat.cast_le.mpr hle
  have htwice' : (num : ℝ) ≤ 2 * den := by exact_mod_cast htwice
  obtain ⟨x, hx⟩ : ∃ x : ℝ, x = (num - den) / (num + den) := ⟨_, rfl⟩
  obtain ⟨z, hz⟩ : ∃ z, z = (num - den) * unit / (num + den) := ⟨_, rfl⟩
  have hx0 : 0 ≤ x := by
    rw [hx]
    exact div_nonneg (by linarith) (by linarith)
  have hx3 : x ≤ 1 / 3 := by
    rw [hx, div_le_div_iff₀ (by linarith) (by norm_num)]
    linarith
  have hlog : (1 + x) / (1 - x) = num / den := by
    rw [hx]
    exact log_div_eq hden' (by linarith)
  have hfirst : Below 1 z x := by
    obtain ⟨hlow, hhigh⟩ := cast_div_bounds ((num - den) * unit) (show 0 < num + den by omega)
    rw [Nat.cast_mul, Nat.cast_sub hle, Nat.cast_add, cast_unit, ← hz] at hlow hhigh
    rw [Below, hx, mul_div_assoc', mul_comm parts]
    exact ⟨hlow, hhigh⟩
  have hsquare : Below 2 (z * z / unit) (x ^ 2) := by
    rw [sq]
    exact (hfirst.mul hfirst (by norm_num)).mono (by linarith)
  have hpower : Below 2 z (x ^ (2 * 0 + 1)) := by
    rw [mul_zero, zero_add, pow_one]
    exact hfirst.mono (by norm_num)
  have hseries : Below 288 (oddSeries (z * z / unit) 96 0 z) (tail x 96 0) :=
    (below_oddSeries hx0 hx3 hsquare 96 0 z hpower).mono (by norm_num)
  have hlower : tail x 96 0 ≤ 1 / 2 * Real.log (num / den) := by
    rw [← hlog]
    simpa [tail] using Real.sum_range_le_log_div hx0 (by linarith) 96
  have hupper : 1 / 2 * Real.log (num / den) ≤ tail x 96 0 + x ^ 193 / (1 - x ^ 2) := by
    rw [← hlog]
    simpa [tail] using Real.log_div_le_sum_range_add hx0 (by linarith) 96
  have hmantissa : ofMantissa num den = 2 * oddSeries (z * z / unit) 96 0 z := by
    rw [hz, ofMantissa]
  obtain ⟨hlow, hhigh⟩ := hseries
  have hbelow := mul_le_mul_of_nonneg_left hlower parts_pos.le
  have habove := mul_le_mul_of_nonneg_left hupper parts_pos.le
  have hrest := parts_mul_rest_le hx0 hx3
  rw [mul_add] at habove
  rw [Below, hmantissa, Nat.cast_mul, Nat.cast_ofNat]
  constructor <;> linarith

/-! ## Doubles -/

theorem log_cast_one : Real.log (one : ℕ) = 1074 * Real.log 2 := by
  obtain ⟨k, hk, hone⟩ := exists_one_eq
  rw [hone, cast_two_pow, Real.log_pow, hk, Nat.cast_ofNat]

/-- Counted in ones, a magnitude is a fraction from one to two, times a power of two. -/
theorem log_units {m : ℕ} (hm : 0 < m) :
    Real.log (m / (one : ℕ)) =
      ((m.log2 : ℝ) - 1074) * Real.log 2 + Real.log (m / (Nat.pow 2 m.log2 : ℕ)) := by
  have hm' : (m : ℝ) ≠ 0 := Nat.cast_ne_zero.mpr (by omega)
  rw [Real.log_div hm' cast_one_pos.ne', log_cast_one, cast_two_pow,
    Real.log_div hm' (by positivity), Real.log_pow]
  ring

theorem abs_ofUnits_sub_le {m : ℕ} (hm : 0 < m) (hlt : m < beyond) :
    |(ofUnits m : ℝ) - parts * Real.log (m / (one : ℕ))| ≤ 2 ^ 20 := by
  obtain ⟨j, hj, hbeyond⟩ := exists_beyond_eq
  have hbits : m.log2 < j := by
    rw [hbeyond] at hlt
    exact (Nat.log2_lt (by omega)).mpr hlt
  have htwo : Below 577 two (Real.log 2) := by
    have hbelow : Below 577 two (Real.log ((2 : ℕ) / (1 : ℕ))) :=
      below_ofMantissa (by norm_num) (by norm_num) (by norm_num)
    rwa [Nat.cast_ofNat, Nat.cast_one, div_one] at hbelow
  have hupper : m < 2 * Nat.pow 2 m.log2 := by
    have hself : m < Nat.pow 2 (m.log2 + 1) := Nat.lt_log2_self
    rwa [Nat.add_comm, two_pow_add, Nat.mul_comm] at hself
  have hmantissa : Below 577 (ofMantissa m (Nat.pow 2 m.log2))
      (Real.log (m / (Nat.pow 2 m.log2 : ℕ))) :=
    below_ofMantissa (two_pow_pos _) (Nat.log2_self_le (by omega)) hupper.le
  have hunits : (ofUnits m : ℝ) =
      ((m.log2 : ℝ) - 1074) * (two : ℕ) + (ofMantissa m (Nat.pow 2 m.log2) : ℕ) := by
    rw [ofUnits]
    push_cast
    rfl
  have hexponent : |(m.log2 : ℝ) - 1074| ≤ 1074 := by
    have hlog : (m.log2 : ℝ) ≤ 2098 := by exact_mod_cast (show m.log2 ≤ 2098 by omega)
    have hlog0 : (0 : ℝ) ≤ m.log2 := Nat.cast_nonneg _
    rw [abs_le]
    constructor <;> linarith
  have hsplit : (ofUnits m : ℝ) - parts * Real.log (m / (one : ℕ)) =
      ((m.log2 : ℝ) - 1074) * ((two : ℕ) - parts * Real.log 2) +
        ((ofMantissa m (Nat.pow 2 m.log2) : ℕ) -
          parts * Real.log (m / (Nat.pow 2 m.log2 : ℕ))) := by
    rw [hunits, log_units hm]
    ring
  rw [hsplit]
  calc _ ≤ |(m.log2 : ℝ) - 1074| * |(two : ℕ) - parts * Real.log 2| +
        |(ofMantissa m (Nat.pow 2 m.log2) : ℕ) -
          parts * Real.log (m / (Nat.pow 2 m.log2 : ℕ))| := by
        rw [← abs_mul]
        exact abs_add_le _ _
    _ ≤ 1074 * 577 + 577 := by
        gcongr
        · exact htwo.abs_sub_le (by norm_num)
        · exact hmantissa.abs_sub_le (by norm_num)
    _ ≤ 2 ^ 20 := by norm_num

end Logarithm

/-! ## The logarithm as a double -/

namespace Finite

/-- A positive double that is not one is at least `2 ^ -53` away from it. -/
theorem one_le_natAbs_sub_one {x : Finite} (h : x.magnitude ≠ one) :
    one ≤ ((x.magnitude : ℤ) - one).natAbs * 0x20000000000000 := by
  obtain ⟨hmant, -, -⟩ := x.canonical
  obtain ⟨k, hk, hone⟩ := exists_one_eq
  have hsplit : one = 0x20000000000000 * Nat.pow 2 (k - 53) := by
    rw [hone, show k = k - 53 + 53 by omega, two_pow_add]
    rfl
  by_cases hshift : k - 53 ≤ x.shift
  · have hdvd : Nat.pow 2 (k - 53) ∣ ((x.magnitude : ℤ) - one).natAbs := by
      refine Int.natCast_dvd.mp (Int.dvd_sub ?_ ?_)
      · exact Int.natCast_dvd_natCast.mpr
          (Nat.dvd_mul_left_of_dvd (Nat.pow_dvd_pow 2 hshift) x.mant)
      · rw [hsplit]
        exact Int.natCast_dvd_natCast.mpr (Nat.dvd_mul_left _ _)
    have hle := Nat.le_of_dvd (by omega) hdvd
    calc one = Nat.pow 2 (k - 53) * 0x20000000000000 := hsplit.trans (Nat.mul_comm _ _)
      _ ≤ _ := Nat.mul_le_mul_right _ hle
  · have hpow : Nat.pow 2 x.shift * 2 ≤ Nat.pow 2 (k - 53) :=
      Nat.pow_le_pow_right Nat.two_pos (show x.shift + 1 ≤ k - 53 by omega)
    have hhalf : x.magnitude * 2 ≤ one := by
      rw [hsplit, magnitude, Nat.mul_assoc]
      exact Nat.mul_le_mul hmant.le hpow
    have hpos := one_pos
    clear hsplit hone
    generalize one = u at *
    omega

theorem le_abs_real_sub_one {x : Finite} (hneg : x.neg = false) (h : x.magnitude ≠ one) :
    1 / 2 ^ 53 ≤ |x.real - 1| := by
  have hreal := x.abs_real_sub 1
  rw [Int.cast_one, Int.one_mul, units, if_neg (by rw [hneg]; exact Bool.false_ne_true)] at hreal
  rw [hreal, div_le_div_iff₀ (by positivity) cast_one_pos, one_mul,
    show (2 : ℝ) ^ 53 = (0x20000000000000 : ℕ) by norm_num, ← Nat.cast_mul]
  exact Nat.cast_le.mpr (one_le_natAbs_sub_one h)

end Finite

namespace Logarithm

theorem ofUnits_one : ofUnits one = 0 := by
  obtain ⟨k, hk, hone⟩ := exists_one_eq
  have hlog : one.log2 = 1074 := by rw [hone, ← hk]; exact Nat.log2_two_pow
  have hpow : Nat.pow 2 one.log2 = one := by rw [hlog, ← hk, ← hone]
  have hzero : ofMantissa one one = 0 := by
    have hbelow := (below_ofMantissa one_pos le_rfl (Nat.le_mul_of_pos_left one two_pos)).2
    rw [div_self cast_one_pos.ne', Real.log_one, mul_zero] at hbelow
    exact_mod_cast hbelow.antisymm (Nat.cast_nonneg _)
  simp only [ofUnits]
  rw [hpow, hzero, hlog]
  rfl

theorem abs_log_le {m : ℕ} (hm : 0 < m) (hlt : m < beyond) : |Real.log (m / (one : ℕ))| ≤ 2098 := by
  obtain ⟨j, hj, hbeyond⟩ := exists_beyond_eq
  have hm' : (1 : ℝ) ≤ m := Nat.one_le_cast.mpr hm
  have htwo : 0 < Real.log 2 := Real.log_pos one_lt_two
  have htwo' : Real.log 2 < 1 := Real.log_two_lt_d9.trans (by norm_num)
  have hlow : 0 ≤ Real.log m := Real.log_nonneg hm'
  have hhigh : Real.log m ≤ 2098 * Real.log 2 := by
    have hle : (m : ℝ) ≤ 2 ^ j := by
      rw [← cast_two_pow, ← hbeyond]
      exact Nat.cast_le.mpr hlt.le
    have hlog := Real.log_le_log (by linarith) hle
    rwa [Real.log_pow, hj, Nat.cast_ofNat] at hlog
  rw [Real.log_div (by linarith) cast_one_pos.ne', log_cast_one, abs_le]
  constructor <;> linarith

theorem log2_ofUnits_le {m : ℕ} (hm : 0 < m) (hlt : m < beyond) :
    (ofUnits m).natAbs.log2 ≤ 1022 := by
  have hparts := parts_pos
  have hloss := abs_ofUnits_sub_le hm hlt
  have hlarge := mul_le_mul_of_nonneg_left (abs_log_le hm hlt) hparts.le
  rw [← abs_of_pos hparts, ← abs_mul, abs_of_pos hparts] at hlarge
  have hsmall : (2 : ℝ) ^ 20 ≤ parts := pow_le_pow_right₀ one_le_two (by norm_num)
  have htriangle := abs_sub_abs_le_abs_sub (ofUnits m : ℝ) (parts * Real.log (m / (one : ℕ)))
  have hle : ((ofUnits m).natAbs : ℝ) ≤ (unit * 4096 : ℕ) := by
    rw [Nat.cast_natAbs, Int.cast_abs, Nat.cast_mul, cast_unit]
    push_cast
    linarith
  exact (log2_mono (Nat.cast_le.mp hle)).trans (by decide)

theorem abs_ofUnits_div_sub_le {m : ℕ} (hm : 0 < m) (hlt : m < beyond) :
    |(ofUnits m : ℝ) / parts - Real.log (m / (one : ℕ))| ≤ 1 / 2 ^ 200 := by
  have hparts := parts_pos
  have hsplit : (ofUnits m : ℝ) / parts - Real.log (m / (one : ℕ)) =
      (ofUnits m - parts * Real.log (m / (one : ℕ))) / parts := by
    rw [sub_div, mul_div_cancel_left₀ _ hparts.ne']
  rw [hsplit, abs_div, abs_of_pos hparts, div_le_div_iff₀ hparts (by positivity), one_mul]
  calc _ ≤ (2 : ℝ) ^ 20 * 2 ^ 200 :=
        mul_le_mul_of_nonneg_right (abs_ofUnits_sub_le hm hlt) (by positivity)
    _ ≤ parts := by
        unfold parts
        norm_num

/-- Away from one the logarithm is not small. -/
theorem le_abs_log {t d : ℝ} (ht : 0 < t) (hd0 : 0 < d) (hd1 : d ≤ 1) (h : d ≤ |t - 1|) :
    d / 2 ≤ |Real.log t| := by
  rcases le_or_gt 1 t with hle | hlt
  · rw [abs_of_nonneg (by linarith)] at h
    have hlog := Real.one_sub_inv_le_log_of_pos (show 0 < 1 + d by linarith)
    have hmono := Real.log_le_log (show 0 < 1 + d by linarith) (show 1 + d ≤ t by linarith)
    have hhalf : d / 2 ≤ 1 - (1 + d)⁻¹ := by
      have hinv : (1 + d)⁻¹ ≤ 1 - d / 2 := by
        rw [inv_le_iff_one_le_mul₀ (by linarith)]
        nlinarith
      linarith
    exact (hhalf.trans (hlog.trans hmono)).trans (le_abs_self _)
  · rw [abs_of_neg (by linarith)] at h
    have hlog := Real.log_le_sub_one_of_pos ht
    have hneg := neg_le_abs (Real.log t)
    linarith

end Logarithm

open Logarithm

/-- The double nearest to the logarithm in fixed point. -/
def nearestLog : Binary64 → Binary64
  | .finite x =>
    if x.isZero then .infinite true
    else if x.neg then .nan
    else
      let fixed := ofUnits x.magnitude
      ofRatio (decide (fixed < 0)) fixed.natAbs unit
  | .infinite false => .infinite false
  | _ => .nan

theorem nearestLog_finite {x : Finite} (hpos : 0 < x.real) :
    nearestLog (.finite x) =
      ofRatio (decide (ofUnits x.magnitude < 0)) (ofUnits x.magnitude).natAbs unit := by
  have hneg := Finite.neg_of_real_pos hpos
  simp only [nearestLog]
  rw [if_neg (Finite.not_isZero_of_real_pos hpos), if_neg (by rw [hneg]; exact Bool.false_ne_true)]

/-- The logarithm of a positive double, up to one part in `2 ^ 52`. -/
theorem exists_nearestLog {x : Finite} (hpos : 0 < x.real) :
    ∃ r : Finite, nearestLog (.finite x) = .finite r ∧
      |r.real - Real.log x.real| ≤ |Real.log x.real| / 2 ^ 52 := by
  have hneg := Finite.neg_of_real_pos hpos
  have hmagnitude : 0 < x.magnitude := by
    rw [Finite.real_eq hneg] at hpos
    exact_mod_cast (div_pos_iff_of_pos_right cast_one_pos).mp hpos
  have hlt := magnitude_lt_beyond x
  obtain ⟨r, hr, herror⟩ :=
    exists_ofRatio (ofUnits x.magnitude) (s := 256) (by norm_num) (log2_ofUnits_le hmagnitude hlt)
  refine ⟨r, (nearestLog_finite hpos).trans hr, ?_⟩
  rw [← parts] at herror
  by_cases hone : x.magnitude = one
  · -- The logarithm of one is exact, where no bound on the loss is small enough.
    have hreal : x.real = 1 := by
      rw [Finite.real_eq hneg, hone, div_self cast_one_pos.ne']
    rw [hone, ofUnits_one, Int.cast_zero, zero_div, abs_zero, zero_div] at herror
    rwa [hreal, Real.log_one, abs_zero, zero_div]
  · have haway := le_abs_log hpos (by positivity) (by norm_num)
      (Finite.le_abs_real_sub_one hneg hone)
    have hclose := abs_ofUnits_div_sub_le hmagnitude hlt
    rw [← Finite.real_eq hneg] at hclose
    have htriangle := abs_sub_abs_le_abs_sub ((ofUnits x.magnitude : ℝ) / parts) (Real.log x.real)
    have hsum := abs_sub_le r.real ((ofUnits x.magnitude : ℝ) / parts) (Real.log x.real)
    linarith

/-! ## Logarithms up to a unit in the last place -/

/-- A function that gives the logarithm of each positive double up to one unit in the last place,
of the double that it gives or of the logarithm itself: on a power of two the two units differ. -/
def AccurateLog (ln : Binary64 → Binary64) : Prop :=
  ∀ x : Finite, 0 < x.real → ∃ r : Finite, ln (.finite x) = .finite r ∧
    |r.real - Real.log x.real| ≤ max r.lastUnit (|Real.log x.real| / 2 ^ 52)

theorem accurateLog_nearestLog : AccurateLog nearestLog := by
  intro x hpos
  obtain ⟨r, hr, herror⟩ := exists_nearestLog hpos
  exact ⟨r, hr, herror.trans (le_max_right _ _)⟩

/-- A unit in the last place is at most one part in `2 ^ 51`, but for the smallest double. -/
theorem AccurateLog.exists_log {ln : Binary64 → Binary64} (hln : AccurateLog ln) {x : Finite}
    (hpos : 0 < x.real) :
    ∃ r : Finite, ln (.finite x) = .finite r ∧
      |r.real - Real.log x.real| ≤ |Real.log x.real| / 2 ^ 51 + 2 / (one : ℕ) := by
  obtain ⟨r, hr, herror⟩ := hln x hpos
  refine ⟨r, hr, ?_⟩
  have hunit := r.lastUnit_le
  have hsmallest : 0 < 1 / ((one : ℕ) : ℝ) := one_div_pos.mpr cast_one_pos
  have hlog := abs_nonneg (Real.log x.real)
  have htwo : 2 / ((one : ℕ) : ℝ) = 2 * (1 / (one : ℕ)) := by ring
  have htriangle := abs_sub_abs_le_abs_sub r.real (Real.log x.real)
  rw [htwo]
  rcases le_max_iff.mp herror with hle | hle <;> linarith

end Binary64
end Amend
