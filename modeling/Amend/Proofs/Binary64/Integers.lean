/-
Integers as doubles.  The double nearest to an integer stands at the nearest multiple of the
distance that doubles have there, which is one up to 53 bits and doubles with every further bit.
A sum, a difference or a product of doubles that are whole numbers is the exact integer, rounded
once in the same way.
-/
import Amend.Binary64.Arithmetic
import Amend.Proofs.Binary64.Rounding

namespace Amend
namespace Binary64

/-- The distance between the doubles around a whole number, at least one. -/
def spacing (n : Nat) : Nat := Nat.pow 2 (n.log2 - 52)

/-- The multiple of the spacing nearest to a whole number, a tie going to the even one. -/
def nearestWhole (n : Nat) : Nat := roundHalfEven n (spacing n) * spacing n

/-- The integer that the double nearest to an integer is. -/
def rounded (n : Int) : Int := n.sign * nearestWhole n.natAbs

theorem spacing_pos (n : Nat) : 0 < spacing n := Nat.two_pow_pos _

theorem nearestWhole_le {n bound : Nat} (hdvd : spacing n ∣ bound) (h : n ≤ bound) :
    nearestWhole n ≤ bound := by
  obtain ⟨whole, rfl⟩ := hdvd
  rw [Nat.mul_comm] at h ⊢
  exact Nat.mul_le_mul_right _ (roundHalfEven_le (spacing_pos n) h)

theorem le_nearestWhole {n bound : Nat} (hdvd : spacing n ∣ bound) (h : bound ≤ n) :
    bound ≤ nearestWhole n := by
  obtain ⟨whole, rfl⟩ := hdvd
  rw [Nat.mul_comm] at h ⊢
  exact Nat.mul_le_mul_right _ (le_roundHalfEven (spacing_pos n) h)

theorem nearestWhole_of_dvd {n : Nat} (h : spacing n ∣ n) : nearestWhole n = n :=
  Nat.le_antisymm (nearestWhole_le h (Nat.le_refl n)) (le_nearestWhole h (Nat.le_refl n))

/-- Up to `2 ^ 53` every whole number is a double. -/
theorem nearestWhole_of_le {n : Nat} (h : n ≤ 0x20000000000000) : nearestWhole n = n := by
  refine nearestWhole_of_dvd ?_
  by_cases htop : n = 0x20000000000000
  · rw [htop]
    decide
  · by_cases hzero : n = 0
    · rw [hzero]
      decide
    · have hlog : n.log2 < 53 := (Nat.log2_lt hzero).mpr (by omega)
      have hone : spacing n = 1 := by
        unfold spacing
        rw [show n.log2 - 52 = 0 by omega]
      rw [hone]
      exact Nat.one_dvd n

theorem log2_mono {m n : Nat} (h : m ≤ n) : m.log2 ≤ n.log2 := by
  by_cases hzero : m = 0
  · rw [hzero, Nat.log2_zero]
    exact Nat.zero_le _
  · exact (Nat.le_log2 (by omega)).mpr (Nat.le_trans (Nat.log2_self_le hzero) h)

theorem nearestWhole_mono {m n : Nat} (h : m ≤ n) : nearestWhole m ≤ nearestWhole n := by
  by_cases hzero : m = 0
  · rw [hzero, nearestWhole_of_le (Nat.zero_le _)]
    exact Nat.zero_le _
  · have hlog := log2_mono h
    by_cases hsame : m.log2 = n.log2
    · have hspacing : spacing m = spacing n := by
        unfold spacing
        rw [hsame]
      unfold nearestWhole
      rw [hspacing]
      exact Nat.mul_le_mul_right _ (roundHalfEven_mono h _)
    · -- A power of two lies between the two, and neither rounding passes it.
      have hbelow : nearestWhole m ≤ Nat.pow 2 (m.log2 + 1) :=
        nearestWhole_le (Nat.pow_dvd_pow 2 (by omega)) (Nat.le_of_lt Nat.lt_log2_self)
      have hbetween : Nat.pow 2 (m.log2 + 1) ≤ Nat.pow 2 n.log2 :=
        Nat.pow_le_pow_right Nat.two_pos (by omega)
      have habove : Nat.pow 2 n.log2 ≤ nearestWhole n :=
        le_nearestWhole (Nat.pow_dvd_pow 2 (by omega)) (Nat.log2_self_le (by omega))
      omega

theorem rounded_of_nonneg {n : Int} (h : 0 ≤ n) : rounded n = nearestWhole n.natAbs := by
  unfold rounded
  by_cases hzero : n = 0
  · rw [hzero]
    rfl
  · rw [Int.sign_eq_one_of_pos (by omega), Int.one_mul]

theorem rounded_of_nonpos {n : Int} (h : n ≤ 0) : rounded n = -nearestWhole n.natAbs := by
  unfold rounded
  by_cases hzero : n = 0
  · rw [hzero]
    rfl
  · rw [Int.sign_eq_neg_one_of_neg (by omega), Int.neg_mul, Int.one_mul]

theorem natAbs_rounded (n : Int) : (rounded n).natAbs = nearestWhole n.natAbs := by
  by_cases hneg : n ≤ 0
  · rw [rounded_of_nonpos hneg, Int.natAbs_neg, Int.natAbs_natCast]
  · rw [rounded_of_nonneg (by omega), Int.natAbs_natCast]

theorem natAbs_rounded_le {n : Int} {bound : Nat} (h : n.natAbs ≤ bound) :
    (rounded n).natAbs ≤ nearestWhole bound := by
  rw [natAbs_rounded]
  exact nearestWhole_mono h

theorem rounded_of_le {n : Int} (h : n.natAbs ≤ 0x20000000000000) : rounded n = n := by
  rw [rounded, nearestWhole_of_le h, Int.sign_mul_natAbs]

theorem rounded_mono {m n : Int} (h : m ≤ n) : rounded m ≤ rounded n := by
  by_cases hm : 0 ≤ m
  · have hmono := nearestWhole_mono (m := m.natAbs) (n := n.natAbs) (by omega)
    rw [rounded_of_nonneg hm, rounded_of_nonneg (by omega)]
    omega
  · rw [rounded_of_nonpos (by omega)]
    by_cases hn : 0 ≤ n
    · rw [rounded_of_nonneg hn]
      omega
    · have hmono := nearestWhole_mono (m := n.natAbs) (n := m.natAbs) (by omega)
      rw [rounded_of_nonpos (by omega)]
      omega

/-- Rounding does not cross an integer that stays what it is. -/
theorem le_rounded {m n : Int} (hm : m.natAbs ≤ 0x20000000000000) (h : m ≤ n) : m ≤ rounded n :=
  Int.le_trans (Int.le_of_eq (rounded_of_le hm).symm) (rounded_mono h)

theorem rounded_le {m n : Int} (hn : n.natAbs ≤ 0x20000000000000) (h : m ≤ n) : rounded m ≤ n :=
  Int.le_trans (rounded_mono h) (Int.le_of_eq (rounded_of_le hn))

/-! ## Doubles that are whole numbers -/

/-- A double is finite and stands at an integer. -/
def IsWhole (d : Binary64) (n : Int) : Prop := ∃ x, d = .finite x ∧ x.units = n * one

theorem isWhole_zero : zero.IsWhole 0 := ⟨.zero, rfl, by rw [Int.zero_mul]; rfl⟩

/-- The exponent of one, apart from its power, which is too large to be evaluated. -/
theorem exists_one_eq : ∃ k, k = 1074 ∧ one = Nat.pow 2 k := by
  unfold one
  generalize 1074 = k
  exact ⟨k, rfl, rfl⟩

theorem one_pos : 0 < one := by
  obtain ⟨k, -, hone⟩ := exists_one_eq
  rw [hone]
  exact two_pow_pos k

theorem one_ne_zero : (one : Int) ≠ 0 := Int.ne_of_gt (Int.natCast_pos.mpr one_pos)

theorem Finite.natAbs_units (x : Finite) : x.units.natAbs = x.magnitude := by
  unfold units
  split
  · rw [Int.natAbs_neg, Int.natAbs_natCast]
  · rw [Int.natAbs_natCast]

theorem Finite.magnitude_of_units {x : Finite} {n : Int} (h : x.units = n * one) :
    x.magnitude = n.natAbs * one := by
  rw [← natAbs_units, h, Int.natAbs_mul, Int.natAbs_natCast]

theorem Finite.isIntegral_iff {x : Finite} :
    x.isIntegral = true ↔ ∃ n : Int, x.units = n * one := by
  unfold isIntegral
  rw [beq_iff_eq, ← Nat.dvd_iff_mod_eq_zero]
  constructor
  · intro hdvd
    have hunits : (one : Int) ∣ x.units := by
      rwa [Int.ofNat_dvd_left, natAbs_units]
    obtain ⟨n, hn⟩ := hunits
    exact ⟨n, by rw [hn, Int.mul_comm]⟩
  · rintro ⟨n, hn⟩
    rw [magnitude_of_units hn]
    exact Nat.dvd_mul_left _ _

theorem isIntegral_of_isWhole {d : Binary64} {n : Int} (h : d.IsWhole n) : d.isIntegral = true := by
  obtain ⟨x, rfl, hx⟩ := h
  exact Finite.isIntegral_iff.mpr ⟨n, hx⟩

theorem Finite.toInt_of_units {x : Finite} {n : Int} (h : x.units = n * one) : x.toInt = n := by
  rw [toInt, h, Int.mul_tdiv_cancel n one_ne_zero]

/-- A double that is a whole number has its sign, or is a zero. -/
theorem Finite.sign_of_units {x : Finite} {n : Int} (h : x.units = n * one) :
    if x.neg then n ≤ 0 else 0 ≤ n := by
  have hone : (0 : Int) < one := Int.natCast_pos.mpr one_pos
  unfold units at h
  split at h
  · next hneg =>
    rw [if_pos hneg]
    refine Int.not_lt.mp fun hpos => ?_
    have hmul : 0 < n * one := Int.mul_pos hpos hone
    omega
  · next hneg =>
    rw [if_neg hneg]
    refine Int.not_lt.mp fun hlt => ?_
    have hmul : n * one < 0 := Int.mul_neg_of_neg_of_pos hlt hone
    omega

theorem Finite.not_isZero_of_units {x : Finite} {n : Int} (h : x.units = n * one) (hn : n ≠ 0) :
    x.isZero ≠ true := by
  intro hzero
  have hmagnitude : x.magnitude = 0 := by
    rw [Finite.magnitude, eq_of_beq hzero, Nat.zero_mul]
  rw [Finite.magnitude_of_units h] at hmagnitude
  rcases Nat.mul_eq_zero.mp hmagnitude with hn' | hone
  · exact hn (Int.natAbs_eq_zero.mp hn')
  · exact Nat.ne_of_gt one_pos hone

variable {d e : Binary64} {m n : Int}

theorem compareWith_of_isWhole {rel : Int → Int → Bool} (hd : d.IsWhole m) (he : e.IsWhole n) :
    compareWith rel d e = rel (m * one) (n * one) := by
  obtain ⟨x, rfl, hx⟩ := hd
  obtain ⟨y, rfl, hy⟩ := he
  show rel x.units y.units = _
  rw [hx, hy]

theorem eq_of_isWhole (hd : d.IsWhole m) (he : e.IsWhole n) : d.eq e = decide (m = n) := by
  rw [eq, compareWith_of_isWhole hd he]
  exact decide_eq_decide.mpr (Int.mul_eq_mul_right_iff one_ne_zero)

theorem lt_of_isWhole (hd : d.IsWhole m) (he : e.IsWhole n) : d.lt e = decide (m < n) := by
  rw [lt, compareWith_of_isWhole hd he]
  exact decide_eq_decide.mpr (Int.mul_lt_mul_right (Int.natCast_pos.mpr one_pos))

theorem le_of_isWhole (hd : d.IsWhole m) (he : e.IsWhole n) : d.le e = decide (m ≤ n) := by
  rw [le, compareWith_of_isWhole hd he]
  exact decide_eq_decide.mpr (Int.mul_le_mul_right (Int.natCast_pos.mpr one_pos))

theorem isWhole_negate (hd : d.IsWhole n) : d.negate.IsWhole (-n) := by
  obtain ⟨x, rfl, hx⟩ := hd
  refine ⟨x.negate, rfl, ?_⟩
  have hunits : x.negate.units = -x.units := by
    unfold Finite.units
    cases hneg : x.neg with
    | true => simp [Finite.negate, hneg, Finite.magnitude]
    | false => simp [Finite.negate, hneg, Finite.magnitude]
  rw [hunits, hx, Int.neg_mul]

/-! ## Rounding whole numbers -/

theorem log2_mul_two_pow {n : Nat} (h : n ≠ 0) (k : Nat) :
    (n * Nat.pow 2 k).log2 = n.log2 + k := by
  have hpow : 0 < Nat.pow 2 k := two_pow_pos k
  refine (Nat.log2_eq_iff (Nat.ne_of_gt (Nat.mul_pos (Nat.pos_of_ne_zero h) hpow))).mpr ⟨?_, ?_⟩
  · show Nat.pow 2 (n.log2 + k) ≤ n * Nat.pow 2 k
    rw [two_pow_add, Nat.mul_comm]
    exact Nat.mul_le_mul_right _ (Nat.log2_self_le h)
  · show n * Nat.pow 2 k < Nat.pow 2 (n.log2 + k + 1)
    rw [Nat.add_right_comm, two_pow_add, Nat.mul_comm (Nat.pow 2 k)]
    exact (Nat.mul_lt_mul_right hpow).mpr Nat.lt_log2_self

/-- Rounding in units, where a one has many, rounds the whole number. -/
theorem roundHalfEven_mul_two_pow (n : Nat) {k place : Nat} (hk : 52 ≤ k)
    (hplace : place = (n * Nat.pow 2 k).log2 - 52) :
    roundHalfEven (n * Nat.pow 2 k) (Nat.pow 2 place) * Nat.pow 2 place =
      nearestWhole n * Nat.pow 2 k := by
  by_cases hlog : 52 ≤ n.log2
  · -- The last place stands for a multiple of one.
    have hne : n ≠ 0 := by
      intro hzero
      rw [hzero, Nat.log2_zero] at hlog
      omega
    have hpow : Nat.pow 2 place = spacing n * Nat.pow 2 k := by
      rw [hplace, log2_mul_two_pow hne, show n.log2 + k - 52 = k + (n.log2 - 52) by omega,
        two_pow_add]
      rfl
    rw [hpow, roundHalfEven_scale _ _ (two_pow_pos k), nearestWhole, Nat.mul_assoc]
  · -- The last place divides one, so nothing is rounded.
    have hle : place ≤ k := by
      by_cases hzero : n = 0
      · rw [hzero, Nat.zero_mul, Nat.log2_zero] at hplace
        omega
      · rw [log2_mul_two_pow hzero] at hplace
        omega
    have hexact : nearestWhole n = n := by
      refine nearestWhole_of_dvd ?_
      unfold spacing
      rw [show n.log2 - 52 = 0 by omega]
      exact Nat.one_dvd n
    have hsplit : Nat.pow 2 k = Nat.pow 2 (k - place) * Nat.pow 2 place := by
      rw [← two_pow_add, Nat.add_sub_cancel' hle]
    rw [hexact, hsplit, ← Nat.mul_assoc, roundHalfEven_mul _ (two_pow_pos place)]

/-- A whole number of ones, with the sign of an integer, rounds to the integer, rounded.  The
sign of a zero does not count. -/
theorem isWhole_round {neg : Bool} (hsign : if neg then n ≤ 0 else 0 ≤ n)
    (h : n.natAbs.log2 ≤ 1022) : (round neg (n.natAbs * one) 1).IsWhole (rounded n) := by
  obtain ⟨k, hk, hone⟩ := exists_one_eq
  have hlog : (n.natAbs * one / 1).log2 ≤ 2096 := by
    rw [Nat.div_one, hone]
    by_cases hzero : n.natAbs = 0
    · rw [hzero, Nat.zero_mul, Nat.log2_zero]
      exact Nat.zero_le _
    · rw [log2_mul_two_pow hzero]
      omega
  obtain ⟨x, hx, hneg, hmagnitude⟩ := round_eq_finite neg Nat.one_pos hlog
  rw [hone] at hx hmagnitude
  have hplace : lastPlace (n.natAbs * Nat.pow 2 k) 1 = (n.natAbs * Nat.pow 2 k).log2 - 52 := by
    rw [lastPlace, Nat.div_one]
  rw [Nat.one_mul, roundHalfEven_mul_two_pow n.natAbs (by omega) hplace] at hmagnitude
  rw [hone]
  refine ⟨x, hx, ?_⟩
  rw [Finite.units, hneg, hmagnitude, hone]
  cases neg with
  | true => rw [rounded_of_nonpos hsign, if_pos rfl, Int.natCast_mul, Int.neg_mul]
  | false => rw [rounded_of_nonneg hsign, if_neg Bool.false_ne_true, Int.natCast_mul]

/-- The double nearest to an integer is the integer, rounded. -/
theorem isWhole_ofInt (h : n.natAbs.log2 ≤ 1022) : (ofInt n).IsWhole (rounded n) := by
  have hsign : if decide (n < 0) then n ≤ 0 else 0 ≤ n := by
    by_cases hneg : n < 0
    · simp only [hneg, decide_true, if_true]
      omega
    · simp only [hneg, decide_false, Bool.false_eq_true, if_false]
      omega
  exact isWhole_round hsign h

theorem isWhole_ofInt_of_le (h : n.natAbs ≤ 0x20000000000000) : (ofInt n).IsWhole n := by
  have hwhole := isWhole_ofInt (Nat.le_trans (log2_mono h) (by decide))
  rwa [rounded_of_le h] at hwhole

theorem isWhole_add (hd : d.IsWhole m) (he : e.IsWhole n) (h : (m + n).natAbs.log2 ≤ 1022) :
    (d.add e).IsWhole (rounded (m + n)) := by
  obtain ⟨x, rfl, hx⟩ := hd
  obtain ⟨y, rfl, hy⟩ := he
  have hone : (0 : Int) < one := Int.natCast_pos.mpr one_pos
  have hsum : x.units + y.units = (m + n) * one := by rw [hx, hy, Int.add_mul]
  have hsign : decide ((m + n) * one < 0) = decide (m + n < 0) := by
    refine decide_eq_decide.mpr ?_
    have hmul := Int.mul_lt_mul_right (b := m + n) (c := 0) hone
    rwa [Int.zero_mul] at hmul
  unfold add
  simp only [hsum]
  by_cases hzero : m + n = 0
  · -- A sum of zero has a sign of its own.
    have hsigns : if (x.neg && y.neg) then m + n ≤ 0 else 0 ≤ m + n := by
      split <;> omega
    have hround := isWhole_round hsigns h
    rw [Int.natAbs_eq_zero.mpr hzero, Nat.zero_mul] at hround
    rw [hzero, Int.zero_mul, if_pos rfl, ← hzero]
    exact hround
  · rw [if_neg (Int.mul_ne_zero hzero (Int.ne_of_gt hone)), hsign, Int.natAbs_mul,
      Int.natAbs_natCast]
    exact isWhole_ofInt h

theorem isWhole_sub (hd : d.IsWhole m) (he : e.IsWhole n) (h : (m - n).natAbs.log2 ≤ 1022) :
    (d.sub e).IsWhole (rounded (m - n)) :=
  isWhole_add hd (isWhole_negate he) h

theorem round_scale (neg : Bool) (num den : Nat) {factor : Nat} (hfactor : 0 < factor) :
    round neg (num * factor) (den * factor) = round neg num den := by
  unfold round
  rw [Nat.mul_div_mul_right _ _ hfactor]
  simp only [Nat.mul_right_comm den factor, roundHalfEven_scale _ _ hfactor]

theorem isWhole_mul (hd : d.IsWhole m) (he : e.IsWhole n) (h : (m * n).natAbs.log2 ≤ 1022) :
    (d.mul e).IsWhole (rounded (m * n)) := by
  obtain ⟨x, rfl, hx⟩ := hd
  obtain ⟨y, rfl, hy⟩ := he
  have hsignx := Finite.sign_of_units hx
  have hsigny := Finite.sign_of_units hy
  have hsign : if (x.neg != y.neg) then m * n ≤ 0 else 0 ≤ m * n := by
    cases hnx : x.neg <;> cases hny : y.neg <;> rw [hnx] at hsignx <;> rw [hny] at hsigny
    · exact Int.mul_nonneg hsignx hsigny
    · exact Int.mul_nonpos_of_nonneg_of_nonpos hsignx hsigny
    · exact Int.mul_nonpos_of_nonpos_of_nonneg hsignx hsigny
    · exact Int.mul_nonneg_of_nonpos_of_nonpos hsignx hsigny
  have hproduct : x.magnitude * y.magnitude = (m * n).natAbs * one * one := by
    rw [Finite.magnitude_of_units hx, Finite.magnitude_of_units hy, Int.natAbs_mul,
      Nat.mul_mul_mul_comm, ← Nat.mul_assoc]
  have hround := isWhole_round hsign h
  rw [← round_scale _ _ 1 one_pos, Nat.one_mul, ← hproduct] at hround
  exact hround

theorem tmod_nonpos (n : Int) (h : m ≤ 0) : m.tmod n ≤ 0 := by
  have hpos : 0 ≤ (-m).tmod n := Int.tmod_nonneg n (by omega)
  rw [Int.neg_tmod] at hpos
  omega

/-- The remainder of two whole numbers, with the sign of the dividend. -/
theorem isWhole_rem (hd : d.IsWhole m) (he : e.IsWhole n) (hn : n ≠ 0)
    (h : (m.tmod n).natAbs.log2 ≤ 1022) : (d.rem e).IsWhole (rounded (m.tmod n)) := by
  obtain ⟨x, rfl, hx⟩ := hd
  obtain ⟨y, rfl, hy⟩ := he
  have hsign : if x.neg then m.tmod n ≤ 0 else 0 ≤ m.tmod n := by
    have hsign := Finite.sign_of_units hx
    split at hsign
    · next hneg =>
      rw [if_pos hneg]
      exact tmod_nonpos n hsign
    · next hneg =>
      rw [if_neg hneg]
      exact Int.tmod_nonneg n hsign
  have hmod : x.magnitude % y.magnitude = (m.tmod n).natAbs * one := by
    rw [Finite.magnitude_of_units hx, Finite.magnitude_of_units hy, Nat.mul_mod_mul_right,
      Int.natAbs_tmod]
  unfold rem
  simp only [if_neg (Finite.not_isZero_of_units hy hn), hmod]
  exact isWhole_round hsign h

end Binary64
end Amend
