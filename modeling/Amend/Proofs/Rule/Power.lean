/-
Powers of a base.  The check divides two logarithms and asks whether the quotient is nearly a whole
number.  The quotient is exact up to `10 ^ -13`, so what the check accepts are the integers whose
logarithm is less than a billionth away from a natural number: every power of the base, no other
integer as long as the powers are too small to have an integer that close beside them, and their
neighbours as well from there on.
-/
import Amend.Proofs.Binary64.Logarithm
import Amend.Proofs.Rule.Multiple
import Mathlib.Analysis.SpecialFunctions.Log.Base

namespace Amend
namespace Binary64

/-! ## Logarithms of integers -/

theorem Finite.real_of_units {x : Finite} {n : ℤ} (h : x.units = n * one) : x.real = n := by
  rw [Finite.real, h, Int.cast_mul, Int.cast_natCast, mul_div_cancel_right₀ _ cast_one_pos.ne']

theorem abs_log_sub_log_le {a b e : ℝ} (hb : 0 < b) (he : e ≤ 1 / 2) (h : |a - b| ≤ b * e) :
    |Real.log a - Real.log b| ≤ 2 * e := by
  obtain ⟨hlow, hhigh⟩ := abs_le.mp h
  have hhalf : b * e ≤ b * (1 / 2) := mul_le_mul_of_nonneg_left he hb.le
  have ha : 0 < a := by linarith
  have hup := Real.log_le_sub_one_of_pos (div_pos ha hb)
  have hdown := Real.log_le_sub_one_of_pos (div_pos hb ha)
  have habove : a / b - 1 ≤ 2 * e := by
    rw [div_sub_one hb.ne', div_le_iff₀ hb]
    linarith [abs_nonneg (a - b)]
  have hbelow : b / a - 1 ≤ 2 * e := by
    rw [div_sub_one ha.ne', div_le_iff₀ ha]
    have he0 : 0 ≤ e := nonneg_of_mul_nonneg_right ((abs_nonneg _).trans h) hb
    nlinarith
  rw [Real.log_div ha.ne' hb.ne'] at hup
  rw [Real.log_div hb.ne' ha.ne'] at hdown
  rw [abs_le]
  constructor <;> linarith

/-- The logarithm of an integer, rounded with the integer. -/
theorem AccurateLog.exists_log_ofInt {ln : Binary64 → Binary64} (hln : AccurateLog ln) {n : ℤ}
    (hn : 0 < n) (hle : n ≤ 0xFFFFFFFFFFFFFFFF) :
    ∃ r : Finite, ln (ofInt n) = .finite r ∧
      |r.real - Real.log n| ≤ (Real.log n + 5 / 8) / 2 ^ 51 := by
  have hn' : (0 : ℝ) < n := Int.cast_pos.mpr hn
  have hbits : n.natAbs.log2 ≤ 1022 :=
    (log2_mono (show n.natAbs ≤ 0xFFFFFFFFFFFFFFFF by omega)).trans (by decide)
  obtain ⟨x, hx, hunits⟩ := isWhole_ofInt hbits
  obtain ⟨y, hy, herror⟩ := exists_ofInt hbits
  obtain rfl := finite.inj (hx.symm.trans hy)
  have hone : (1 : ℝ) ≤ x.real := by
    rw [Finite.real_of_units hunits]
    exact_mod_cast le_rounded (by decide) hn
  obtain ⟨r, hr, hlog⟩ := hln.exists_log (show 0 < x.real by linarith)
  refine ⟨r, by rw [hx, hr], ?_⟩
  rw [abs_of_nonneg (Real.log_nonneg hone)] at hlog
  rw [abs_of_pos hn', ← mul_one_div] at herror
  have hargument := abs_log_sub_log_le hn' (by norm_num) herror
  have htriangle := abs_sub_le r.real (Real.log x.real) (Real.log n)
  have habove := le_of_abs_le hargument
  have hsmallest := one_div_one_le (s := 100) (by norm_num)
  have htwo : 2 / ((one : ℕ) : ℝ) = 2 * (1 / (one : ℕ)) := by ring
  linarith

theorem abs_div_sub_div_le {r s a b : ℝ} (ha : 0 ≤ a) (hb : 2 / 3 ≤ b) (hratio : a ≤ 64 * b)
    (hr : |r - a| ≤ (a + 5 / 8) / 2 ^ 51) (hs : |s - b| ≤ (b + 5 / 8) / 2 ^ 51) :
    |r / s - a / b| ≤ 190 / 2 ^ 51 := by
  have hlow : b * (1 - 2 / 2 ^ 51) ≤ s := by
    have hbelow := neg_le_of_abs_le hs
    linarith
  have hs0 : 0 < s := by linarith
  have hb0 : 0 < b := by linarith
  have hsplit : r / s - a / b = ((r - a) * b - a * (s - b)) / (s * b) := by
    field_simp
    ring
  have hloss : |(r - a) * b - a * (s - b)| ≤
      (a + 5 / 8) / 2 ^ 51 * b + a * ((b + 5 / 8) / 2 ^ 51) := by
    refine (abs_sub _ _).trans ?_
    rw [abs_mul, abs_mul, abs_of_pos hb0, abs_of_nonneg ha]
    exact add_le_add (mul_le_mul_of_nonneg_right hr hb0.le) (mul_le_mul_of_nonneg_left hs ha)
  rw [hsplit, abs_div, abs_of_pos (mul_pos hs0 hb0), div_le_iff₀ (mul_pos hs0 hb0)]
  calc _ ≤ (a + 5 / 8) / 2 ^ 51 * b + a * ((b + 5 / 8) / 2 ^ 51) := hloss
    _ ≤ 190 / 2 ^ 51 * (b * (1 - 2 / 2 ^ 51) * b) := by nlinarith
    _ ≤ 190 / 2 ^ 51 * (s * b) := by gcongr

theorem log_int_bounds {n : ℤ} (hn : 0 < n) (hle : n ≤ 0xFFFFFFFFFFFFFFFF) :
    0 ≤ Real.log n ∧ Real.log n ≤ 64 * Real.log 2 := by
  have hn1 : (1 : ℝ) ≤ n := by exact_mod_cast hn
  have hn2 : (n : ℝ) ≤ 2 ^ 64 := by
    have hcast : (n : ℝ) ≤ (0xFFFFFFFFFFFFFFFF : ℤ) := Int.cast_le.mpr hle
    exact hcast.trans (by norm_num)
  have hlog := Real.log_le_log (by linarith) hn2
  rw [Real.log_pow, Nat.cast_ofNat] at hlog
  exact ⟨Real.log_nonneg hn1, hlog⟩

/-- The quotient of the logarithms is the logarithm to the base, up to `10 ^ -13`. -/
theorem AccurateLog.exists_logQuotient {ln : Binary64 → Binary64} (hln : AccurateLog ln)
    {n base : ℤ} (hn : 0 < n) (hle : n ≤ 0xFFFFFFFFFFFFFFFF) (hbase : 2 ≤ base)
    (hbase' : base ≤ 0xFFFFFFFFFFFFFFFF) :
    ∃ q : Finite, (ln (ofInt n)).div (ln (ofInt base)) = .finite q ∧
      |q.real - Real.logb base n| ≤ 1 / 10 ^ 13 := by
  have htwo := Real.log_two_gt_d9
  have htwo' := Real.log_two_lt_d9
  have hmono : Real.log 2 ≤ Real.log base := Real.log_le_log two_pos (by exact_mod_cast hbase)
  obtain ⟨ha0, ha⟩ := log_int_bounds hn hle
  obtain ⟨-, hb⟩ := log_int_bounds (by omega) hbase'
  obtain ⟨r, hr, hrerror⟩ := hln.exists_log_ofInt hn hle
  obtain ⟨s, hs, hserror⟩ := hln.exists_log_ofInt (show 0 < base by omega) hbase'
  have herror := abs_div_sub_div_le ha0 (by linarith) (by linarith) hrerror hserror
  have hsbelow := neg_le_of_abs_le hserror
  have hspos : 1 / 2 ≤ s.real := by linarith
  have hrsize := abs_sub_abs_le_abs_sub r.real (Real.log n)
  rw [abs_of_nonneg ha0] at hrsize
  obtain ⟨q, hq, hqerror⟩ := exists_div (a := r) (show 0 < s.real by linarith) (by linarith)
  refine ⟨q, by rw [hr, hs, hq], ?_⟩
  have hratio : Real.log n / Real.log base ≤ 64 := by
    rw [div_le_iff₀ (by linarith)]
    linarith
  have hratio0 : 0 ≤ Real.log n / Real.log base := div_nonneg ha0 (by linarith)
  have hsize := abs_sub_abs_le_abs_sub (r.real / s.real) (Real.log n / Real.log base)
  rw [abs_div, abs_of_pos (show 0 < s.real by linarith), abs_of_nonneg hratio0] at hsize
  have hsmallest := one_div_one_le (s := 100) (by norm_num)
  have htriangle := abs_sub_le q.real (r.real / s.real) (Real.log n / Real.log base)
  rw [← Real.log_div_log]
  linarith

end Binary64

namespace Rule

/-! ## Integers near a power -/

/-- A positive integer whose logarithm to the base is less than `slack` away from a natural
number. -/
def NearPower (base : ℤ) (slack : ℝ) (n : ℤ) : Prop :=
  0 < n ∧ ∃ k : ℕ, |Real.logb base n - k| < slack

section

variable {base n : ℤ} {slack : ℝ}

theorem nearPower_pow (hbase : 2 ≤ base) (hslack : 0 < slack) (k : ℕ) :
    NearPower base slack (base ^ k) := by
  have hbase' : (2 : ℝ) ≤ base := by exact_mod_cast hbase
  refine ⟨pow_pos (by omega) k, k, ?_⟩
  rw [Int.cast_pow, Real.logb_pow, Real.logb_self_eq_one (by linarith), mul_one, sub_self, abs_zero]
  exact hslack

/-- Below a power the logarithm falls short by what the power has more, in parts of the integer. -/
theorem nearPower_of_le_pow (hbase : 2 ≤ base) (hn : 0 < n) {k : ℕ} (hle : n ≤ base ^ k)
    (hshort : ((base ^ k - n : ℤ) : ℝ) / n < slack * Real.log base) : NearPower base slack n := by
  have hn' : (0 : ℝ) < n := Int.cast_pos.mpr hn
  have hbase' : (1 : ℝ) < base := by exact_mod_cast hbase
  have hlogBase := Real.log_pos hbase'
  have hpow : (0 : ℝ) < (base : ℝ) ^ k := by positivity
  have hbelow : Real.log n ≤ k * Real.log base := by
    rw [← Real.log_pow]
    exact Real.log_le_log hn' (by exact_mod_cast hle)
  have habove := Real.one_sub_inv_le_log_of_pos (div_pos hn' hpow)
  rw [inv_div, Real.log_div hn'.ne' hpow.ne', Real.log_pow] at habove
  have hparts : ((base ^ k - n : ℤ) : ℝ) / n = base ^ k / n - 1 := by
    rw [Int.cast_sub, Int.cast_pow, sub_div, div_self hn'.ne']
  have hsplit : Real.logb base n - k = (Real.log n - k * Real.log base) / Real.log base := by
    rw [Real.logb, sub_div, mul_div_cancel_right₀ _ hlogBase.ne']
  refine ⟨hn, k, ?_⟩
  rw [hsplit, abs_div, abs_of_pos hlogBase, div_lt_iff₀ hlogBase, abs_of_nonpos (by linarith)]
  linarith

theorem not_exists_eq_pow (hbase : 2 ≤ base) {k : ℕ} (hlow : base ^ k < n)
    (hhigh : n < base ^ (k + 1)) : ¬∃ j : ℕ, n = base ^ j := by
  rintro ⟨j, rfl⟩
  have hbase' : 1 < base := by omega
  have hkj := (pow_lt_pow_iff_right₀ hbase').mp hlow
  have hjk := (pow_lt_pow_iff_right₀ hbase').mp hhigh
  omega

/-- A whole number near the logarithm of a positive integer is a natural number. -/
theorem nearPower_of_int (hbase : 2 ≤ base) (hn : 0 < n) (hslack : slack ≤ 1) {k : ℤ}
    (h : |Real.logb base n - k| < slack) : NearPower base slack n := by
  have hbase' : (2 : ℝ) ≤ base := by exact_mod_cast hbase
  have hnonneg : 0 ≤ Real.logb base n :=
    Real.logb_nonneg (by linarith) (by exact_mod_cast hn)
  have hk : 0 ≤ k := by
    have habove := lt_of_abs_lt h
    have hcast : (-1 : ℝ) < k := by linarith
    have hlt : -1 < k := by exact_mod_cast hcast
    omega
  obtain ⟨k, rfl⟩ := Int.eq_ofNat_of_zero_le hk
  exact ⟨hn, k, by exact_mod_cast h⟩

/-- Of two numbers with close logarithms neither is much smaller. -/
theorem mul_lt_of_abs_log_lt {a b loss : ℝ} (ha : 0 < a) (hb : 0 < b)
    (h : |Real.log (a / b)| < loss) : b * (1 - loss) < a ∧ a * (1 - loss) < b := by
  obtain ⟨hlow, hhigh⟩ := abs_lt.mp h
  constructor
  · have hle := Real.log_le_sub_one_of_pos (div_pos ha hb)
    have hdiv : 1 - loss < a / b := by linarith
    rwa [lt_div_iff₀ hb, mul_comm] at hdiv
  · have hle := Real.one_sub_inv_le_log_of_pos (div_pos ha hb)
    rw [inv_div] at hle
    have hdiv : 1 - loss < b / a := by linarith
    rwa [lt_div_iff₀ ha, mul_comm] at hdiv

/-- An integer near a power is the power, as long as the step to the next integer is large
enough: `loss` bounds by how much of the power they differ. -/
theorem NearPower.exists_eq_pow (h : NearPower base slack n) (hbase : 2 ≤ base) {loss : ℝ} {K : ℕ}
    {least : ℤ} (hloss : slack * Real.log base ≤ loss) (hsmall : base ^ K * loss ≤ 1 - loss)
    (hleast : ((least - 1 : ℤ) : ℝ) ≤ base ^ (K + 1) * (1 - loss)) (hlt : n < least) :
    ∃ k : ℕ, n = base ^ k := by
  obtain ⟨hn, k, hk⟩ := h
  have hn' : (0 : ℝ) < n := Int.cast_pos.mpr hn
  have hbase' : (1 : ℝ) < base := by exact_mod_cast hbase
  have hlogBase := Real.log_pos hbase'
  have hpow : (0 : ℝ) < (base : ℝ) ^ k := by positivity
  have hnear : |Real.log (n / base ^ k)| < loss := by
    rw [Real.log_div hn'.ne' hpow.ne', Real.log_pow]
    have hsplit : Real.log n - k * Real.log base =
        (Real.logb base n - k) * Real.log base := by
      rw [sub_mul, Real.logb, div_mul_cancel₀ _ hlogBase.ne']
    rw [hsplit, abs_mul, abs_of_pos hlogBase]
    exact (mul_lt_mul_of_pos_right hk hlogBase).trans_le hloss
  obtain ⟨habove, hbelow⟩ := mul_lt_of_abs_log_lt hn' hpow hnear
  have hloss0 : 0 < loss := (abs_nonneg _).trans_lt hnear
  rcases Nat.lt_or_ge K k with hlarge | hle
  · have hmono : (base : ℝ) ^ (K + 1) ≤ base ^ k := pow_le_pow_right₀ hbase'.le hlarge
    have hloss1 : 0 < 1 - loss := lt_of_lt_of_le (by positivity) hsmall
    have hcast : ((least - 1 : ℤ) : ℝ) < n :=
      (hleast.trans (mul_le_mul_of_nonneg_right hmono hloss1.le)).trans_lt habove
    have hlt' : least - 1 < n := Int.cast_lt.mp hcast
    omega
  · have hmono : (base : ℝ) ^ k ≤ base ^ K := pow_le_pow_right₀ hbase'.le hle
    have hstep := (mul_le_mul_of_nonneg_right hmono hloss0.le).trans hsmall
    have hup : (n : ℝ) < base ^ k + 1 := by nlinarith
    have hdown : (base : ℝ) ^ k < n + 1 := by linarith
    refine ⟨k, le_antisymm ?_ ?_⟩
    · exact Int.lt_add_one_iff.mp (by exact_mod_cast hup)
    · exact Int.lt_add_one_iff.mp (by exact_mod_cast hdown)

end

/-! ## The check -/

section

variable {ln : Binary64 → Binary64} {check : Check} {n base : ℤ}

theorem isPowerOf_iff (hn : Number.InRange n) (hbase : 2 ≤ base)
    (hbase' : base ≤ 0xFFFFFFFFFFFFFFFF) :
    isPowerOf ln (.ofInt base) (Number.int n).toBinary64 = true ↔
      0 < n ∧ ((ln (.ofInt n)).div (ln (.ofInt base))).NearWhole := by
  have hzero : Binary64.zero.IsWhole 0 := ⟨.zero, rfl, by rw [Int.zero_mul]; rfl⟩
  have hone : (Binary64.ofInt 1).IsWhole 1 := Binary64.isWhole_ofInt_of_le (by decide)
  have hwhole := Number.isWhole_toBinary64 hn
  have hwholeBase : (Binary64.ofInt base).IsWhole (Binary64.rounded base) :=
    Number.isWhole_toBinary64 ⟨by unfold Number.minSigned; omega, hbase'⟩
  have hroundedBase : 2 ≤ Binary64.rounded base := Binary64.le_rounded (by decide) hbase
  have hrounded : Binary64.rounded n ≤ 0 ↔ n ≤ 0 := by
    refine ⟨fun hle => not_lt.mp fun hpos => ?_, Binary64.rounded_le (by decide)⟩
    have hlow : 1 ≤ Binary64.rounded n := Binary64.le_rounded (by decide) hpos
    omega
  have hguard : ((Number.int n).toBinary64.le .zero || (Binary64.ofInt base).le .zero ||
      (Binary64.ofInt base).eq (.ofInt 1)) = decide (n ≤ 0) := by
    rw [Binary64.le_of_isWhole hwhole hzero, Binary64.le_of_isWhole hwholeBase hzero,
      Binary64.eq_of_isWhole hwholeBase hone,
      decide_eq_false (show ¬Binary64.rounded base ≤ 0 by omega),
      decide_eq_false (show ¬Binary64.rounded base = 1 by omega), Bool.or_false, Bool.or_false]
    exact decide_eq_decide.mpr hrounded
  rw [isPowerOf, hguard]
  by_cases hpos : 0 < n
  · rw [decide_eq_false (not_le.mpr hpos), if_neg Bool.false_ne_true, isNearlyIntegral_iff,
      and_iff_right hpos]
    rfl
  · rw [decide_eq_true (not_lt.mp hpos), if_pos rfl]
    exact iff_of_false Bool.false_ne_true fun h => hpos h.1

theorem isPowerOf_of_nearPower (hln : Binary64.AccurateLog ln) (hn : Number.InRange n)
    (hbase : 2 ≤ base) (hbase' : base ≤ 0xFFFFFFFFFFFFFFFF)
    (h : NearPower base (1 / 10 ^ 9 - 1 / 10 ^ 13) n) :
    isPowerOf ln (.ofInt base) (Number.int n).toBinary64 = true := by
  obtain ⟨hpos, k, hk⟩ := h
  obtain ⟨q, hq, herror⟩ := hln.exists_logQuotient hpos hn.2 hbase hbase'
  rw [isPowerOf_iff hn hbase hbase', hq, Binary64.nearWhole_iff_real]
  have htriangle := abs_sub_le q.real (Real.logb base n) k
  exact ⟨hpos, k, by rw [Int.cast_natCast]; linarith⟩

theorem nearPower_of_isPowerOf (hln : Binary64.AccurateLog ln) (hn : Number.InRange n)
    (hbase : 2 ≤ base) (hbase' : base ≤ 0xFFFFFFFFFFFFFFFF)
    (h : isPowerOf ln (.ofInt base) (Number.int n).toBinary64 = true) :
    NearPower base (1 / 10 ^ 9 + 1 / 10 ^ 13) n := by
  obtain ⟨hpos, hnear⟩ := (isPowerOf_iff hn hbase hbase').mp h
  obtain ⟨q, hq, herror⟩ := hln.exists_logQuotient hpos hn.2 hbase hbase'
  rw [hq, Binary64.nearWhole_iff_real] at hnear
  obtain ⟨k, hk⟩ := hnear
  refine nearPower_of_int hbase hpos (by norm_num) (k := k) ?_
  have htriangle := abs_sub_le (Real.logb base n) q.real k
  rw [abs_sub_comm] at herror
  linarith

/-- What a check of powers tells of an integer by a logarithm. -/
structure TellsPowers (ln : Binary64 → Binary64) (check : Check) (base least n : ℤ) : Prop where
  /-- Powers are accepted. -/
  power : (∃ k : ℕ, n = base ^ k) → evaluateWith ln check (.num (.int n)) = .ok ()
  /-- Nothing else is accepted below the least integer too close to a power. -/
  exact : n < least → evaluateWith ln check (.num (.int n)) = .ok () → ∃ k : ℕ, n = base ^ k
  /-- That one is accepted and is no power. -/
  sharp : evaluateWith ln check (.num (.int least)) = .ok () ∧ ¬∃ k : ℕ, least = base ^ k
  /-- What is near a power is accepted. -/
  near : NearPower base (1 / 10 ^ 9 - 1 / 10 ^ 13) n →
    evaluateWith ln check (.num (.int n)) = .ok ()
  /-- What is accepted is near a power. -/
  nearly : evaluateWith ln check (.num (.int n)) = .ok () →
    NearPower base (1 / 10 ^ 9 + 1 / 10 ^ 13) n

/-- The last power below the least integer that is too close to a power is `base ^ K`, and `loss`
bounds by how much of a power the integers near it differ from it. -/
theorem tellsPowers (loss : ℝ) (K : ℕ) {least : ℤ} (hln : Binary64.AccurateLog ln)
    (heval : ∀ a : Number, evaluateWith ln check (.num a) = .ok () ↔
      isPowerOf ln (.ofInt base) a.toBinary64 = true)
    (hbase : 2 ≤ base) (hbase' : base ≤ 0xFFFFFFFFFFFFFFFF)
    (hloss : (1 / 10 ^ 9 + 1 / 10 ^ 13) * Real.log base ≤ loss)
    (hsmall : base ^ K * loss ≤ 1 - loss)
    (hleast : ((least - 1 : ℤ) : ℝ) ≤ base ^ (K + 1) * (1 - loss))
    (hrange : Number.InRange least) (hlow : base ^ K < least) (hhigh : least < base ^ (K + 1))
    (hshort : ((base ^ (K + 1) - least : ℤ) : ℝ) / least <
      (1 / 10 ^ 9 - 1 / 10 ^ 13) * Real.log base)
    (hn : Number.InRange n) :
    TellsPowers ln check base least n := by
  have hnear : ∀ {m : ℤ}, Number.InRange m → NearPower base (1 / 10 ^ 9 - 1 / 10 ^ 13) m →
      evaluateWith ln check (.num (.int m)) = .ok () := fun hm h =>
    (heval _).mpr (isPowerOf_of_nearPower hln hm hbase hbase' h)
  have hnearly : evaluateWith ln check (.num (.int n)) = .ok () →
      NearPower base (1 / 10 ^ 9 + 1 / 10 ^ 13) n := fun h =>
    nearPower_of_isPowerOf hln hn hbase hbase' ((heval _).mp h)
  have hpos : 0 < least := (pow_pos (by omega) K).trans hlow
  refine ⟨?_, fun hlt h => ?_, ⟨?_, ?_⟩, hnear hn, hnearly⟩
  · rintro ⟨k, rfl⟩
    exact hnear hn (nearPower_pow hbase (by norm_num) k)
  · exact (hnearly h).exists_eq_pow hbase hloss hsmall hleast hlt
  · exact hnear hrange (nearPower_of_le_pow hbase hpos hhigh.le hshort)
  · exact not_exists_eq_pow hbase hlow hhigh

end

/-- By every logarithm that is exact up to a unit in the last place, the two checks of powers accept
the powers, and the integers whose logarithm is less than a billionth away from a natural number,
where only `10 ^ -13` of it is left open.  The least of them that are no powers are `2 ^ 31 - 1` and
`10 ^ 9 - 2`. -/
theorem evaluate_powers {ln : Binary64 → Binary64} (hln : Binary64.AccurateLog ln) {n : ℤ}
    (hn : Number.InRange n) :
    TellsPowers ln (.trait .powerOfTwo) 2 2147483647 n ∧
      TellsPowers ln (.trait .powerOfTen) 10 999999998 n := by
  have htwo := Real.log_two_lt_d9
  have htwo' := Real.log_two_gt_d9
  have hten : Real.log 10 < 2.32 := by
    have hlog := Real.log_le_log (by norm_num) (show (10 : ℝ) ^ 3 ≤ 2 ^ 10 by norm_num)
    rw [Real.log_pow, Real.log_pow] at hlog
    push_cast at hlog
    linarith
  have hten' : 2.07 < Real.log 10 := by
    have hlog := Real.log_le_log (by norm_num) (show (2 : ℝ) ^ 3 ≤ 10 by norm_num)
    rw [Real.log_pow] at hlog
    push_cast at hlog
    linarith
  constructor
  · refine tellsPowers (7 / 10 ^ 10) 30 hln (fun _ => ensure_eq_ok_iff) (by norm_num)
      (by norm_num) ?_ (by norm_num) (by norm_num) (by decide) (by norm_num) (by norm_num) ?_ hn
    · push_cast
      linarith
    · push_cast
      linarith
  · refine tellsPowers (24 / 10 ^ 10) 8 hln (fun _ => ensure_eq_ok_iff) (by norm_num)
      (by norm_num) ?_ (by norm_num) (by norm_num) (by decide) (by norm_num) (by norm_num) ?_ hn
    · push_cast
      linarith
    · push_cast
      linarith

/-- A thousand is a power of ten and no power of two. -/
theorem evaluate_powers_thousand :
    Binary64.AccurateLog Binary64.nearestLog ∧ Number.InRange 1000 ∧
      evaluateWith Binary64.nearestLog (.trait .powerOfTen) (.num (.int 1000)) = .ok () ∧
      ¬evaluateWith Binary64.nearestLog (.trait .powerOfTwo) (.num (.int 1000)) = .ok () := by
  have hln := Binary64.accurateLog_nearestLog
  have hrange : Number.InRange 1000 := by decide
  obtain ⟨htwo, hten⟩ := evaluate_powers hln hrange
  have hpower : ¬∃ k : ℕ, (1000 : ℤ) = 2 ^ k :=
    not_exists_eq_pow (k := 9) (by norm_num) (by norm_num) (by norm_num)
  exact ⟨hln, hrange, hten.power ⟨3, by norm_num⟩, mt (htwo.exact (by norm_num)) hpower⟩

/-- The least integers that are accepted and are no powers, by the nearest logarithm. -/
theorem evaluate_powers_least :
    Binary64.AccurateLog Binary64.nearestLog ∧
      (evaluateWith Binary64.nearestLog (.trait .powerOfTwo) (.num (.int 2147483647)) = .ok () ∧
        ¬∃ k : ℕ, (2147483647 : ℤ) = 2 ^ k) ∧
      evaluateWith Binary64.nearestLog (.trait .powerOfTen) (.num (.int 999999998)) = .ok () ∧
        ¬∃ k : ℕ, (999999998 : ℤ) = 10 ^ k := by
  refine ⟨Binary64.accurateLog_nearestLog, ⟨by decide +kernel, ?_⟩, by decide +kernel, ?_⟩
  · exact not_exists_eq_pow (k := 30) (by norm_num) (by norm_num) (by norm_num)
  · exact not_exists_eq_pow (k := 8) (by norm_num) (by norm_num) (by norm_num)

end Rule
end Amend
