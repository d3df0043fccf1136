/-
The primality test.  A base passes for every prime that does not divide it: by Fermat's theorem
the repeated squares end in one, and modulo a prime only one and minus one have the square one.
So no prime is rejected, and a number with a small factor is told by that factor.
-/
import Amend.Proofs.IntegerClass.Power
import Mathlib.FieldTheory.Finite.Basic
import Mathlib.NumberTheory.LucasLehmer
import Mathlib.Tactic.NormNum.Prime

namespace Amend
namespace IntegerClass

variable {n : Nat}

/-! ## Repeated squares -/

theorem splitTwos_eq (fuel d : Nat) :
    2 ^ (splitTwos fuel d).1 * (splitTwos fuel d).2 = d := by
  induction fuel generalizing d with
  | zero => rw [splitTwos, Nat.pow_zero, Nat.one_mul]
  | succ fuel ih =>
    rw [splitTwos]
    by_cases heven : d % 2 = 0
    · rw [if_pos heven]
      have hhalf := ih (d / 2)
      calc 2 ^ ((splitTwos fuel (d / 2)).1 + 1) * (splitTwos fuel (d / 2)).2
          = 2 * (2 ^ (splitTwos fuel (d / 2)).1 * (splitTwos fuel (d / 2)).2) := by ring
        _ = d := by omega
    · rw [if_neg heven, Nat.pow_zero, Nat.one_mul]

/-- The squarings look at the powers from the second on. -/
theorem squaresReach_iff {count x : Nat} :
    squaresReach n count x = true ↔ ∃ i, i < count ∧ x ^ 2 ^ (i + 1) % n = n - 1 := by
  induction count generalizing x with
  | zero =>
    refine iff_of_false Bool.false_ne_true ?_
    rintro ⟨i, hi, -⟩
    omega
  | succ count ih =>
    have hsquare : ∀ i, (x * x % n) ^ 2 ^ i % n = x ^ 2 ^ (i + 1) % n := by
      intro i
      rw [← Nat.pow_mod, ← Nat.pow_two, ← Nat.pow_mul, ← Nat.pow_succ']
    have hfirst : x * x % n = x ^ 2 ^ 1 % n := by rw [Nat.pow_one, Nat.pow_two]
    rw [squaresReach, Bool.or_eq_true, beq_iff_eq, ih, hfirst]
    simp only [← hfirst, hsquare]
    constructor
    · rintro (hone | ⟨i, hi, hreach⟩)
      · exact ⟨0, Nat.succ_pos count, hfirst ▸ hone⟩
      · exact ⟨i + 1, Nat.succ_lt_succ hi, hreach⟩
    · rintro ⟨i, hi, hreach⟩
      cases i with
      | zero => exact .inl (hfirst.trans hreach)
      | succ i => exact .inr ⟨i, Nat.lt_of_succ_lt_succ hi, hreach⟩

/-- Modulo a prime, what ends in one after some squarings is one, or passes minus one. -/
theorem eq_one_or_pow_eq_neg_one [Fact n.Prime] {y : ZMod n} {s : Nat} (h : y ^ 2 ^ s = 1) :
    y = 1 ∨ ∃ i, i < s ∧ y ^ 2 ^ i = -1 := by
  induction s with
  | zero =>
    rw [Nat.pow_zero, pow_one] at h
    exact .inl h
  | succ s ih =>
    rw [Nat.pow_succ, pow_mul, pow_two] at h
    rcases mul_self_eq_one_iff.mp h with hone | hneg
    · exact (ih hone).imp_right fun ⟨i, hi, hi'⟩ => ⟨i, Nat.lt_succ_of_lt hi, hi'⟩
    · exact .inr ⟨s, Nat.lt_succ_self s, hneg⟩

/-- A residue is minus one if its remainder is one less than the modulus. -/
theorem mod_eq_of_cast_eq_neg_one {x : Nat} (hn : 1 < n) (h : (x : ZMod n) = -1) :
    x % n = n - 1 := by
  have hcast : (x : ZMod n) = ((n - 1 : Nat) : ZMod n) := by
    rw [h, Nat.cast_sub (Nat.le_of_lt hn), ZMod.natCast_self, Nat.cast_one, zero_sub]
  rw [(ZMod.natCast_eq_natCast_iff' _ _ _).mp hcast, Nat.mod_eq_of_lt (by omega)]

/-! ## Primes -/

theorem passes_iff {base s d : Nat} (h : splitTwos (n - 1) (n - 1) = (s, d)) :
    passes n base = true ↔
      (powMod base d n = 1 ∨ powMod base d n = n - 1) ∨
        squaresReach n (s - 1) (powMod base d n) = true := by
  unfold passes
  rw [h]
  simp only [Bool.or_eq_true, beq_iff_eq]

theorem passes_of_prime {base : Nat} (hn : n.Prime) (hbase : ¬n ∣ base) :
    passes n base = true := by
  have hfact : Fact n.Prime := ⟨hn⟩
  have hlow : 1 < n := hn.one_lt
  have hproduct := splitTwos_eq (n - 1) (n - 1)
  cases hsplit : splitTwos (n - 1) (n - 1) with
  | mk s d =>
    rw [hsplit] at hproduct
    rw [passes_iff hsplit]
    -- The power is a residue whose repeated squares end in one.
    have hlt : powMod base d n < n := by
      rw [powMod_eq hlow]
      exact Nat.mod_lt _ (by omega)
    have hend : (powMod base d n : ZMod n) ^ 2 ^ s = 1 := by
      have hne : (base : ZMod n) ≠ 0 := mt (ZMod.natCast_eq_zero_iff base n).mp hbase
      rw [powMod_eq hlow, ZMod.natCast_mod, Nat.cast_pow, ← pow_mul, Nat.mul_comm, hproduct]
      exact ZMod.pow_card_sub_one_eq_one hne
    generalize powMod base d n = x at hlt hend
    rcases eq_one_or_pow_eq_neg_one hend with hone | ⟨i, hi, hneg⟩
    · have hmod : x % n = 1 % n := by
        refine (ZMod.natCast_eq_natCast_iff' x 1 n).mp ?_
        rw [hone, Nat.cast_one]
      rw [Nat.mod_eq_of_lt hlt, Nat.mod_eq_of_lt hlow] at hmod
      exact .inl (.inl hmod)
    · have hmod : x ^ 2 ^ i % n = n - 1 := by
        refine mod_eq_of_cast_eq_neg_one hlow ?_
        rw [Nat.cast_pow, hneg]
      cases i with
      | zero =>
        rw [Nat.pow_zero, Nat.pow_one, Nat.mod_eq_of_lt hlt] at hmod
        exact .inl (.inr hmod)
      | succ i => exact .inr (squaresReach_iff.mpr ⟨i, by omega, hmod⟩)

theorem prime_of_mem_bases {p : Nat} (h : p ∈ bases) : p.Prime := by
  have hall : ∀ p ∈ bases, p.Prime := by
    unfold bases
    simp only [List.forall_mem_cons, List.not_mem_nil, false_implies, implies_true]
    norm_num
  exact hall p h

/-- The first base that divides a number is a prime factor of it. -/
theorem prime_factor_of_find? {p : Nat} (h : bases.find? (fun p => n % p == 0) = some p) :
    p.Prime ∧ p ∣ n := by
  have hmod := List.find?_some h
  rw [beq_iff_eq] at hmod
  exact ⟨prime_of_mem_bases (List.mem_of_find?_eq_some h), Nat.dvd_of_mod_eq_zero hmod⟩

theorem isPrimeNat_of_prime (hn : n.Prime) : isPrimeNat n = true := by
  unfold isPrimeNat
  split
  · next p hfind =>
    obtain ⟨hp, hdvd⟩ := prime_factor_of_find? hfind
    rw [(Nat.prime_dvd_prime_iff_eq hp hn).mp hdvd]
    exact beq_self_eq_true n
  · next hfind =>
    refine List.all_eq_true.mpr fun base hbase => passes_of_prime hn fun hdvd => ?_
    have hnone := List.find?_eq_none.mp hfind base hbase
    rw [(Nat.prime_dvd_prime_iff_eq hn (prime_of_mem_bases hbase)).mp hdvd, Nat.mod_self] at hnone
    exact hnone rfl

/-! ## Small factors -/

/-- Of the multiples of a base only the base itself is accepted. -/
theorem isPrimeNat_of_dvd {p : Nat} (hp : p ∈ bases) (hdvd : p ∣ n) (hne : n ≠ p) :
    isPrimeNat n = false := by
  unfold isPrimeNat
  split
  · next q hfind =>
    obtain ⟨hq, -⟩ := prime_factor_of_find? hfind
    refine beq_eq_false_iff_ne.mpr ?_
    rintro rfl
    exact hne ((Nat.prime_dvd_prime_iff_eq (prime_of_mem_bases hp) hq).mp hdvd).symm
  · next hfind =>
    have hnone := List.find?_eq_none.mp hfind p hp
    rw [Nat.mod_eq_zero_of_dvd hdvd] at hnone
    exact absurd rfl hnone

/-- No prime is rejected.  What is below two, and every multiple of a base but the base itself, is
rejected.  The power that the test computes is the power, and in machine words too, where no
product overflows. -/
theorem isPrime_verdicts :
    (∀ p : Nat, p.Prime → isPrime p = true) ∧
      (∀ n : Int, n < 2 → isPrime n = false) ∧
      (∀ (n : Int) (p : Nat), p ∈ bases → (p : Int) ∣ n → n ≠ p → isPrime n = false) ∧
      ∀ a d m : Nat, 1 < m → m < 2 ^ 63 →
        powMod a d m = a ^ d % m ∧ powMod? a d m = some (a ^ d % m) := by
  refine ⟨fun p hp => ?_, fun n hn => ?_, fun n p hp hdvd hne => ?_, fun a d m hlow hm => ?_⟩
  · have htwo : (2 : Int) ≤ p := Int.ofNat_le.mpr hp.two_le
    rw [isPrime, decide_eq_true htwo, Bool.true_and, Int.toNat_natCast]
    exact isPrimeNat_of_prime hp
  · rw [isPrime, decide_eq_false (by omega), Bool.false_and]
  · by_cases hlow : 2 ≤ n
    · obtain ⟨k, rfl⟩ := Int.eq_ofNat_of_zero_le (Int.le_trans (by decide) hlow)
      rw [isPrime, Int.toNat_natCast,
        isPrimeNat_of_dvd hp (Int.natCast_dvd_natCast.mp hdvd) (fun h => hne (congrArg _ h)),
        Bool.and_false]
    · rw [isPrime, decide_eq_false hlow, Bool.false_and]
  · have hword : m ≤ 2 ^ 64 := Nat.le_trans (Nat.le_of_lt hm) (by decide)
    rw [powMod?_eq hlow hword, powMod_eq hlow]
    exact ⟨rfl, rfl⟩

/-- A prime of 61 bits, a negative number, a multiple of 37, and a power modulo the prime. -/
theorem isPrime_verdicts_mersenne :
    isPrime (mersenne 61) = true ∧ isPrime (-7) = false ∧ isPrime 111 = false ∧
      powMod 3 5 (mersenne 61) = 3 ^ 5 % mersenne 61 := by
  have hprime : (mersenne 61).Prime := lucas_lehmer_sufficiency 61 (by decide) (by norm_num)
  obtain ⟨hprimes, hsmall, hmultiples, hpowers⟩ := isPrime_verdicts
  exact ⟨hprimes _ hprime, hsmall _ (by decide), hmultiples 111 37 (by decide) (by decide)
    (by decide), (hpowers 3 5 _ (by decide) (by decide)).1⟩

end IntegerClass
end Amend
