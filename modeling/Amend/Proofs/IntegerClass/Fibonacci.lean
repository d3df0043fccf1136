/-
Fibonacci numbers among the signed 64-bit integers.  The loop holds two neighbouring terms and
gives up when their sum is no signed integer.  That sum is the term after the next, so the loop
gives up one term early: the 92nd term is the greatest signed one, and it is never looked at.
-/
import Amend.Proofs.Json.Integers
import Amend.Proofs.Rule.Spelling
import Mathlib.Data.Nat.Fib.Basic

namespace Amend
namespace IntegerClass

/-! ## The terms in the signed range -/

theorem fib_ninetyTwo : Nat.fib 92 = 7540113804746346429 := by
  rw [← Nat.fastFib_eq]
  decide

theorem fib_ninetyThree : Nat.fib 93 = 12200160415121876738 := by
  rw [← Nat.fastFib_eq]
  decide

/-- The sum of two neighbouring terms is the term after them, and the 92nd is the last one that
is a signed integer. -/
theorem maxSigned_lt_fib_add_iff {k : Nat} :
    Number.maxSigned < (Nat.fib k : Int) + Nat.fib (k + 1) ↔ 91 ≤ k := by
  have hsum : (Nat.fib k : Int) + Nat.fib (k + 1) = Nat.fib (k + 2) := by
    rw [Nat.fib_add_two, Int.natCast_add]
  rw [hsum, Number.maxSigned]
  constructor
  · intro hlt
    refine Nat.not_lt.mp fun hk => ?_
    have hmono : Nat.fib (k + 2) ≤ Nat.fib 92 := Nat.fib_mono (by omega)
    rw [fib_ninetyTwo] at hmono
    omega
  · intro hk
    have hmono : Nat.fib 93 ≤ Nat.fib (k + 2) := Nat.fib_mono (by omega)
    rw [fib_ninetyThree] at hmono
    omega

/-! ## The loop -/

/-- From two neighbouring terms on the loop finds the terms up to the 91st.  What is left of its
93 rounds is what is left of the first 93 terms, so it never runs out of them. -/
theorem fibonacciFrom_fib {n : Int} {fuel k : Nat} (hfuel : k + fuel = 93) (hk : k ≤ 91) :
    fibonacciFrom n fuel (Nat.fib k) (Nat.fib (k + 1)) = true ↔
      ∃ j, k ≤ j ∧ j ≤ 91 ∧ n = Nat.fib j := by
  induction fuel generalizing k with
  | zero => omega
  | succ fuel ih =>
    unfold fibonacciFrom
    by_cases hlt : (Nat.fib k : Int) < n
    · have hlater : (∃ j, k ≤ j ∧ j ≤ 91 ∧ n = Nat.fib j) ↔
          ∃ j, k + 1 ≤ j ∧ j ≤ 91 ∧ n = Nat.fib j := by
        refine exists_congr fun j => and_congr_left fun ⟨_, hj⟩ => ?_
        have hne : k ≠ j := by
          rintro rfl
          omega
        omega
      rw [if_pos hlt, hlater]
      by_cases hlast : 91 ≤ k
      · rw [if_pos (maxSigned_lt_fib_add_iff.mpr hlast)]
        refine iff_of_false Bool.false_ne_true ?_
        rintro ⟨j, hj, hle, -⟩
        omega
      · rw [if_neg (mt maxSigned_lt_fib_add_iff.mp hlast), ← Int.natCast_add,
          ← Nat.fib_add_two]
        exact ih (by omega) (by omega)
    · rw [if_neg hlt, beq_iff_eq]
      constructor
      · intro heq
        exact ⟨k, Nat.le_refl k, hk, heq.symm⟩
      · rintro ⟨j, hj, -, rfl⟩
        have hmono : Nat.fib k ≤ Nat.fib j := Nat.fib_mono hj
        omega

theorem isFibonacci_iff {n : Int} : isFibonacci n = true ↔ ∃ j, j ≤ 91 ∧ n = Nat.fib j := by
  have hloop : fibonacciFrom n 93 (Nat.fib 0) (Nat.fib 1) = true ↔
      ∃ j, 0 ≤ j ∧ j ≤ 91 ∧ n = Nat.fib j := fibonacciFrom_fib rfl (Nat.zero_le 91)
  rw [isFibonacci, Bool.and_eq_true, decide_eq_true_iff]
  constructor
  · rintro ⟨-, hfound⟩
    obtain ⟨j, -, hj, heq⟩ := hloop.mp hfound
    exact ⟨j, hj, heq⟩
  · rintro ⟨j, hj, rfl⟩
    exact ⟨Int.natCast_nonneg _, hloop.mpr ⟨j, Nat.zero_le j, hj, rfl⟩⟩

/-- A term that is a signed integer is found, unless it is the greatest of them. -/
theorem isFibonacci_of_signed {n : Int} (h : Number.Signed n) :
    isFibonacci n = true ↔ (∃ k, n = Nat.fib k) ∧ n ≠ Nat.fib 92 := by
  obtain ⟨-, hmax⟩ := h
  rw [isFibonacci_iff]
  constructor
  · rintro ⟨j, hj, rfl⟩
    refine ⟨⟨j, rfl⟩, fun heq => ?_⟩
    have hmono : Nat.fib j ≤ Nat.fib 91 := Nat.fib_mono hj
    have hlt : Nat.fib 91 < Nat.fib 92 := Nat.fib_lt_fib_succ (by decide)
    omega
  · rintro ⟨⟨k, rfl⟩, hne⟩
    refine ⟨k, Nat.not_lt.mp fun hk => ?_, rfl⟩
    rcases Nat.lt_or_eq_of_le (Nat.succ_le_of_lt hk) with hbeyond | rfl
    · have hmono : Nat.fib 93 ≤ Nat.fib k := Nat.fib_mono hbeyond
      rw [fib_ninetyThree] at hmono
      rw [Number.maxSigned] at hmax
      omega
    · exact hne rfl

end IntegerClass

namespace Rule

/-! ## The check -/

/-- The check accepts the Fibonacci numbers among the signed integers but the greatest. -/
theorem evaluate_fibonacci_iff {n : Int} (h : Number.Signed n) :
    evaluate (.trait .fibonacci) (.num (.int n)) = .ok () ↔
      (∃ k, n = Nat.fib k) ∧ n ≠ Nat.fib 92 := by
  have hinteger : integer? (.num (.int n)) = some n := if_pos h
  have hcheck : evaluate (.trait .fibonacci) (.num (.int n)) = .ok () ↔
      (integer? (.num (.int n))).any IntegerClass.isFibonacci = true := ofInteger_eq_ok_iff
  rw [hcheck, hinteger, Option.any_some, IntegerClass.isFibonacci_of_signed h]

/-- The term before the greatest is accepted. -/
theorem evaluate_fibonacci_ninetyFirst :
    Number.Signed (Nat.fib 91) ∧
      evaluate (.trait .fibonacci) (.num (.int (Nat.fib 91))) = .ok () := by
  have hlt : Nat.fib 91 < Nat.fib 92 := Nat.fib_lt_fib_succ (by decide)
  have hsigned : Number.Signed (Nat.fib 91) := by
    rw [IntegerClass.fib_ninetyTwo] at hlt
    unfold Number.Signed Number.minSigned Number.maxSigned
    omega
  exact ⟨hsigned, (evaluate_fibonacci_iff hsigned).mpr ⟨⟨91, rfl⟩, by omega⟩⟩

/-- The greatest Fibonacci number among the signed integers is rejected. -/
theorem evaluate_fibonacci_greatest :
    Number.Signed 7540113804746346429 ∧ (7540113804746346429 : Int) = Nat.fib 92 ∧
      evaluate (.trait .fibonacci) (.num (.int 7540113804746346429)) =
        .error (.expected "a Fibonacci number") := by
  refine ⟨by decide, ?_, by decide⟩
  rw [IntegerClass.fib_ninetyTwo]
  rfl

end Rule
end Amend
