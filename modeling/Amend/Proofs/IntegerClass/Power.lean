/-
Powers by repeated squaring.  Each round of the loop leaves the collected factors times the rest of
the power as they are, modulo `m`, and takes one bit of the exponent.  Everything that it computes
stays below the modulus, so it can be done in machine words, whose products have twice the bits.
-/
import Amend.Rule.IntegerClass
import Mathlib.Data.Nat.ModEq
import Mathlib.Tactic.Ring

namespace Amend
namespace IntegerClass

variable {m fuel result base exp : Nat}

/-! ## The power -/

/-- What one round collects and what it leaves to the next ones is the power it began with. -/
theorem round_modEq (m result base exp : Nat) :
    (if exp % 2 = 1 then result * base % m else result) * (base * base % m) ^ (exp / 2) ≡
      result * base ^ exp [MOD m] := by
  have hsquare : (base * base % m) ^ (exp / 2) ≡ (base * base) ^ (exp / 2) [MOD m] :=
    (Nat.mod_modEq _ _).pow _
  by_cases hodd : exp % 2 = 1
  · have hexp : exp = 2 * (exp / 2) + 1 := by omega
    rw [if_pos hodd]
    calc result * base % m * (base * base % m) ^ (exp / 2)
        ≡ result * base * (base * base) ^ (exp / 2) [MOD m] := (Nat.mod_modEq _ _).mul hsquare
      _ = result * base ^ (2 * (exp / 2) + 1) := by ring
      _ = result * base ^ exp := by rw [← hexp]
  · have hexp : exp = 2 * (exp / 2) := by omega
    rw [if_neg hodd]
    calc result * (base * base % m) ^ (exp / 2)
        ≡ result * (base * base) ^ (exp / 2) [MOD m] := hsquare.mul_left _
      _ = result * base ^ (2 * (exp / 2)) := by ring
      _ = result * base ^ exp := by rw [← hexp]

theorem powModFrom_eq (hresult : result < m) (hfuel : exp < 2 ^ fuel) :
    powModFrom m fuel result base exp = result * base ^ exp % m := by
  induction fuel generalizing result base exp with
  | zero =>
    have hexp : exp = 0 := by omega
    rw [hexp, powModFrom, Nat.pow_zero, Nat.mul_one, Nat.mod_eq_of_lt hresult]
  | succ fuel ih =>
    rw [powModFrom]
    by_cases hexp : exp = 0
    · rw [if_pos hexp, hexp, Nat.pow_zero, Nat.mul_one, Nat.mod_eq_of_lt hresult]
    · have hcollected : (if exp % 2 = 1 then result * base % m else result) < m := by
        split
        · exact Nat.mod_lt _ (by omega)
        · exact hresult
      rw [if_neg hexp, ih hcollected (by omega)]
      exact round_modEq m result base exp

theorem powMod_eq (hm : 1 < m) (base exp : Nat) : powMod base exp m = base ^ exp % m := by
  rw [powMod, powModFrom_eq hm Nat.lt_log2_self, Nat.one_mul]
  exact (Nat.mod_modEq base m).pow exp

/-! ## In machine words -/

/-- A value of so many bits, if it fits. -/
def fit? (bits n : Nat) : Option Nat := if n < 2 ^ bits then some n else none

/-- A product of two 64-bit words, formed in 128 bits, reduced to a word. -/
def mulMod? (a b m : Nat) : Option Nat := do
  let product ← fit? 128 (a * b)
  fit? 64 (product % m)

/-- The loop of `powModFrom` with every product formed in machine words.  It gives no result as
soon as one overflows. -/
def powModFrom? (m : Nat) : Nat → Nat → Nat → Nat → Option Nat
  | 0, result, _, _ => some result
  | fuel + 1, result, base, exp =>
    if exp = 0 then some result
    else do
      let result ← if exp % 2 = 1 then mulMod? result base m else some result
      let base ← mulMod? base base m
      powModFrom? m fuel result base (exp / 2)

/-- A power, reduced after every product, in machine words. -/
def powMod? (base exp m : Nat) : Option Nat :=
  powModFrom? m (exp.log2 + 1) 1 (base % m) exp

theorem fit?_of_lt {bits n : Nat} (h : n < 2 ^ bits) : fit? bits n = some n := if_pos h

theorem mulMod?_eq {a b : Nat} (hm : m ≤ 2 ^ 64) (ha : a < m) (hb : b < m) :
    mulMod? a b m = some (a * b % m) := by
  have hproduct : a * b < 2 ^ 128 := by
    calc a * b < m * m := Nat.mul_lt_mul'' ha hb
      _ ≤ 2 ^ 64 * 2 ^ 64 := Nat.mul_le_mul hm hm
      _ = 2 ^ 128 := by rw [← Nat.pow_add]
  have hmod : a * b % m < m := Nat.mod_lt _ (by omega)
  rw [mulMod?, fit?_of_lt hproduct, Option.bind_eq_bind, Option.bind_some,
    fit?_of_lt (Nat.lt_of_lt_of_le hmod hm)]

/-- No product of the loop overflows, and its result is that of the loop on natural numbers. -/
theorem powModFrom?_eq (hm : m ≤ 2 ^ 64) (hresult : result < m) (hbase : base < m) :
    powModFrom? m fuel result base exp = some (powModFrom m fuel result base exp) := by
  induction fuel generalizing result base exp with
  | zero => rfl
  | succ fuel ih =>
    have hsquare : base * base % m < m := Nat.mod_lt _ (by omega)
    have hproduct : result * base % m < m := Nat.mod_lt _ (by omega)
    rw [powModFrom?, powModFrom, mulMod?_eq hm hbase hbase, mulMod?_eq hm hresult hbase]
    by_cases hexp : exp = 0
    · rw [if_pos hexp, if_pos hexp]
    · rw [if_neg hexp, if_neg hexp]
      by_cases hodd : exp % 2 = 1
      · rw [if_pos hodd, if_pos hodd]
        exact ih hproduct hsquare
      · rw [if_neg hodd, if_neg hodd]
        exact ih hresult hsquare

theorem powMod?_eq (hlow : 1 < m) (hm : m ≤ 2 ^ 64) (base exp : Nat) :
    powMod? base exp m = some (powMod base exp m) :=
  powModFrom?_eq hm hlow (Nat.mod_lt _ (by omega))

end IntegerClass
end Amend
