/-
What a number denotes.  A number of either sort is a whole count of the units in which doubles are
counted, so the two sorts have one line of magnitudes.  Its double is the one nearest to it, and
two numbers of one magnitude have the same double, but for the sign of zero.
-/
import Amend.Json.Value
import Amend.Proofs.Binary64.Places
import Amend.Proofs.Json.Integers

namespace Amend
namespace Number

open Binary64 (Alike IsWhole place)

/-- The value of a number, in units. -/
def units : Number → Int
  | .int n => n * Binary64.one
  | .float x => x.units

/-- A number's double stands in the place nearest to the number. -/
theorem position_toBinary64 (a : Number) : a.toBinary64.position = some (place a.units) := by
  cases a with
  | int n => exact Binary64.position_ofInt n
  | float x =>
    rw [units, Binary64.place_units]
    rfl

/-- An integer and a float of one magnitude have one double, but for the sign of zero. -/
theorem alike_ofInt {n : Int} {x : Binary64.Finite} (h : n * Binary64.one = x.units) :
    Alike (.ofInt n) (.finite x) := by
  have hplace := Binary64.position_ofInt n
  rw [Binary64.ofInt_of_units h] at hplace ⊢
  refine .of_units ?_
  rw [← Binary64.place_units x, ← h]
  exact Option.some.inj hplace

theorem alike_toBinary64 {a b : Number} (h : a.units = b.units) :
    Alike a.toBinary64 b.toBinary64 := by
  cases a with
  | int n =>
    cases b with
    | int m =>
      rw [Int.eq_of_mul_eq_mul_right Binary64.one_ne_zero h]
      exact .inl rfl
    | float x => exact alike_ofInt h
  | float x =>
    cases b with
    | int m => exact (alike_ofInt h.symm).symm
    | float y => exact .of_units h

/-! ## Comparison -/

variable {rel : Int → Int → Bool}

theorem compareWith_toBinary64 (a b : Number) :
    Binary64.compareWith rel a.toBinary64 b.toBinary64 = rel (place a.units) (place b.units) :=
  Binary64.compareWith_of_position a.position_toBinary64 b.position_toBinary64

/-- The doubles of two numbers are in order if the numbers are, or if they are one place. -/
theorem lt_toBinary64_eq_false_iff {a b : Number} :
    b.toBinary64.lt a.toBinary64 = false ↔
      a.units ≤ b.units ∨ a.toBinary64.eq b.toBinary64 = true := by
  rw [Binary64.lt, Binary64.eq, compareWith_toBinary64, compareWith_toBinary64,
    decide_eq_false_iff_not, decide_eq_true_iff]
  constructor
  · intro hplace
    by_cases hunits : a.units ≤ b.units
    · exact .inl hunits
    · have hmono := Binary64.place_mono (Int.le_of_lt (Int.not_le.mp hunits))
      exact .inr (by omega)
  · rintro (hunits | hplace)
    · have hmono := Binary64.place_mono hunits
      omega
    · omega

/-- A small integer is a double. -/
theorem place_mul_one {k : Int} (h : k.natAbs ≤ 0x20000000000000) :
    place (k * Binary64.one) = k * Binary64.one := by
  have hlog : k.natAbs.log2 ≤ Nat.log2 0x20000000000000 := Binary64.log2_mono h
  have htop : Nat.log2 0x20000000000000 ≤ 1022 := by decide
  obtain ⟨x, hx, hunits⟩ := Binary64.isWhole_ofInt (Nat.le_trans hlog htop)
  have hplace := Binary64.position_ofInt k
  rw [hx, Binary64.position, hunits, Binary64.rounded_of_le h] at hplace
  exact (Option.some.inj hplace).symm

theorem place_mul_one_le {n k : Int} (hk : k.natAbs ≤ 0x20000000000000) (h : n ≤ k) :
    place (n * Binary64.one) ≤ k * Binary64.one := by
  rw [← place_mul_one hk]
  exact Binary64.place_mono (Int.mul_le_mul_of_nonneg_right h (Int.natCast_nonneg _))

theorem le_place_mul_one {n k : Int} (hk : k.natAbs ≤ 0x20000000000000) (h : k ≤ n) :
    k * Binary64.one ≤ place (n * Binary64.one) := by
  rw [← place_mul_one hk]
  exact Binary64.place_mono (Int.mul_le_mul_of_nonneg_right h (Int.natCast_nonneg _))

/-- Against a small integer a number compares as its double does. -/
theorem place_le_iff (a : Number) {k : Int} (hk : k.natAbs < 0x20000000000000) :
    place a.units ≤ k * Binary64.one ↔ a.units ≤ k * Binary64.one := by
  cases a with
  | float x => rw [units, Binary64.place_units]
  | int n =>
    have hone : (0 : Int) < Binary64.one := Int.natCast_pos.mpr Binary64.one_pos
    rw [units, Int.mul_le_mul_right hone]
    refine ⟨fun hplace => Int.not_lt.mp fun hlt => ?_, place_mul_one_le (Nat.le_of_lt hk)⟩
    have hnext : (k + 1) * Binary64.one ≤ place (n * Binary64.one) :=
      le_place_mul_one (by omega) hlt
    rw [Int.add_mul, Int.one_mul] at hnext
    omega

theorem le_place_iff (a : Number) {k : Int} (hk : k.natAbs < 0x20000000000000) :
    k * Binary64.one ≤ place a.units ↔ k * Binary64.one ≤ a.units := by
  cases a with
  | float x => rw [units, Binary64.place_units]
  | int n =>
    have hone : (0 : Int) < Binary64.one := Int.natCast_pos.mpr Binary64.one_pos
    rw [units, Int.mul_le_mul_right hone]
    refine ⟨fun hplace => Int.not_lt.mp fun hlt => ?_, le_place_mul_one (Nat.le_of_lt hk)⟩
    have hnext : place (n * Binary64.one) ≤ (k - 1) * Binary64.one :=
      place_mul_one_le (by omega) (by omega)
    rw [Int.sub_mul, Int.one_mul] at hnext
    omega

theorem compareWith_ofInt (a : Number) {k : Int} (hk : k.natAbs < 0x20000000000000) :
    Binary64.compareWith rel a.toBinary64 (.ofInt k) = rel (place a.units) (k * Binary64.one) := by
  rw [← place_mul_one (Nat.le_of_lt hk)]
  exact Binary64.compareWith_of_position a.position_toBinary64 (Binary64.position_ofInt k)

theorem le_ofInt (a : Number) {k : Int} (hk : k.natAbs < 0x20000000000000) :
    a.toBinary64.le (.ofInt k) = decide (a.units ≤ k * Binary64.one) := by
  rw [Binary64.le, compareWith_ofInt a hk]
  exact decide_eq_decide.mpr (place_le_iff a hk)

theorem eq_ofInt (a : Number) {k : Int} (hk : k.natAbs < 0x20000000000000) :
    a.toBinary64.eq (.ofInt k) = decide (a.units = k * Binary64.one) := by
  rw [Binary64.eq, compareWith_ofInt a hk]
  refine decide_eq_decide.mpr ?_
  have hle := place_le_iff a hk
  have hge := le_place_iff a hk
  omega

/-- A number is an integer exactly where its double is, though the two may be different integers. -/
theorem isIntegral_toBinary64 {a : Number} (ha : a.Ranged) :
    a.toBinary64.isIntegral = true ↔ ∃ n : Int, a.units = n * Binary64.one := by
  cases a with
  | int n =>
    have hwhole := isWhole_toBinary64 (ha n rfl)
    exact iff_of_true (Binary64.isIntegral_of_isWhole hwhole) ⟨n, rfl⟩
  | float x => exact Binary64.Finite.isIntegral_iff

end Number
end Amend
