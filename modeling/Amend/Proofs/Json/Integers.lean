/-
Integers among the JSON numbers.  Every integer of the signed and of the unsigned 64-bit range has
a double, and a double that is a whole number is an integer again exactly where it is in the
signed range.
-/
import Amend.Json.Value
import Amend.Proofs.Binary64.Integers

namespace Amend
namespace Number

/-- The integers that a JSON number can be. -/
def InRange (n : Int) : Prop := minSigned ≤ n ∧ n ≤ maxUnsigned

/-- A number as JSON has it: any float, and an integer of the range. -/
def Ranged (a : Number) : Prop := ∀ n, a = .int n → InRange n

/-- The signed 64-bit integers. -/
def Signed (n : Int) : Prop := minSigned ≤ n ∧ n ≤ maxSigned

instance (n : Int) : Decidable (InRange n) := by
  unfold InRange
  infer_instance

instance (n : Int) : Decidable (Signed n) := by
  unfold Signed
  infer_instance

variable {n : Int}

theorem ranged_int (h : InRange n) : Ranged (.int n) := by
  intro m hm
  rwa [← Number.int.inj hm]

theorem ranged_float (x : Binary64.Finite) : Ranged (.float x) := nofun

theorem inRange_of_signed (h : Signed n) : InRange n := by
  unfold Signed maxSigned at h
  unfold InRange maxUnsigned
  omega

theorem natAbs_le_of_signed (h : Signed n) : n.natAbs ≤ 0x8000000000000000 := by
  unfold Signed minSigned maxSigned at h
  omega

theorem natAbs_le_of_inRange (h : InRange n) : n.natAbs ≤ 0xFFFFFFFFFFFFFFFF := by
  unfold InRange minSigned maxUnsigned at h
  omega

theorem toSigned?_eq_some_iff {a : Number} : a.toSigned? = some n ↔ a = .int n ∧ Signed n := by
  cases a with
  | float x => exact ⟨nofun, fun h => nomatch h.1⟩
  | int m =>
    by_cases hsigned : Signed m
    · have hm : (Number.int m).toSigned? = some m := if_pos hsigned
      rw [hm, Option.some.injEq, Number.int.injEq]
      exact ⟨fun h => ⟨h, h ▸ hsigned⟩, And.left⟩
    · have hm : (Number.int m).toSigned? = none := if_neg hsigned
      rw [hm]
      exact ⟨nofun, fun h => absurd (Number.int.inj h.1 ▸ h.2) hsigned⟩

/-! ## To doubles and back -/

theorem isWhole_toBinary64 (h : InRange n) :
    (Number.int n).toBinary64.IsWhole (Binary64.rounded n) := by
  have hlog : n.natAbs.log2 ≤ Nat.log2 0xFFFFFFFFFFFFFFFF :=
    Binary64.log2_mono (natAbs_le_of_inRange h)
  have htop : Nat.log2 0xFFFFFFFFFFFFFFFF ≤ 1022 := by decide
  exact Binary64.isWhole_ofInt (Nat.le_trans hlog htop)

/-- Rounding leaves the range by one at most. -/
theorem natAbs_rounded_le (h : InRange n) :
    (Binary64.rounded n).natAbs ≤ 0x10000000000000000 := by
  have htop : Binary64.nearestWhole 0xFFFFFFFFFFFFFFFF = 0x10000000000000000 := by decide
  exact htop ▸ Binary64.natAbs_rounded_le (natAbs_le_of_inRange h)

theorem natAbs_rounded_le_of_signed (h : Signed n) :
    (Binary64.rounded n).natAbs ≤ 0x8000000000000000 := by
  have htop : Binary64.nearestWhole 0x8000000000000000 = 0x8000000000000000 := by decide
  exact htop ▸ Binary64.natAbs_rounded_le (natAbs_le_of_signed h)

/-- How a number that a double is turned into stands for an integer: as that integer in the signed
range, and as a float beyond it. -/
inductive StandsFor : Number → Int → Prop where
  | int {m : Int} (hsigned : Signed m) : StandsFor (.int m) m
  | float {x : Binary64.Finite} {m : Int} (hsigned : ¬Signed m)
      (hunits : x.units = m * Binary64.one) : StandsFor (.float x) m

theorem StandsFor.eq_int_iff {a : Number} {m k : Int} (h : StandsFor a m) :
    a = .int k ↔ Signed k ∧ m = k := by
  cases h with
  | int hsigned =>
    rw [Number.int.injEq]
    constructor
    · rintro rfl
      exact ⟨hsigned, rfl⟩
    · exact And.right
  | float hsigned hunits =>
    constructor
    · intro heq
      nomatch heq
    · rintro ⟨hk, rfl⟩
      exact absurd hk hsigned

theorem ofBinary64?_of_isWhole {d : Binary64} (h : d.IsWhole n) :
    ∃ number, ofBinary64? d = some number ∧ number.StandsFor n := by
  obtain ⟨x, rfl, hx⟩ := h
  have hintegral : x.isIntegral = true := Binary64.Finite.isIntegral_iff.mpr ⟨n, hx⟩
  have hint : x.toInt = n := Binary64.Finite.toInt_of_units hx
  unfold ofBinary64?
  simp only [hintegral, hint, Bool.true_and]
  by_cases hsigned : Signed n
  · rw [decide_eq_true hsigned.1, decide_eq_true hsigned.2]
    exact ⟨_, rfl, .int hsigned⟩
  · have hno : (decide (minSigned ≤ n) && decide (n ≤ maxSigned)) = false := by
      rw [← Bool.decide_and]
      exact decide_eq_false hsigned
    rw [hno]
    exact ⟨_, rfl, .float hsigned hx⟩

end Number
end Amend
