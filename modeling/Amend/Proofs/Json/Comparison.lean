/-
Equality and order of integers.  Integers are compared as doubles, so two of them are told apart
unless they have one double.  Up to 53 bits that never happens.
-/
import Amend.Json.Order
import Amend.Proofs.Json.Integers

namespace Amend

open Binary64 (rounded)
open Number (InRange)

namespace Number

/-- Two integers that have one double. -/
def Confused (a b : Int) : Prop := a ≠ b ∧ rounded a = rounded b

instance (a b : Int) : Decidable (Confused a b) := by
  unfold Confused
  infer_instance

variable {a b : Int}

theorem not_confused_of_le (ha : a.natAbs ≤ 0x20000000000000) (hb : b.natAbs ≤ 0x20000000000000) :
    ¬ Confused a b := by
  intro ⟨hne, hrounded⟩
  rw [Binary64.rounded_of_le ha, Binary64.rounded_of_le hb] at hrounded
  exact hne hrounded

theorem Confused.symm (h : Confused a b) : Confused b a := ⟨h.1.symm, h.2.symm⟩

theorem rounded_eq_iff_of_not_confused (h : ¬ Confused a b) : rounded a = rounded b ↔ a = b := by
  constructor
  · intro hrounded
    by_cases hab : a = b
    · exact hab
    · exact absurd ⟨hab, hrounded⟩ h
  · intro hab
    rw [hab]

/-- Rounding keeps the order of two integers that it does not confuse. -/
theorem rounded_lt_of_lt (hlt : a < b) (h : ¬ Confused a b) : rounded a < rounded b := by
  have hmono := Binary64.rounded_mono (Int.le_of_lt hlt)
  have hne : rounded a ≠ rounded b := fun hrounded => h ⟨Int.ne_of_lt hlt, hrounded⟩
  omega

theorem rounded_le_iff : rounded a ≤ rounded b ↔ a ≤ b ∨ Confused a b := by
  constructor
  · intro h
    by_cases hle : a ≤ b
    · exact .inl hle
    · have hmono := Binary64.rounded_mono (Int.le_of_lt (Int.not_le.mp hle))
      exact .inr ⟨by omega, by omega⟩
  · intro h
    rcases h with hle | hconfused
    · exact Binary64.rounded_mono hle
    · exact Int.le_of_eq hconfused.2

end Number

namespace Value

open Number (Confused)

variable {a b : Int}

theorem equal_int (ha : InRange a) (hb : InRange b) :
    (Value.int a).equal (.int b) = decide (rounded a = rounded b) :=
  Binary64.eq_of_isWhole (Number.isWhole_toBinary64 ha) (Number.isWhole_toBinary64 hb)

/-- Doubles that are ordered as two integers are compare as these. -/
theorem compareNumbers_of_lt {d e : Binary64} {p q : Int} (h : d.lt e = decide (p < q))
    (h' : e.lt d = decide (q < p)) : compareNumbers d e = Ord.compare p q := by
  rw [compareNumbers, h, h']
  rcases Int.lt_trichotomy p q with hlt | heq | hgt
  · rw [if_pos (decide_eq_true hlt), Int.compare_eq_lt.mpr hlt]
  · simp only [heq, Int.lt_irrefl, decide_false, Bool.false_eq_true, if_false]
    exact (Int.compare_eq_eq.mpr rfl).symm
  · have hnot : ¬ p < q := Int.not_lt.mpr (Int.le_of_lt hgt)
    rw [decide_eq_false hnot, if_neg Bool.false_ne_true, if_pos (decide_eq_true hgt),
      Int.compare_eq_gt.mpr hgt]

theorem compare_int (ha : InRange a) (hb : InRange b) :
    (Value.int a).compare (.int b) = Ord.compare (rounded a) (rounded b) := by
  have hwholea := Number.isWhole_toBinary64 ha
  have hwholeb := Number.isWhole_toBinary64 hb
  show compareNumbers (Number.int a).toBinary64 (Number.int b).toBinary64 = _
  exact compareNumbers_of_lt (Binary64.lt_of_isWhole hwholea hwholeb)
    (Binary64.lt_of_isWhole hwholeb hwholea)

theorem equal_int_iff (ha : InRange a) (hb : InRange b) :
    (Value.int a).equal (.int b) = decide (a = b) ↔ ¬ Confused a b := by
  rw [equal_int ha hb, decide_eq_decide]
  constructor
  · intro h hconfused
    exact hconfused.1 (h.mp hconfused.2)
  · exact Number.rounded_eq_iff_of_not_confused

theorem compare_int_iff (ha : InRange a) (hb : InRange b) :
    (Value.int a).compare (.int b) = Ord.compare a b ↔ ¬ Confused a b := by
  rw [compare_int ha hb]
  constructor
  · intro h hconfused
    rw [Int.compare_eq_eq.mpr hconfused.2] at h
    exact hconfused.1 (Int.compare_eq_eq.mp h.symm)
  · intro h
    rcases Int.lt_trichotomy a b with hlt | heq | hgt
    · rw [Int.compare_eq_lt.mpr hlt, Int.compare_eq_lt.mpr (Number.rounded_lt_of_lt hlt h)]
    · rw [heq, Int.compare_eq_eq.mpr rfl, Int.compare_eq_eq.mpr rfl]
    · have hback : ¬ Confused b a := fun hconfused => h hconfused.symm
      rw [Int.compare_eq_gt.mpr hgt, Int.compare_eq_gt.mpr (Number.rounded_lt_of_lt hgt hback)]

end Value
end Amend
