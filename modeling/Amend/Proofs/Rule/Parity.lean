/-
Even, odd and fractional numbers.  Whether a number is fractional is asked of its double, and
whether it is even or odd of its signed integer.  The two readings agree on every number that is
fractional or a signed integer, so that one of the three rules accepts it.  An integer beyond the
signed range is not fractional and has no signed integer, and none of the three accepts it.
-/
import Amend.Proofs.Json.Integers
import Amend.Proofs.Rule.Spelling
import Mathlib.Logic.ExistsUnique

namespace Amend

namespace Number

/-- A number that is fractional or a signed integer.  The least signed integer is left out where it
is written as a float. -/
def Classed (a : Number) : Prop :=
  ∀ n : Int, a.units = n * Binary64.one → Signed n ∧ (n = minSigned → a = .int minSigned)

end Number

namespace Rule

open Number (InRange Ranged Signed Classed)

variable {a : Number} {n : Int}

/-! ## The signed integer of a number -/

theorem integer?_of_signed (hunits : a.units = n * Binary64.one) (hn : Signed n)
    (hleast : n = Number.minSigned → a = .int Number.minSigned) : integer? (.num a) = some n := by
  cases a with
  | int m =>
    obtain rfl : m = n := Int.eq_of_mul_eq_mul_right Binary64.one_ne_zero hunits
    exact if_pos hn
  | float x =>
    rw [integer?_float hunits]
    refine if_pos ?_
    have hne : n ≠ Number.minSigned := fun h => nomatch hleast h
    unfold Signed Number.maxSigned at hn
    unfold Number.minSigned at hn hne
    omega

theorem integer?_of_not_signed (hunits : a.units = n * Binary64.one) (hn : ¬Signed n) :
    integer? (.num a) = none := by
  cases a with
  | int m =>
    obtain rfl : m = n := Int.eq_of_mul_eq_mul_right Binary64.one_ne_zero hunits
    exact if_neg hn
  | float x =>
    rw [integer?_float hunits]
    refine if_neg ?_
    unfold Signed Number.minSigned Number.maxSigned at hn
    omega

theorem integer?_of_fractional (h : ∀ n : Int, a.units ≠ n * Binary64.one) :
    integer? (.num a) = none := by
  cases a with
  | int n => exact absurd rfl (h n)
  | float x =>
    have hintegral : x.isIntegral = false := by
      refine Bool.eq_false_iff.mpr fun hx => ?_
      obtain ⟨n, hn⟩ := Binary64.Finite.isIntegral_iff.mp hx
      exact h n hn
    simp only [integer?, hintegral, Bool.false_and, Bool.false_eq_true, if_false]

/-! ## The three rules -/

/-- The traits that tell even, odd and fractional numbers apart. -/
def parities : List Trait := [.even, .odd, .float]

theorem evaluate_float_iff (ha : a.Ranged) :
    evaluate (.trait .float) (.num a) = .ok () ↔ ¬∃ n : Int, a.units = n * Binary64.one := by
  have hverdict : evaluate (.trait .float) (.num a) = .ok () ↔
      (!a.toBinary64.isIntegral) = true := ensure_eq_ok_iff
  rw [hverdict, ← Number.isIntegral_toBinary64 ha, Bool.not_eq_true', Bool.not_eq_true]

theorem evaluate_even_iff :
    evaluate (.trait .even) (.num a) = .ok () ↔
      ∃ n, integer? (.num a) = some n ∧ (2 : Int) ∣ n := by
  have hverdict : evaluate (.trait .even) (.num a) = .ok () ↔
      (integer? (.num a)).any (fun n => n.tmod 2 == 0) = true := checkTrait_even_iff .log
  simp only [hverdict, Option.any_eq_true, beq_iff_eq, Int.dvd_iff_tmod_eq_zero]

theorem evaluate_odd_iff :
    evaluate (.trait .odd) (.num a) = .ok () ↔
      ∃ n, integer? (.num a) = some n ∧ ¬(2 : Int) ∣ n := by
  have hverdict : evaluate (.trait .odd) (.num a) = .ok () ↔
      (integer? (.num a)).any (fun n => n.tmod 2 != 0) = true := ofInteger_eq_ok_iff
  simp only [hverdict, Option.any_eq_true, bne_iff_ne, Int.dvd_iff_tmod_eq_zero, ne_eq]

theorem evaluate_even_of_units (ha : a.Classed) (hunits : a.units = n * Binary64.one) :
    evaluate (.trait .even) (.num a) = .ok () ↔ (2 : Int) ∣ n := by
  obtain ⟨hsigned, hleast⟩ := ha n hunits
  rw [evaluate_even_iff, integer?_of_signed hunits hsigned hleast]
  simp only [Option.some.injEq, exists_eq_left']

theorem evaluate_odd_of_units (ha : a.Classed) (hunits : a.units = n * Binary64.one) :
    evaluate (.trait .odd) (.num a) = .ok () ↔ ¬(2 : Int) ∣ n := by
  obtain ⟨hsigned, hleast⟩ := ha n hunits
  rw [evaluate_odd_iff, integer?_of_signed hunits hsigned hleast]
  simp only [Option.some.injEq, exists_eq_left']

/-- A number without a signed integer is neither even nor odd. -/
theorem eq_float_of_integer?_eq_none {t : Trait} (hnone : integer? (.num a) = none)
    (ht : t ∈ parities) (haccepts : evaluate (.trait t) (.num a) = .ok ()) : t = .float := by
  simp only [parities, List.mem_cons, List.not_mem_nil, or_false] at ht
  rcases ht with rfl | rfl | rfl
  · obtain ⟨n, hn, -⟩ := evaluate_even_iff.mp haccepts
    rw [hnone] at hn
    nomatch hn
  · obtain ⟨n, hn, -⟩ := evaluate_odd_iff.mp haccepts
    rw [hnone] at hn
    nomatch hn
  · rfl

/-- A signed integer has just one of the traits, and that is even or odd. -/
theorem existsUnique_parity_of_units (hranged : a.Ranged) (ha : a.Classed)
    (hunits : a.units = n * Binary64.one) :
    ∃! t, t ∈ parities ∧ evaluate (.trait t) (.num a) = .ok () := by
  have heven := evaluate_even_of_units ha hunits
  have hodd := evaluate_odd_of_units ha hunits
  have hfloat := mt (evaluate_float_iff hranged).mp (not_not_intro ⟨n, hunits⟩)
  by_cases hdvd : (2 : Int) ∣ n
  · refine ⟨.even, ⟨by decide, heven.mpr hdvd⟩, fun t ⟨ht, haccepts⟩ => ?_⟩
    simp only [parities, List.mem_cons, List.not_mem_nil, or_false] at ht
    rcases ht with rfl | rfl | rfl
    · rfl
    · exact absurd hdvd (hodd.mp haccepts)
    · exact absurd haccepts hfloat
  · refine ⟨.odd, ⟨by decide, hodd.mpr hdvd⟩, fun t ⟨ht, haccepts⟩ => ?_⟩
    simp only [parities, List.mem_cons, List.not_mem_nil, or_false] at ht
    rcases ht with rfl | rfl | rfl
    · exact absurd (heven.mp haccepts) hdvd
    · rfl
    · exact absurd haccepts hfloat

/-- A fractional number has just one of the traits. -/
theorem existsUnique_parity_of_fractional (hranged : a.Ranged)
    (hfractional : ¬∃ n : Int, a.units = n * Binary64.one) :
    ∃! t, t ∈ parities ∧ evaluate (.trait t) (.num a) = .ok () := by
  have hnone := integer?_of_fractional fun n hn => hfractional ⟨n, hn⟩
  refine ⟨.float, ⟨by decide, (evaluate_float_iff hranged).mpr hfractional⟩, ?_⟩
  exact fun t ⟨ht, haccepts⟩ => eq_float_of_integer?_eq_none hnone ht haccepts

theorem not_evaluate_parity_of_not_signed (hranged : a.Ranged)
    (hunits : a.units = n * Binary64.one) (hn : ¬Signed n) {t : Trait} (ht : t ∈ parities) :
    evaluate (.trait t) (.num a) ≠ .ok () := by
  intro haccepts
  obtain rfl := eq_float_of_integer?_eq_none (integer?_of_not_signed hunits hn) ht haccepts
  exact (evaluate_float_iff hranged).mp haccepts ⟨n, hunits⟩

/-- Even, odd and fractional numbers share out all numbers that are fractional or a signed integer,
and an integer among them is even if two divides it.  The integers beyond the signed range are
neither. -/
theorem evaluate_parity (hranged : a.Ranged) :
    (a.Classed → (∃! t, t ∈ parities ∧ evaluate (.trait t) (.num a) = .ok ()) ∧
        ∀ n : Int, a.units = n * Binary64.one →
          (evaluate (.trait .even) (.num a) = .ok () ↔ (2 : Int) ∣ n)) ∧
      ∀ n : Int, a.units = n * Binary64.one → ¬Signed n →
        ∀ t ∈ parities, evaluate (.trait t) (.num a) ≠ .ok () := by
  refine ⟨fun ha => ⟨?_, fun n => evaluate_even_of_units ha⟩, fun n hunits hn t ht => ?_⟩
  · by_cases hwhole : ∃ n : Int, a.units = n * Binary64.one
    · obtain ⟨n, hunits⟩ := hwhole
      exact existsUnique_parity_of_units hranged ha hunits
    · exact existsUnique_parity_of_fractional hranged hwhole
  · exact not_evaluate_parity_of_not_signed hranged hunits hn ht

/-- The least signed integer has one parity as an integer, and is even. -/
theorem evaluate_parity_least :
    Ranged (.int Number.minSigned) ∧ Classed (.int Number.minSigned) ∧
      (∃! t, t ∈ parities ∧ evaluate (.trait t) (.num (.int Number.minSigned)) = .ok ()) ∧
      evaluate (.trait .even) (.num (.int Number.minSigned)) = .ok () := by
  have hranged : Ranged (.int Number.minSigned) := Number.ranged_int (by decide)
  have hclassed : Classed (.int Number.minSigned) := by
    intro n hn
    obtain rfl : Number.minSigned = n := Int.eq_of_mul_eq_mul_right Binary64.one_ne_zero hn
    exact ⟨by decide, fun _ => rfl⟩
  obtain ⟨hunique, heven⟩ := (evaluate_parity hranged).1 hclassed
  exact ⟨hranged, hclassed, hunique, (heven Number.minSigned rfl).mpr (by decide)⟩

/-- The first integer beyond the signed range has none of the three traits. -/
theorem evaluate_parity_beyond :
    InRange 0x8000000000000000 ∧
      ¬∃! t, t ∈ parities ∧
        evaluate (.trait t) (.num (.int 0x8000000000000000)) = .ok () := by
  have hrange : InRange 0x8000000000000000 := by decide
  refine ⟨hrange, ?_⟩
  rintro ⟨t, ⟨ht, haccepts⟩, -⟩
  exact not_evaluate_parity_of_not_signed (Number.ranged_int hrange) rfl (by decide) ht haccepts

end Rule
end Amend
