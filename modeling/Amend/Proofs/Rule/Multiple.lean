/-
Multiples of an integer.  The check divides two doubles and asks whether the quotient is nearly a
whole number, which it answers exactly.  Every multiple is accepted; what is no multiple is
accepted as well where the double nearest to the quotient is less than a billionth away from a
whole number, for which the number or the divisor has to be large.
-/
import Amend.Proofs.Binary64.Quotient
import Amend.Proofs.Json.Integers
import Amend.Proofs.Rule.Spelling
import Mathlib.Tactic.Linarith
import Mathlib.Tactic.Ring

namespace Amend
namespace Binary64

variable {m n : Int} {num den : Nat}

/-! ## Quotients of whole numbers -/

/-- The quotient of two whole numbers is the double nearest to their fraction. -/
theorem div_of_isWhole {d e : Binary64} (hd : d.IsWhole m) (he : e.IsWhole n) (hn : n ≠ 0) :
    ∃ neg, d.div e = ofRatio neg m.natAbs n.natAbs := by
  obtain ⟨x, rfl, hx⟩ := hd
  obtain ⟨y, rfl, hy⟩ := he
  refine ⟨x.neg != y.neg, ?_⟩
  unfold div
  simp only [if_neg (Finite.not_isZero_of_units hy hn)]
  rw [ofRatio, Finite.magnitude_of_units hx, Finite.magnitude_of_units hy,
    round_scale _ _ _ one_pos]

/-- Whether a quotient is near a whole number does not depend on its sign. -/
theorem nearWhole_ofRatio (neg : Bool) (hden : 0 < den) (hnum : num.log2 ≤ 1022) :
    (ofRatio neg num den).NearWhole ↔ (ofRatio false num den).NearWhole := by
  obtain ⟨x, hx, -, hmagnitude⟩ := ofRatio_eq_finite neg hden hnum
  obtain ⟨y, hy, -, hmagnitude'⟩ := ofRatio_eq_finite false hden hnum
  have hgap : x.gap = y.gap := by
    unfold Finite.gap Finite.ones
    rw [hmagnitude, hmagnitude']
  rw [hx, hy, nearWhole_finite_iff, nearWhole_finite_iff, hgap]

/-- A whole quotient stays whole, even where it is rounded. -/
theorem nearWhole_of_dvd (hden : 0 < den) (hnum : num.log2 ≤ 1022) (h : den ∣ num) :
    (ofRatio false num den).NearWhole := by
  obtain ⟨whole, rfl⟩ := h
  have hwhole : whole.log2 ≤ 1022 :=
    Nat.le_trans (log2_mono (Nat.le_mul_of_pos_left whole hden)) hnum
  have hratio : ofRatio false (den * whole) den = ofInt whole := by
    have hneg : decide ((whole : Int) < 0) = false := decide_eq_false (by omega)
    rw [ofInt, hneg, Int.natAbs_natCast, ofRatio, ofRatio, Nat.mul_comm den, Nat.mul_right_comm,
      ← round_scale _ _ 1 hden, Nat.one_mul]
  obtain ⟨x, hx, hunits⟩ := isWhole_ofInt (n := whole) hwhole
  refine ⟨x, rounded whole, hratio.trans hx, ?_⟩
  rw [hunits, Int.sub_self]
  exact one_pos

/-- A quotient that is not whole is at least one part of the divisor away from every whole number,
and rounding does not make up for that while neither of the two is large. -/
theorem not_nearWhole_of_not_dvd (hden : 0 < den)
    (hsmall : num * 1000000000 + den * 2 ^ 53 ≤ 2 ^ 53 * 1000000000) (h : ¬den ∣ num) :
    ¬(ofRatio false num den).NearWhole := by
  have hpos := one_pos
  have hnum : 0 < num := Nat.pos_of_ne_zero fun hzero => h (hzero ▸ Nat.dvd_zero den)
  have hbits : num.log2 ≤ 1022 := by
    have hlt : num.log2 < 53 := (Nat.log2_lt (by omega)).mpr (by omega)
    omega
  have hfull : 52 ≤ (num * one / den).log2 := by
    have hone : 2 ^ 52 * 1000000000 ≤ one :=
      Nat.le_trans (by decide) (Nat.le_of_dvd hpos (two_pow_dvd_one (s := 82) (by decide)))
    have hquotient : 2 ^ 52 ≤ num * one / den := by
      refine (Nat.le_div_iff_mul_le hden).mpr ?_
      calc 2 ^ 52 * den ≤ 2 ^ 52 * 1000000000 := Nat.mul_le_mul_left _ (by omega)
        _ ≤ one := hone
        _ ≤ num * one := Nat.le_mul_of_pos_left one hnum
    exact (Nat.le_log2 (by omega)).mpr hquotient
  have herror := nearestQuotient_error hden hfull
  obtain ⟨x, hx, hneg, hmagnitude⟩ := ofRatio_eq_finite false hden hbits
  rintro ⟨y, k, hy, hnear⟩
  obtain rfl := finite.inj (hx.symm.trans hy)
  rw [Finite.units, hneg, if_neg Bool.false_ne_true, hmagnitude] at hnear
  have hne : (num : Int) - k * den ≠ 0 := by
    intro heq
    have hdvd : (den : Int) ∣ num := ⟨k, by rw [Int.mul_comm]; omega⟩
    exact h (Int.natCast_dvd_natCast.mp hdvd)
  have hapart : one ≤ (((num : Int) - k * den) * one).natAbs := one_le_natAbs_mul hne
  -- The two errors together bridge what is between the quotient and the whole number.
  have htriangle : (((num : Int) - k * den) * one).natAbs ≤
      ((nearestQuotient (num * one) den * den : Nat) - (num * one : Nat) : Int).natAbs +
        ((nearestQuotient (num * one) den : Int) - k * one).natAbs * den := by
    have hsum : ((num : Int) - k * den) * one =
        ((nearestQuotient (num * one) den : Int) - k * one) * den -
          ((nearestQuotient (num * one) den * den : Nat) - (num * one : Nat) : Int) := by
      push_cast
      ring
    rw [hsum, ← Int.natAbs_natCast den, ← Int.natAbs_mul, Int.natAbs_natCast]
    omega
  generalize ((nearestQuotient (num * one) den * den : Nat) - (num * one : Nat) : Int).natAbs = a
    at herror htriangle
  generalize ((nearestQuotient (num * one) den : Int) - k * one).natAbs = b at hnear htriangle
  generalize (one : Nat) = u at *
  have hscaled : b * 1000000000 * den < u * den := Nat.mul_lt_mul_of_pos_right hnear hden
  have hbound := Nat.mul_le_mul_right u hsmall
  nlinarith

end Binary64

namespace Rule

/-! ## The tolerance -/

/-- The tolerance is the double nearest to a billionth, which lies above it, so the two leave the
same doubles below. -/
theorem lt_tolerance_iff (y : Binary64.Finite) :
    (Binary64.finite y).abs.lt tolerance = true ↔ y.magnitude * 1000000000 < Binary64.one := by
  have hexists : ∃ t : Binary64.Finite, tolerance = .finite t ∧ t.neg = false ∧
      t.magnitude = Binary64.nearestQuotient (1 * Binary64.one) 1000000000 :=
    Binary64.ofRatio_eq_finite false (by decide) (by decide)
  obtain ⟨t, ht, hneg, hmagnitude⟩ := hexists
  have hposition : (Binary64.finite y).abs.lt tolerance = decide (y.magnitude < t.magnitude) := by
    have hy : (Binary64.finite y).abs.position = some (y.magnitude : Int) := rfl
    have ht' : tolerance.position = some (t.magnitude : Int) := by
      rw [ht, Binary64.position, Binary64.Finite.units, hneg,
        if_neg Bool.false_ne_true]
    rw [Binary64.lt, Binary64.compareWith_of_position hy ht']
    exact decide_eq_decide.mpr Int.ofNat_lt
  rw [Nat.one_mul] at hmagnitude
  rw [hposition, decide_eq_true_iff, hmagnitude]
  constructor
  · refine fun hlt => Nat.not_le.mp fun hle => ?_
    exact Nat.not_le.mpr hlt (Binary64.nearestQuotient_le_magnitude (by decide) hle)
  · intro hlt
    have habove : Binary64.one <
        Binary64.nearestQuotient Binary64.one 1000000000 * 1000000000 := by
      decide +kernel
    exact Nat.lt_of_mul_lt_mul_right (Nat.lt_trans hlt habove)

/-- Whether a double is nearly a whole number is decided exactly. -/
theorem isNearlyIntegral_iff {d : Binary64} : isNearlyIntegral d = true ↔ d.NearWhole := by
  cases d with
  | nan =>
    refine iff_of_false (by decide) ?_
    rintro ⟨x, -, hx, -⟩
    nomatch hx
  | infinite neg =>
    refine iff_of_false (by cases neg <;> decide) ?_
    rintro ⟨x, -, hx, -⟩
    nomatch hx
  | finite x =>
    obtain ⟨z, hz, hgap⟩ := x.sub_nearest
    rw [isNearlyIntegral, hz, lt_tolerance_iff, hgap, Binary64.nearWhole_finite_iff]

/-! ## The check -/

theorem evaluate_multipleOf_eq_ok_iff {divisor : Binary64} {a : Number} :
    evaluate (.multipleOf divisor) (.num a) = .ok () ↔ (a.toBinary64.div divisor).NearWhole := by
  rw [← isNearlyIntegral_iff]
  exact ensure_eq_ok_iff

/-- For integers that are doubles, the check accepts the multiples of the divisor, and what is no
multiple where the double nearest to the quotient is near a whole number.  It accepts the multiples
only while neither integer is large. -/
theorem evaluate_multipleOf_iff {n d : Int} {divisor : Binary64} (hn : Number.InRange n)
    (hexact : Binary64.rounded n = n) (hdivisor : divisor.IsWhole d) (hd : d ≠ 0) :
    (evaluate (.multipleOf divisor) (.num (.int n)) = .ok () ↔
        d ∣ n ∨ (Binary64.ofRatio false n.natAbs d.natAbs).NearWhole) ∧
      (n.natAbs * 1000000000 + d.natAbs * 2 ^ 53 ≤ 2 ^ 53 * 1000000000 →
        (evaluate (.multipleOf divisor) (.num (.int n)) = .ok () ↔ d ∣ n)) := by
  have hden : 0 < d.natAbs := Int.natAbs_pos.mpr hd
  have hbits : n.natAbs.log2 ≤ 1022 :=
    Nat.le_trans (Binary64.log2_mono (Number.natAbs_le_of_inRange hn)) (by decide)
  have hwhole := Number.isWhole_toBinary64 hn
  rw [hexact] at hwhole
  have hquotient : evaluate (.multipleOf divisor) (.num (.int n)) = .ok () ↔
      (Binary64.ofRatio false n.natAbs d.natAbs).NearWhole := by
    obtain ⟨neg, hdiv⟩ := Binary64.div_of_isWhole hwhole hdivisor hd
    rw [evaluate_multipleOf_eq_ok_iff, hdiv, Binary64.nearWhole_ofRatio neg hden hbits]
  have hmultiple : d ∣ n → (Binary64.ofRatio false n.natAbs d.natAbs).NearWhole := fun hdvd =>
    Binary64.nearWhole_of_dvd hden hbits (Int.natAbs_dvd_natAbs.mpr hdvd)
  refine ⟨hquotient.trans ⟨.inr, fun h => h.elim hmultiple id⟩, fun hsmall => ?_⟩
  refine hquotient.trans ⟨fun hnear => ?_, hmultiple⟩
  by_contra hdvd
  exact Binary64.not_nearWhole_of_not_dvd hden hsmall (mt Int.natAbs_dvd_natAbs.mp hdvd) hnear

/-- A number and a divisor that are not yet large. -/
theorem evaluate_multipleOf_iff_bounds :
    Number.InRange 4503599627370495 ∧ Binary64.rounded 4503599627370495 = 4503599627370495 ∧
      (Binary64.ofInt 400000000).IsWhole 400000000 ∧
      ¬evaluate (.multipleOf (.ofInt 400000000)) (.num (.int 4503599627370495)) = .ok () := by
  have hrange : Number.InRange 4503599627370495 := by decide
  have hexact : Binary64.rounded 4503599627370495 = 4503599627370495 :=
    Binary64.rounded_of_le (by decide)
  have hdivisor : (Binary64.ofInt 400000000).IsWhole 400000000 := by
    have hwhole := Binary64.isWhole_ofInt (n := 400000000) (by decide)
    rwa [Binary64.rounded_of_le (by decide)] at hwhole
  have hiff := (evaluate_multipleOf_iff hrange hexact hdivisor (by decide)).2 (by decide)
  exact ⟨hrange, hexact, hdivisor, mt hiff.mp (by decide)⟩

/-- One is accepted as a multiple of `2 ^ 40`, of which it is less than a billionth. -/
theorem evaluate_multipleOf_one :
    Binary64.rounded 1 = 1 ∧ Binary64.rounded 1099511627776 = 1099511627776 ∧
      evaluate (.multipleOf (.ofInt 1099511627776)) (.num (.int 1)) = .ok () ∧
      ¬(1099511627776 : Int) ∣ 1 := by
  refine ⟨Binary64.rounded_of_le (by decide), Binary64.rounded_of_le (by decide), ?_, by decide⟩
  rw [evaluate_multipleOf_eq_ok_iff, ← isNearlyIntegral_iff]
  decide +kernel

end Rule
end Amend
