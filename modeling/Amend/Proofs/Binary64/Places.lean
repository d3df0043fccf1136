/-
The places of the doubles.  A magnitude has one significand and one shift, so a finite double is
given by its sign and its place, and only the two zeros share one.  Rounding leaves a magnitude
that is a double's where it is.  A whole number of ones rounds to the nearest place, or beyond
all finite ones.
-/
import Amend.Proofs.Binary64.Integers

namespace Amend
namespace Binary64

/-! ## One form for each magnitude -/

namespace Finite

/-- Of two significands with one magnitude the one with the smaller shift has too many bits,
unless the shifts agree. -/
theorem shift_le_of_magnitude {x y : Finite} (h : x.magnitude = y.magnitude) :
    y.shift ≤ x.shift := by
  refine Nat.not_lt.mp fun hlt => ?_
  obtain ⟨hx, -, -⟩ := x.canonical
  obtain ⟨-, -, hy⟩ := y.canonical
  have hmant : 0x10000000000000 ≤ y.mant := hy.resolve_right (by omega)
  have hsplit : Nat.pow 2 y.shift = Nat.pow 2 (y.shift - x.shift) * Nat.pow 2 x.shift := by
    rw [← two_pow_add, Nat.add_sub_cancel' (Nat.le_of_lt hlt)]
  have hcancel : x.mant = y.mant * Nat.pow 2 (y.shift - x.shift) := by
    unfold magnitude at h
    rw [hsplit, ← Nat.mul_assoc] at h
    exact Nat.eq_of_mul_eq_mul_right (two_pow_pos x.shift) h
  have htwo : Nat.pow 2 1 ≤ Nat.pow 2 (y.shift - x.shift) :=
    Nat.pow_le_pow_right Nat.two_pos (by omega)
  have hle : 0x10000000000000 * 2 ≤ y.mant * Nat.pow 2 (y.shift - x.shift) :=
    Nat.mul_le_mul hmant htwo
  omega

theorem eq_of_magnitude {x y : Finite} (hneg : x.neg = y.neg) (h : x.magnitude = y.magnitude) :
    x = y := by
  have hshift : x.shift = y.shift :=
    Nat.le_antisymm (shift_le_of_magnitude h.symm) (shift_le_of_magnitude h)
  have hmant : x.mant = y.mant := by
    unfold magnitude at h
    rw [hshift] at h
    exact Nat.eq_of_mul_eq_mul_right (two_pow_pos y.shift) h
  cases x
  cases y
  subst hneg hshift hmant
  rfl

theorem abs_eq_zero_of_units {x : Finite} (h : x.units = 0) : x.abs = zero := by
  refine eq_of_magnitude rfl ?_
  rw [← natAbs_units x.abs, ← natAbs_units zero, units_abs, ← natAbs_units x, h]
  rfl

/-- Doubles in one place are one, but for the sign of zero. -/
theorem eq_or_zero_of_units {x y : Finite} (h : x.units = y.units) :
    x = y ∨ x.units = 0 ∧ y.units = 0 := by
  have hmagnitude : x.magnitude = y.magnitude := by
    rw [← natAbs_units, h, natAbs_units]
  by_cases hneg : x.neg = y.neg
  · exact .inl (eq_of_magnitude hneg hmagnitude)
  · refine .inr ?_
    unfold units at h ⊢
    cases hx : x.neg <;> cases hy : y.neg <;> rw [hx, hy] at h hneg
    · exact absurd rfl hneg
    · simp only [Bool.false_eq_true, if_false, if_true] at h ⊢
      omega
    · simp only [Bool.false_eq_true, if_false, if_true] at h ⊢
      omega
    · exact absurd rfl hneg

/-! ## Rounding -/

/-- A canonical significand stands in its own last place. -/
theorem lastPlace_magnitude (x : Finite) : lastPlace x.magnitude 1 = x.shift := by
  obtain ⟨hupper, -, hlower⟩ := x.canonical
  unfold lastPlace
  rw [Nat.div_one, magnitude]
  by_cases hzero : x.mant = 0
  · have hshift : x.shift = 0 := hlower.resolve_left (by omega)
    rw [hzero, Nat.zero_mul, Nat.log2_zero, hshift]
  · have hlog : x.mant.log2 < 53 := (Nat.log2_lt hzero).mpr hupper
    rw [log2_mul_two_pow hzero]
    rcases hlower with hlower | hshift
    · have hlog' : 52 ≤ x.mant.log2 := (Nat.le_log2 hzero).mpr hlower
      omega
    · omega

/-- Rounding leaves a double where it is. -/
theorem round_magnitude (neg : Bool) (x : Finite) :
    round neg x.magnitude 1 = .finite { x with neg := neg } := by
  have hplace : (x.magnitude / 1).log2 - 52 = x.shift := lastPlace_magnitude x
  have hmant : roundHalfEven x.magnitude (1 * Nat.pow 2 x.shift) = x.mant := by
    rw [Nat.one_mul]
    exact roundHalfEven_mul x.mant (two_pow_pos x.shift)
  have hcarry : x.mant ≠ 0x20000000000000 := Nat.ne_of_lt x.canonical.1
  unfold round
  simp only [hplace, hmant]
  rw [if_neg hcarry, ofParts_eq_finite x.canonical]

end Finite

theorem round_zero (neg : Bool) (den : Nat) :
    round neg 0 den = .finite ⟨neg, 0, 0, by decide⟩ := by
  have hmant : roundHalfEven 0 (den * Nat.pow 2 0) = 0 := by
    unfold roundHalfEven
    simp only [Nat.zero_div, Nat.zero_mod, Nat.mul_zero, Nat.not_lt_zero]
    split <;> rfl
  unfold round
  simp only [Nat.zero_div, Nat.log2_zero, Nat.zero_sub, hmant]
  rfl

/-- The double nearest to an integer that has a double's place is that double, but for the sign
of zero. -/
theorem ofInt_of_units {n : Int} {x : Finite} (h : n * one = x.units) :
    ofInt n = .finite { x with neg := decide (n < 0) } := by
  unfold ofInt ofRatio
  rw [← Finite.magnitude_of_units h.symm, Finite.round_magnitude]

/-! ## The two zeros -/

/-- Two doubles are one, but for the sign of a zero. -/
def Alike (d e : Binary64) : Prop := d = e ∨ d.abs = zero ∧ e.abs = zero

theorem Alike.symm {d e : Binary64} (h : Alike d e) : Alike e d :=
  h.imp Eq.symm And.symm

theorem Alike.of_units {x y : Finite} (h : x.units = y.units) :
    Alike (.finite x) (.finite y) := by
  rcases Finite.eq_or_zero_of_units h with rfl | ⟨hx, hy⟩
  · exact .inl rfl
  · exact .inr ⟨congrArg Binary64.finite (Finite.abs_eq_zero_of_units hx),
      congrArg Binary64.finite (Finite.abs_eq_zero_of_units hy)⟩

theorem eq_zero_of_abs {d : Binary64} (h : d.abs = zero) : d = zero ∨ d = zero.negate := by
  cases d with
  | nan => nomatch h
  | infinite neg => nomatch h
  | finite x =>
    have hmagnitude : x.abs.magnitude = Finite.zero.magnitude :=
      congrArg Finite.magnitude (Binary64.finite.inj h)
    cases hneg : x.neg with
    | false => exact .inl (congrArg _ (Finite.eq_of_magnitude hneg hmagnitude))
    | true => exact .inr (congrArg _ (Finite.eq_of_magnitude hneg hmagnitude))

/-- A function that does not tell the two zeros apart does not tell alike doubles apart. -/
theorem Alike.apply {α : Type} {f : Binary64 → α} {d e : Binary64} (h : Alike d e)
    (hzero : f zero = f zero.negate) : f d = f e := by
  rcases h with rfl | ⟨hd, he⟩
  · rfl
  · rcases eq_zero_of_abs hd with rfl | rfl <;> rcases eq_zero_of_abs he with rfl | rfl
    · rfl
    · exact hzero
    · exact hzero.symm
    · rfl

/-! ## The order of places -/

/-- The place beyond all finite doubles. -/
def beyond : Nat := Nat.pow 2 2098

/-- The exponent of `beyond`, apart from its power, which is too large to be evaluated. -/
theorem exists_beyond_eq : ∃ k, k = 2098 ∧ beyond = Nat.pow 2 k := by
  unfold beyond
  generalize 2098 = k
  exact ⟨k, rfl, rfl⟩

/-- A number of units with a sign. -/
def signed (neg : Bool) (n : Nat) : Int := if neg then -(n : Int) else n

theorem position_infinite (neg : Bool) :
    (Binary64.infinite neg).position = some (signed neg beyond) := by
  unfold beyond
  cases neg with
  | true => exact position.eq_3
  | false => exact position.eq_2

theorem magnitude_lt_beyond (x : Finite) : x.magnitude < beyond := by
  obtain ⟨hmant, hshift, -⟩ := x.canonical
  obtain ⟨k, hk, hbeyond⟩ := exists_beyond_eq
  have hpow : Nat.pow 2 (x.shift + 53) ≤ beyond := by
    rw [hbeyond]
    exact Nat.pow_le_pow_right Nat.two_pos (by omega)
  rw [two_pow_add] at hpow
  exact Nat.lt_of_lt_of_le ((Nat.mul_lt_mul_right (two_pow_pos x.shift)).mpr hmant) hpow

theorem position_ofParts {neg : Bool} {mant shift : Nat} (hupper : mant < 0x20000000000000)
    (hlower : 0x10000000000000 ≤ mant ∨ shift = 0) :
    (ofParts neg mant shift).position =
      some (signed neg (min (mant * Nat.pow 2 shift) beyond)) := by
  by_cases hshift : shift ≤ 2045
  · have hlt : mant * Nat.pow 2 shift < beyond :=
      magnitude_lt_beyond ⟨neg, mant, shift, hupper, hshift, hlower⟩
    rw [ofParts_eq_finite ⟨hupper, hshift, hlower⟩, Nat.min_eq_left (Nat.le_of_lt hlt)]
    rfl
  · obtain ⟨k, hk, hbeyond⟩ := exists_beyond_eq
    have hpow : beyond ≤ Nat.pow 2 (shift + 52) := by
      rw [hbeyond]
      exact Nat.pow_le_pow_right Nat.two_pos (by omega)
    have hmant : Nat.pow 2 52 ≤ mant := hlower.resolve_right (by omega)
    rw [two_pow_add] at hpow
    rw [Nat.min_eq_right (Nat.le_trans hpow (Nat.mul_le_mul_right _ hmant)), ofParts,
      dif_neg fun h => hshift h.2.1]
    exact position_infinite neg

/-- A whole number of units rounds to the nearest multiple of the spacing, or beyond. -/
theorem position_round (neg : Bool) (n : Nat) :
    (round neg n 1).position = some (signed neg (min (nearestWhole n) beyond)) := by
  have hplace : (n / 1).log2 - 52 = lastPlace n 1 := rfl
  have hspacing : spacing n = Nat.pow 2 (lastPlace n 1) := by
    rw [spacing, lastPlace, Nat.div_one]
  have hupper := roundHalfEven_lastPlace_le n Nat.one_pos
  have hlower := le_roundHalfEven_lastPlace n Nat.one_pos
  rw [Nat.one_mul] at hupper hlower
  unfold round nearestWhole
  simp only [hplace, hspacing, Nat.one_mul]
  by_cases hcarry : roundHalfEven n (Nat.pow 2 (lastPlace n 1)) = 0x20000000000000
  · -- The rounding carries into a new binade.
    have hdouble : Nat.pow 2 (lastPlace n 1 + 1) = Nat.pow 2 (lastPlace n 1) * 2 := rfl
    rw [if_pos hcarry, hcarry, position_ofParts (by decide) (.inl (by decide)), hdouble,
      ← Nat.mul_assoc, Nat.mul_right_comm]
  · have hupper : roundHalfEven n (Nat.pow 2 (lastPlace n 1)) < 0x20000000000000 :=
      Nat.lt_of_le_of_ne hupper hcarry
    have hlower : 0x10000000000000 ≤ roundHalfEven n (Nat.pow 2 (lastPlace n 1)) ∨
        lastPlace n 1 = 0 := by
      by_cases hzero : lastPlace n 1 = 0
      · exact .inr hzero
      · exact .inl (hlower hzero)
    rw [if_neg hcarry, position_ofParts hupper hlower]

/-- The place of the double nearest to a number of units. -/
def place (u : Int) : Int := signed (decide (u < 0)) (min (nearestWhole u.natAbs) beyond)

theorem place_mono {u v : Int} (h : u ≤ v) : place u ≤ place v := by
  unfold place signed
  by_cases hv : v < 0
  · have hmono := nearestWhole_mono (m := v.natAbs) (n := u.natAbs) (by omega)
    rw [decide_eq_true hv, decide_eq_true (show u < 0 by omega), if_pos rfl, if_pos rfl]
    omega
  · rw [decide_eq_false hv, if_neg Bool.false_ne_true]
    by_cases hu : u < 0
    · rw [decide_eq_true hu, if_pos rfl]
      omega
    · have hmono := nearestWhole_mono (m := u.natAbs) (n := v.natAbs) (by omega)
      rw [decide_eq_false hu, if_neg Bool.false_ne_true]
      omega

/-- A double stands in its place. -/
theorem place_units (x : Finite) : place x.units = x.units := by
  have hdvd : spacing x.magnitude ∣ x.magnitude := by
    have hplace := x.lastPlace_magnitude
    rw [lastPlace, Nat.div_one] at hplace
    rw [spacing, hplace]
    exact Nat.dvd_mul_left _ _
  unfold place
  rw [Finite.natAbs_units, nearestWhole_of_dvd hdvd,
    Nat.min_eq_left (Nat.le_of_lt (magnitude_lt_beyond x)), ← Finite.natAbs_units]
  unfold signed
  split
  · next hneg =>
    have hlt := of_decide_eq_true hneg
    omega
  · next hneg =>
    have hnonneg := of_decide_eq_false (Bool.eq_false_iff.mpr hneg)
    omega

/-- The double nearest to an integer stands in the integer's place. -/
theorem position_ofInt (n : Int) : (ofInt n).position = some (place (n * one)) := by
  have hone : (0 : Int) < one := Int.natCast_pos.mpr one_pos
  have hsign : decide (n * one < 0) = decide (n < 0) := by
    have hmul := Int.mul_lt_mul_right (b := n) (c := 0) hone
    rw [Int.zero_mul] at hmul
    exact decide_eq_decide.mpr hmul
  rw [ofInt, ofRatio, position_round, place, hsign, Int.natAbs_mul, Int.natAbs_natCast]

theorem compareWith_of_position {rel : Int → Int → Bool} {d e : Binary64} {p q : Int}
    (hd : d.position = some p) (he : e.position = some q) : compareWith rel d e = rel p q := by
  rw [compareWith, hd, he]

end Binary64
end Amend
