/-
Doubles written with a number of significant digits.  Both notations show the digits that the double
has after it is rounded in the place of the last one, and the exponent after rounding decides
between them.
-/
import Amend.Proofs.Decimal.Significant
import Amend.Proofs.Decimal.Written

namespace Amend
namespace Decimal

open Binary64 (Finite)
open Json (Literal)
open Json.Literal (exponentText)

variable {x : Finite} {digits places : ℕ}

/-- A literal in a text for a double rounded to a number of significant digits. -/
structure Shows (x : Finite) (digits : ℕ) (text : List Char) (l : Literal) : Prop where
  read : Literal.read text = some (l, [])
  rounded : Nearest (10 ^ (Int.log 10 |x.real| - (digits - 1))) x.real l.real
  significant : l.significantDigits = digits

/-- A literal with an exponent where the digits do not reach the point or are far behind it. -/
structure Precise (x : Finite) (digits : ℕ) (text : List Char) (l : Literal) : Prop
    extends Shows x digits text l where
  plain : l.exponent = none ↔ -6 ≤ Int.log 10 |l.real| ∧ Int.log 10 |l.real| < digits
  /-- An exponent is that of the first digit, and its sign is written. -/
  exponential : ∀ e ∈ l.exponent, e = Int.log 10 |l.real| ∧
    ∃ mantissa power, text = mantissa ++ 'e' :: (if e < 0 then '-' else '+') :: power

/-! ## Signs -/

theorem Nearest.sign {step a b : ℝ} (h : Nearest step a b) (neg : Bool) :
    Nearest step ((if neg then -1 else 1) * a) ((if neg then -1 else 1) * b) := by
  cases neg with
  | true =>
    rw [if_pos rfl, neg_one_mul, neg_one_mul]
    exact h.neg
  | false =>
    rw [if_neg Bool.false_ne_true, one_mul, one_mul]
    exact h

/-! ## Digits in two notations -/

namespace IsSignificant

variable {coeff decimals : ℕ} {top : ℤ} {exponent : Option ℤ}

/-- Significant digits may be written with any exponent that the decimals go with. -/
theorem shows (h : IsSignificant x places coeff top)
    (hplace : exponent.getD 0 - decimals = top - places) :
    Shows x (places + 1)
      (signed x.neg (fixedDigits coeff decimals ++ exponentText exponent)).toList
      (literal x.neg coeff decimals exponent) where
  read := read_literal x.neg coeff decimals exponent
  rounded := by
    rw [real_literal, hplace, Nat.cast_succ, add_sub_cancel_right]
    nth_rewrite 2 [x.real_eq_sign_mul]
    exact h.nearest.sign x.neg
  significant := by
    rw [significantDigits_literal x.neg exponent (Nat.lt_of_lt_of_le (by positivity) h.low),
      length_toDigits h.low h.high]

theorem log_real_literal (h : IsSignificant x places coeff top) (neg : Bool)
    (hplace : exponent.getD 0 - decimals = top - places) :
    Int.log 10 |(literal neg coeff decimals exponent).real| = top := by
  rw [real_literal, hplace, Binary64.abs_sign_mul, abs_of_nonneg (by positivity), h.log_eq]

end IsSignificant

theorem toExponential_eq (x : Finite) (places : ℕ) :
    toExponential (.finite x) places =
      signed x.neg (fixedDigits (significant x places).1 places ++
        exponentText (some (significant x places).2)) := rfl

/-- The plain notation rounds in the place of the last digit again, to the same digits. -/
theorem toPrecision_eq (hx : x.isZero = false) (places : ℕ) :
    toPrecision (.finite x) (places + 1) =
      if (significant x places).2 < -6 ∨ (places : ℤ) < (significant x places).2 then
        toExponential (.finite x) places
      else
        signed x.neg (fixedDigits (significant x places).1
          (places - (significant x places).2).toNat ++ exponentText none) := by
  have hread : toPrecision (.finite x) (places + 1) =
      if x.isZero then toFixed .zero places
      else if (significant x places).2 < -6 ∨ (places + 1 : ℤ) ≤ (significant x places).2 then
        toExponential (.finite x) places
      else toFixed (.finite x) ((places + 1 : ℤ) - 1 - (significant x places).2).toNat := rfl
  rw [hread, if_neg (by rw [hx]; exact Bool.false_ne_true), add_sub_cancel_right]
  by_cases hexponential :
      (significant x places).2 < -6 ∨ (places : ℤ) < (significant x places).2
  · rw [if_pos hexponential]
    exact if_pos hexponential
  · have hdecimals : (significant x places).2 - places =
        -((places - (significant x places).2).toNat : ℤ) := by omega
    have hfixed := (isSignificant hx places).fixed (by omega)
    have hnone : exponentText none = [] := rfl
    rw [if_neg hexponential, hnone, List.append_nil, ← hfixed, hdecimals, countIn_neg]
    exact if_neg hexponential

theorem exists_mantissa (neg : Bool) (coeff decimals : ℕ) (e : ℤ) :
    ∃ mantissa, (signed neg (fixedDigits coeff decimals ++ exponentText (some e))).toList =
      mantissa ++ 'e' :: (if e < 0 then '-' else '+') :: Nat.toDigits 10 e.natAbs := by
  rw [signed, String.toList_ofList]
  cases neg with
  | true => exact ⟨'-' :: fixedDigits coeff decimals, rfl⟩
  | false => exact ⟨fixedDigits coeff decimals, rfl⟩

/-- Every double that is not zero is written with the digits that are asked for.  It is rounded
once, to the number that the exponential notation shows. -/
theorem toPrecision_shows (hx : x.isZero = false) (hdigits : 1 ≤ digits) :
    ∃ shown full : Literal, Precise x digits (toPrecision (.finite x) digits).toList shown ∧
      Shows x digits (toExponential (.finite x) (digits - 1)).toList full ∧
      full.exponent.isSome ∧ shown.real = full.real := by
  obtain ⟨places, rfl⟩ := Nat.exists_eq_add_of_le' hdigits
  have h := isSignificant hx places
  rw [toPrecision_eq hx, Nat.add_sub_cancel, toExponential_eq]
  generalize (significant x places).1 = coeff at h ⊢
  generalize (significant x places).2 = top at h ⊢
  have hplace : (some top).getD 0 - (places : ℤ) = top - places := rfl
  have hfull := h.shows hplace
  have htop := h.log_real_literal x.neg hplace
  by_cases hexponential : top < -6 ∨ (places : ℤ) < top
  · rw [if_pos hexponential]
    refine ⟨_, _, ⟨hfull, ?_, ?_⟩, hfull, rfl, rfl⟩
    · rw [htop]
      exact iff_of_false nofun (by omega)
    · rintro e he
      obtain rfl := Option.some.inj he
      obtain ⟨mantissa, hmantissa⟩ := exists_mantissa x.neg coeff places top
      exact ⟨htop.symm, mantissa, _, hmantissa⟩
  · rw [if_neg hexponential]
    have hplain : (none : Option ℤ).getD 0 - ((places - top).toNat : ℤ) = top - places := by
      rw [Option.getD_none]
      omega
    have htop' := h.log_real_literal x.neg hplain
    refine ⟨_, _, ⟨h.shows hplain, ?_, nofun⟩, hfull, rfl, ?_⟩
    · rw [htop']
      exact iff_of_true rfl (by omega)
    · rw [real_literal, real_literal, hplain, hplace]

/-- Three digits of a double just below ten, where the first digit is carried to. -/
theorem toPrecision_shows_carry :
    let x : Finite := ⟨false, 0x13fdf3b645a1cb, 1025, by decide⟩
    x.isZero = false ∧ 1 ≤ 3 ∧
      ∃ shown full : Literal, Precise x 3 (toPrecision (.finite x) 3).toList shown ∧
        Shows x 3 (toExponential (.finite x) 2).toList full ∧
        full.exponent.isSome ∧ shown.real = full.real := by
  intro x
  have hx : x.isZero = false := rfl
  exact ⟨hx, by decide, toPrecision_shows hx (by decide)⟩

end Decimal
end Amend
