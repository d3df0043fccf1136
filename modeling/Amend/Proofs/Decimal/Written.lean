/-
What written numbers say.  A literal is read back from its text, and the digits that a multiple of a
power of ten is written with are a literal for it.
-/
import Amend.Decimal
import Amend.Json.Reader
import Mathlib.Data.Real.Basic
import Mathlib.Data.List.TakeDrop

namespace Amend

open Decimal (signedExponent)

namespace Json
namespace Literal

/-- The digits before and behind the point. -/
def figures (l : Literal) : List Char := l.whole ++ l.fraction.getD []

/-- The number of digits from the first one on that is not zero. -/
def significantDigits (l : Literal) : ℕ := (l.figures.dropWhile (· == '0')).length

/-- The number that a literal stands for, before it is rounded to a double. -/
noncomputable def real (l : Literal) : ℝ :=
  (if l.neg then -1 else 1) * Nat.ofDigitChars 10 l.figures 0 *
    10 ^ (l.exponent.getD 0 - (l.fraction.getD []).length)

/-! ## Texts -/

def fractionText : Option (List Char) → List Char
  | none => []
  | some digits => '.' :: digits

def exponentText : Option ℤ → List Char
  | none => []
  | some e => 'e' :: signedExponent e

/-- A literal as a text, with the sign of the exponent always written. -/
def text (l : Literal) : List Char :=
  (if l.neg then ['-'] else []) ++ (l.whole ++ (fractionText l.fraction ++ exponentText l.exponent))

/-- Digits without a leading zero before the point, and digits behind it. -/
structure Regular (l : Literal) : Prop where
  whole_ne_nil : l.whole ≠ []
  whole_digits : ∀ c ∈ l.whole, c.isDigit = true
  leading : l.whole.head? = some '0' → l.whole.length = 1
  fraction_ne_nil : ∀ digits ∈ l.fraction, digits ≠ []
  fraction_digits : ∀ digits ∈ l.fraction, ∀ c ∈ digits, c.isDigit = true

theorem span_digits {digits rest : List Char} (hdigits : ∀ c ∈ digits, c.isDigit = true)
    (hrest : ∀ c ∈ rest.head?, c.isDigit = false) :
    (digits ++ rest).span Char.isDigit = (digits, rest) := by
  rw [List.span_eq_takeWhile_dropWhile, List.takeWhile_append_of_pos hdigits,
    List.dropWhile_append_of_pos hdigits]
  cases rest with
  | nil => rw [List.takeWhile_nil, List.append_nil, List.dropWhile_nil]
  | cons c rest =>
    have hc : ¬c.isDigit = true := Bool.eq_false_iff.mp (hrest c rfl)
    rw [List.takeWhile_cons_of_neg hc, List.append_nil, List.dropWhile_cons_of_neg hc]

theorem foldl_digitValue (digits : List Char) (n : ℕ) :
    digits.foldl (fun (m : ℤ) c => m * 10 + digitValue c) n = Nat.ofDigitChars 10 digits n := by
  induction digits generalizing n with
  | nil => rfl
  | cons c digits ih =>
    have hstep : (n : ℤ) * 10 + digitValue c = (10 * n + (c.toNat - '0'.toNat) : ℕ) := by
      rw [digitValue]
      omega
    rw [List.foldl_cons, hstep, ih, Nat.ofDigitChars_cons]

theorem isDigit_of_mem_toDigits {n : ℕ} : ∀ c ∈ Nat.toDigits 10 n, c.isDigit = true :=
  fun _ hc => Nat.isDigit_of_mem_toDigits (by decide) (Nat.le_refl 10) hc

theorem readExponent_exponentText (exponent : Option ℤ) :
    read.readExponent (exponentText exponent) = some (exponent, []) := by
  cases exponent with
  | none => rfl
  | some e =>
    have hspan : (Nat.toDigits 10 e.natAbs ++ []).span Char.isDigit =
        (Nat.toDigits 10 e.natAbs, []) :=
      span_digits isDigit_of_mem_toDigits nofun
    have hvalue := foldl_digitValue (Nat.toDigits 10 e.natAbs) 0
    rw [List.append_nil] at hspan
    rw [Nat.ofDigitChars_ten_toDigits, Nat.cast_zero] at hvalue
    have hne : (Nat.toDigits 10 e.natAbs).isEmpty = false :=
      List.isEmpty_eq_false_iff.mpr Nat.toDigits_ne_nil
    by_cases hneg : e < 0
    · simp only [exponentText, signedExponent, if_pos hneg, read.readExponent, true_or, if_true,
        hspan, hne, hvalue, Bool.false_eq_true, if_false]
      rw [Int.ofNat_natAbs_of_nonpos hneg.le, neg_neg]
    · simp only [exponentText, signedExponent, if_neg hneg, read.readExponent, true_or, if_true,
        hspan, hne, hvalue, Bool.false_eq_true, if_false]
      rw [Int.natAbs_of_nonneg (not_lt.mp hneg)]

theorem isDigit_eq_false_of_rest (fraction : Option (List Char)) (exponent : Option ℤ) :
    ∀ c ∈ (fractionText fraction ++ exponentText exponent).head?, c.isDigit = false := by
  intro c hc
  cases fraction with
  | some digits =>
    obtain rfl := Option.some.inj hc
    decide
  | none =>
    cases exponent with
    | none => nomatch hc
    | some e =>
      obtain rfl := Option.some.inj hc
      decide

theorem readFraction_fractionText {fraction : Option (List Char)} (exponent : Option ℤ)
    (hne : ∀ digits ∈ fraction, digits ≠ [])
    (hdigits : ∀ digits ∈ fraction, ∀ c ∈ digits, c.isDigit = true) :
    read.readFraction (fractionText fraction ++ exponentText exponent) =
      some (fraction, exponentText exponent) := by
  cases fraction with
  | none =>
    cases exponent with
    | none => rfl
    | some e => rfl
  | some digits =>
    have hspan : (digits ++ exponentText exponent).span Char.isDigit =
        (digits, exponentText exponent) :=
      span_digits (hdigits digits rfl) (isDigit_eq_false_of_rest none exponent)
    have hne := List.isEmpty_eq_false_iff.mpr (hne digits rfl)
    simp only [fractionText, List.cons_append, read.readFraction, hspan, hne, Bool.false_eq_true,
      if_false]

theorem accepts_whole {whole : List Char} (hne : whole ≠ [])
    (hleading : whole.head? = some '0' → whole.length = 1) :
    (whole.isEmpty || (whole.head? == some '0' && decide (whole.length ≠ 1))) = false := by
  rw [List.isEmpty_eq_false_iff.mpr hne, Bool.false_or, Bool.and_eq_false_iff]
  by_cases hzero : whole.head? = some '0'
  · exact .inr (decide_eq_false (not_not.mpr (hleading hzero)))
  · exact .inl (beq_eq_false_iff_ne.mpr hzero)

/-- A regular literal is read from its text, and nothing is left. -/
theorem Regular.read_text {l : Literal} (h : l.Regular) : read l.text = some (l, []) := by
  obtain ⟨neg, whole, fraction, exponent⟩ := l
  obtain ⟨hne, hdigits, hleading, hfraction, hfractionDigits⟩ := h
  dsimp only at hne hdigits hleading hfraction hfractionDigits
  have hspan := span_digits hdigits (isDigit_eq_false_of_rest fraction exponent)
  have hfraction := readFraction_fractionText exponent hfraction hfractionDigits
  have hexponent := readExponent_exponentText exponent
  have hwhole := accepts_whole hne hleading
  cases neg with
  | true =>
    simp only [text, if_true, List.singleton_append, read, hspan, hwhole, Bool.false_eq_true,
      if_false, hfraction, hexponent]
  | false =>
    -- The sign is looked for before the digits, and no digit is a sign.
    have hunsigned : ∀ rest,
        whole ++ (fractionText fraction ++ exponentText exponent) ≠ '-' :: rest := by
      intro rest heq
      obtain ⟨c, digits, rfl⟩ := List.exists_cons_of_ne_nil hne
      obtain rfl := (List.cons.inj heq).1
      exact absurd (hdigits '-' List.mem_cons_self) (by decide)
    simp only [text, Bool.false_eq_true, if_false, List.nil_append, read, hspan, hwhole, hfraction,
      hexponent]

end Literal
end Json

namespace Decimal

open Json (Literal)
open Json.Literal (fractionText exponentText)

/-! ## Digits -/

/-- The digits of a number, with zeros before them if they are fewer than those behind the point
and one. -/
def padded (coeff places : ℕ) : List Char :=
  List.replicate (places + 1 - (Nat.toDigits 10 coeff).length) '0' ++ Nat.toDigits 10 coeff

/-- A multiple of `10 ^ -places` as a literal. -/
def literal (neg : Bool) (coeff places : ℕ) (exponent : Option ℤ) : Literal where
  neg := neg
  whole := (padded coeff places).take ((padded coeff places).length - places)
  fraction :=
    if places = 0 then none
    else some ((padded coeff places).drop ((padded coeff places).length - places))
  exponent := exponent

variable {coeff places : ℕ}

theorem length_padded (coeff places : ℕ) :
    (padded coeff places).length = max (places + 1) (Nat.toDigits 10 coeff).length := by
  rw [padded, List.length_append, List.length_replicate]
  omega

theorem isDigit_of_mem_padded : ∀ c ∈ padded coeff places, c.isDigit = true :=
  List.forall_mem_append.mpr ⟨fun c hc => by rw [List.eq_of_mem_replicate hc]; rfl,
    Json.Literal.isDigit_of_mem_toDigits⟩

theorem head?_toDigits_ne {n : ℕ} (hn : 0 < n) : (Nat.toDigits 10 n).head? ≠ some '0' := by
  induction n using Nat.strong_induction_on with
  | _ n ih =>
    by_cases hlt : n < 10
    · have hall : ∀ n < 10, 0 < n → [n.digitChar].head? ≠ some '0' := by decide
      rw [Nat.toDigits_of_lt_base hlt]
      exact hall n hlt hn
    · have hge := not_lt.mp hlt
      have hfirst := ih (n / 10) (Nat.div_lt_self hn (by decide)) (Nat.div_pos hge (by decide))
      obtain ⟨c, digits, hcons⟩ :=
        List.exists_cons_of_ne_nil (Nat.toDigits_ne_nil (b := 10) (n := n / 10))
      rw [Nat.toDigits_of_base_le (by decide) hge, hcons]
      rw [hcons] at hfirst
      exact hfirst

theorem length_whole (coeff places : ℕ) :
    ((padded coeff places).take ((padded coeff places).length - places)).length =
      max (places + 1) (Nat.toDigits 10 coeff).length - places := by
  rw [List.length_take, length_padded]
  omega

theorem length_fraction (coeff places : ℕ) :
    ((padded coeff places).drop ((padded coeff places).length - places)).length = places := by
  rw [List.length_drop, length_padded]
  omega

theorem mem_fraction_iff {neg : Bool} {exponent : Option ℤ} {digits : List Char} :
    digits ∈ (literal neg coeff places exponent).fraction ↔
      places ≠ 0 ∧ (padded coeff places).drop ((padded coeff places).length - places) = digits := by
  rw [literal]
  by_cases hplaces : places = 0
  · rw [if_pos hplaces]
    exact iff_of_false nofun fun h => h.1 hplaces
  · rw [if_neg hplaces]
    exact Option.some_inj.trans (and_iff_right hplaces).symm

theorem regular_literal (neg : Bool) (coeff places : ℕ) (exponent : Option ℤ) :
    (literal neg coeff places exponent).Regular where
  whole_ne_nil := List.ne_nil_of_length_pos (by
    rw [literal, length_whole]
    omega)
  whole_digits c hc := isDigit_of_mem_padded c (List.mem_of_mem_take hc)
  leading hzero := by
    rw [literal, length_whole]
    by_cases hlength : (Nat.toDigits 10 coeff).length ≤ places + 1
    · omega
    · -- Without zeros before them the digits begin with the first one of the number.
      have hcoeff : 0 < coeff := by
        by_contra hnot
        rw [Nat.eq_zero_of_not_pos hnot, Nat.toDigits_zero] at hlength
        exact hlength (Nat.succ_le_succ (Nat.zero_le places))
      have hpadded : padded coeff places = Nat.toDigits 10 coeff := by
        rw [padded, Nat.sub_eq_zero_of_le (by omega), List.replicate_zero, List.nil_append]
      rw [literal, List.head?_take, if_neg (by rw [length_padded]; omega), hpadded] at hzero
      exact absurd hzero (head?_toDigits_ne hcoeff)
  fraction_ne_nil digits hdigits := by
    obtain ⟨hplaces, rfl⟩ := mem_fraction_iff.mp hdigits
    refine List.ne_nil_of_length_pos ?_
    rw [length_fraction]
    exact Nat.pos_of_ne_zero hplaces
  fraction_digits digits hdigits c hc := by
    obtain ⟨-, rfl⟩ := mem_fraction_iff.mp hdigits
    exact isDigit_of_mem_padded c (List.mem_of_mem_drop hc)

theorem getD_fraction (neg : Bool) (coeff places : ℕ) (exponent : Option ℤ) :
    (literal neg coeff places exponent).fraction.getD [] =
      (padded coeff places).drop ((padded coeff places).length - places) := by
  rw [literal]
  by_cases hplaces : places = 0
  · rw [if_pos hplaces, hplaces, Nat.sub_zero, List.drop_length, Option.getD_none]
  · rw [if_neg hplaces, Option.getD_some]

theorem fixedDigits_eq (neg : Bool) (coeff places : ℕ) (exponent : Option ℤ) :
    fixedDigits coeff places =
      (literal neg coeff places exponent).whole ++
        fractionText (literal neg coeff places exponent).fraction := by
  have hread : fixedDigits coeff places =
      joinPoint ((padded coeff places).take ((padded coeff places).length - places),
        (padded coeff places).drop ((padded coeff places).length - places)) := rfl
  have hlength := length_fraction coeff places
  rw [hread, literal, joinPoint]
  by_cases hplaces : places = 0
  · rw [hplaces] at hlength
    rw [if_pos hplaces, hplaces, List.eq_nil_of_length_eq_zero hlength]
    exact (List.append_nil _).symm
  · have hne := List.ne_nil_of_length_pos (hlength.symm ▸ Nat.pos_of_ne_zero hplaces)
    rw [if_neg hplaces, List.isEmpty_eq_false_iff.mpr hne]
    rfl

theorem text_literal (neg : Bool) (coeff places : ℕ) (exponent : Option ℤ) :
    (signed neg (fixedDigits coeff places ++ exponentText exponent)).toList =
      (literal neg coeff places exponent).text := by
  rw [signed, String.toList_ofList, fixedDigits_eq neg coeff places exponent, List.append_assoc,
    Json.Literal.text]
  cases neg with
  | true => rfl
  | false => rfl

theorem read_literal (neg : Bool) (coeff places : ℕ) (exponent : Option ℤ) :
    Literal.read (signed neg (fixedDigits coeff places ++ exponentText exponent)).toList =
      some (literal neg coeff places exponent, []) := by
  rw [text_literal]
  exact (regular_literal neg coeff places exponent).read_text

/-! ## What the digits say -/

theorem figures_literal (neg : Bool) (coeff places : ℕ) (exponent : Option ℤ) :
    (literal neg coeff places exponent).figures = padded coeff places := by
  rw [Json.Literal.figures, getD_fraction]
  exact List.take_append_drop _ _

theorem real_literal (neg : Bool) (coeff places : ℕ) (exponent : Option ℤ) :
    (literal neg coeff places exponent).real =
      (if neg then -1 else 1) * (coeff * 10 ^ (exponent.getD 0 - places)) := by
  rw [Json.Literal.real, figures_literal, getD_fraction, length_fraction, padded,
    Nat.ofDigitChars_append, Nat.ofDigitChars_replicate_zero, Nat.mul_zero,
    Nat.ofDigitChars_ten_toDigits, mul_assoc]
  rfl

theorem length_toDigits {n : ℕ} (hlow : 10 ^ n ≤ coeff) (hhigh : coeff < 10 ^ (n + 1)) :
    (Nat.toDigits 10 coeff).length = n + 1 := by
  have hle := (Nat.length_toDigits_le_iff (by decide) (Nat.succ_pos n)).mpr hhigh
  have hpos := Nat.length_toDigits_pos (b := 10) (n := coeff)
  rcases Nat.eq_zero_or_pos n with rfl | hn
  · omega
  · have hgt := (Nat.length_toDigits_le_iff (by decide) hn).not.mpr (Nat.not_lt.mpr hlow)
    omega

/-- The zeros before the digits of a number are not significant. -/
theorem significantDigits_literal (neg : Bool) (exponent : Option ℤ) (hcoeff : 0 < coeff) :
    (literal neg coeff places exponent).significantDigits = (Nat.toDigits 10 coeff).length := by
  have hfirst := head?_toDigits_ne hcoeff
  obtain ⟨c, digits, hcons⟩ :=
    List.exists_cons_of_ne_nil (Nat.toDigits_ne_nil (b := 10) (n := coeff))
  rw [hcons] at hfirst
  have hc : ¬(c == '0') = true := fun h => hfirst (congrArg some (eq_of_beq h))
  rw [Json.Literal.significantDigits, figures_literal, padded,
    List.dropWhile_append_of_pos fun c hc => by rw [List.eq_of_mem_replicate hc]; rfl, hcons,
    List.dropWhile_cons_of_neg (p := (· == '0')) hc]

end Decimal
end Amend
