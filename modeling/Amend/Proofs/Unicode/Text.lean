/-
Texts that are trimmed, and texts of ASCII.  A trimmed text has no white space at either end, so
that trimming it again changes nothing, and nothing is left of a text exactly if all of it is white
space.  Characters of ASCII are decided without the tables and mapped one to one, so whatever holds
of a character and its two cases is a check of the 128 code points.
-/
import Mathlib.Data.List.DropRight
import Amend.Unicode.Case
import Amend.Unicode.Character

namespace Amend
namespace Unicode

/-! ## Trimming -/

theorem trim_eq_rdropWhile (text : List Char) :
    trim text = (text.dropWhile isWhiteSpace).rdropWhile isWhiteSpace := rfl

theorem dropWhile_trim (text : List Char) :
    (trim text).dropWhile isWhiteSpace = trim text := by
  rw [trim_eq_rdropWhile, List.dropWhile_eq_self_iff]
  intro hl
  have hstart : (text.dropWhile isWhiteSpace).rdropWhile isWhiteSpace <+:
      text.dropWhile isWhiteSpace := List.rdropWhile_prefix _ _
  have hlength := Nat.lt_of_lt_of_le hl hstart.length_le
  rw [hstart.getElem hl]
  exact List.dropWhile_get_zero_not isWhiteSpace text hlength

theorem trim_trim (text : List Char) : trim (trim text) = trim text := by
  rw [trim_eq_rdropWhile (trim text), dropWhile_trim, trim_eq_rdropWhile,
    List.rdropWhile_idempotent]

theorem trim_eq_nil_iff {text : List Char} :
    trim text = [] ↔ ∀ c ∈ text, isWhiteSpace c = true := by
  constructor
  · intro h
    have hall := List.rdropWhile_eq_nil_iff.mp h
    have hnil : text.dropWhile isWhiteSpace = [] := by
      rw [← List.dropWhile_idempotent, List.dropWhile_eq_nil_iff]
      exact hall
    exact List.dropWhile_eq_nil_iff.mp hnil
  · intro h
    rw [trim_eq_rdropWhile, List.dropWhile_eq_nil_iff.mpr h]
    rfl

/-! ## ASCII -/

/-- A text of ASCII characters. -/
def Ascii (text : List Char) : Prop := ∀ c ∈ text, c.toNat < 128

variable {c : Char} {text : List Char}

theorem upper_of_ascii (h : c.toNat < 128) : upper c = [c.toUpper] := if_pos h

/-- The sigma that ends words is not among the characters. -/
theorem toLower_of_ascii (h : Ascii text) : toLower text = text.map Char.toLower := by
  unfold toLower
  generalize ([] : List Char) = before
  induction text generalizing before with
  | nil => rfl
  | cons c cs ih =>
    obtain ⟨hc, hcs⟩ := List.forall_mem_cons.mp h
    have hsigma : c ≠ capitalSigma := by
      rintro rfl
      exact absurd hc (by decide)
    rw [lowerAfter, if_neg hsigma, lower, if_pos hc, ih hcs]
    rfl

/-- What the two cases of a character have in common with it. -/
structure SameLetter (c : Char) : Prop where
  lower_lt : c.toLower.toNat < 128
  isAlphanumeric_lower : isAlphanumeric c.toLower = isAlphanumeric c
  isUpper_lower : isUpper c.toLower = false
  lower_lower : c.toLower.toLower = c.toLower
  upper_lt : c.toUpper.toNat < 128
  isAlphanumeric_upper : isAlphanumeric c.toUpper = isAlphanumeric c
  lower_upper : c.toUpper.toLower = c.toLower

theorem sameLetter_of_ascii (h : c.toNat < 128) : SameLetter c := by
  have hall : ∀ n < 128, let c := Char.ofNat n
      c.toLower.toNat < 128 ∧ isAlphanumeric c.toLower = isAlphanumeric c ∧
        isUpper c.toLower = false ∧ c.toLower.toLower = c.toLower ∧
        c.toUpper.toNat < 128 ∧ isAlphanumeric c.toUpper = isAlphanumeric c ∧
        c.toUpper.toLower = c.toLower := by
    decide +kernel
  have hc := hall c.toNat h
  rw [Char.ofNat_toNat] at hc
  obtain ⟨hlower, hletter, hcase, htwice, hupper, hraised, hback⟩ := hc
  exact ⟨hlower, hletter, hcase, htwice, hupper, hraised, hback⟩

end Unicode
end Amend
