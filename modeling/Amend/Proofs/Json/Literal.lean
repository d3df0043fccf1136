/-
String literals.  The grammar of what stands between the quotes, with the text that it denotes, and
its agreement with the reader: a literal is read exactly if the grammar has it, as the text that it
denotes, up to the quote that ends it.
-/
import Amend.Json.Reader
import Amend.Json.Value
import Mathlib.Data.List.Basic

namespace Amend
namespace Json

/-- What may stand between the quotes of a literal, and the text that it denotes: characters other
than quotes, backslashes and those below the space as they are, escapes by a letter or by four
digits, and pairs of escapes for characters beyond `2 ^ 16`. -/
inductive Spells : List Char → List Char → Prop
  | nil : Spells [] []
  | plain {c : Char} {body text : List Char} (hcontrol : 32 ≤ c.toNat) (hquote : c ≠ '"')
    (hbackslash : c ≠ '\\') (h : Spells body text) : Spells (c :: body) (c :: text)
  | letter {l c : Char} {body text : List Char} (hletter : letterEscape l = some c)
    (h : Spells body text) : Spells ('\\' :: l :: body) (c :: text)
  | unit {a b c d : Char} {u : Nat} {body text : List Char} (hunit : hexUnit a b c d = some u)
    (hlow : isLowSurrogate u = false) (hhigh : isHighSurrogate u = false)
    (h : Spells body text) :
    Spells ('\\' :: 'u' :: a :: b :: c :: d :: body) (Char.ofNat u :: text)
  | pair {a b c d e f g i : Char} {u v : Nat} {body text : List Char}
    (hunit : hexUnit a b c d = some u) (hhigh : isHighSurrogate u = true)
    (hunit' : hexUnit e f g i = some v) (hlow : isLowSurrogate v = true) (h : Spells body text) :
    Spells ('\\' :: 'u' :: a :: b :: c :: d :: '\\' :: 'u' :: e :: f :: g :: i :: body)
      (Char.ofNat (0x10000 + (u - 0xD800) * 0x400 + (v - 0xDC00)) :: text)

variable {body text rest acc cs : List Char}

theorem not_isLowSurrogate_of_high {u : Nat} (h : isHighSurrogate u = true) :
    isLowSurrogate u = false := by
  simp only [isHighSurrogate, isLowSurrogate, decide_eq_true_eq, decide_eq_false_iff_not] at h ⊢
  omega

theorem letterEscape_ne_u {l c : Char} (h : letterEscape l = some c) : l ≠ 'u' := by
  rintro rfl
  nomatch h

/-! ## One character -/

theorem readString_plain {c : Char} (hcontrol : 32 ≤ c.toNat) (hquote : c ≠ '"')
    (hbackslash : c ≠ '\\') (acc cs : List Char) :
    readString false acc (c :: cs) = readString false (c :: acc) cs := by
  rw [readString]
  · have hplain : ¬(c.toNat < 32 ∨ c = '\\') := by
      rintro (h | h)
      · omega
      · exact hbackslash h
    rw [if_neg hplain]
  · exact hquote
  · intro _ _ _ _ _ h _
    exact hbackslash h
  · intro _ _ h _
    exact hbackslash h

theorem readString_letter {l c : Char} (h : letterEscape l = some c) (acc cs : List Char) :
    readString false acc ('\\' :: l :: cs) = readString false (c :: acc) cs := by
  rw [readString]
  · rw [h]
  · intro _ _ _ _ _ hl _
    exact letterEscape_ne_u h hl

theorem readString_unit {a b c d : Char} {u : Nat} (hunit : hexUnit a b c d = some u)
    (hlow : isLowSurrogate u = false) (hhigh : isHighSurrogate u = false) (acc cs : List Char) :
    readString false acc ('\\' :: 'u' :: a :: b :: c :: d :: cs) =
      readString false (Char.ofNat u :: acc) cs := by
  rw [readString, hunit]
  simp [hlow, hhigh]

theorem readString_pair {a b c d e f g i : Char} {u v : Nat} (hunit : hexUnit a b c d = some u)
    (hhigh : isHighSurrogate u = true) (hunit' : hexUnit e f g i = some v)
    (hlow : isLowSurrogate v = true) (acc cs : List Char) :
    readString false acc
        ('\\' :: 'u' :: a :: b :: c :: d :: '\\' :: 'u' :: e :: f :: g :: i :: cs) =
      readString false (Char.ofNat (0x10000 + (u - 0xD800) * 0x400 + (v - 0xDC00)) :: acc) cs := by
  rw [readString, hunit]
  simp [not_isLowSurrogate_of_high hhigh, hhigh, hunit', hlow]

/-! ## Literals -/

/-- A literal of the grammar is read as what it denotes, whatever comes after it. -/
theorem readString_of_spells (h : Spells body text) (acc rest : List Char) :
    readString false acc (body ++ '"' :: rest) = some (acc.reverse ++ text, rest) := by
  induction h generalizing acc with
  | nil => simp [readString]
  | plain hcontrol hquote hbackslash _ ih =>
    rw [List.cons_append, readString_plain hcontrol hquote hbackslash, ih]
    simp
  | letter hletter _ ih =>
    rw [List.cons_append, List.cons_append, readString_letter hletter, ih]
    simp
  | unit hunit hlow hhigh _ ih =>
    simp only [List.cons_append]
    rw [readString_unit hunit hlow hhigh, ih]
    simp
  | pair hunit hhigh hunit' hlow _ ih =>
    simp only [List.cons_append]
    rw [readString_pair hunit hhigh hunit' hlow, ih]
    simp

/-- A literal that ends before `rest`, where `acc` was read before it, in reverse. -/
def ReadsAs (acc cs read rest : List Char) : Prop :=
  ∃ body text, cs = body ++ '"' :: rest ∧ read = acc.reverse ++ text ∧ Spells body text

theorem ReadsAs.step {c : Char} {read : List Char} (h : ReadsAs (c :: acc) cs read rest)
    (escape : List Char)
    (hescape : ∀ {body text}, Spells body text → Spells (escape ++ body) (c :: text)) :
    ReadsAs acc (escape ++ cs) read rest := by
  obtain ⟨body, text, rfl, rfl, hspells⟩ := h
  exact ⟨escape ++ body, c :: text, by simp, by simp, hescape hspells⟩

/-- What is read is a literal of the grammar. -/
theorem readsAs_of_readString {read : List Char}
    (h : readString false acc cs = some (read, rest)) : ReadsAs acc cs read rest := by
  fun_induction readString false acc cs
  case case1 | case3 | case5 | case6 | case8 | case9 | case11 | case13 => nomatch h
  case case2 acc rest' =>
    obtain ⟨rfl, rfl⟩ := Prod.mk.inj (Option.some.inj h)
    exact ⟨[], [], rfl, (List.append_nil _).symm, .nil⟩
  case case4 hform _ => nomatch hform
  case case7 acc a b c d u hunit _ _ hhigh e f g i cs v hunit' hlow ih =>
    exact (ih h).step ['\\', 'u', a, b, c, d, '\\', 'u', e, f, g, i] (.pair hunit hhigh hunit' hlow)
  case case10 acc a b c d cs u hunit _ hlow hhigh ih =>
    exact (ih h).step ['\\', 'u', a, b, c, d]
      (.unit hunit (Bool.eq_false_iff.mpr hlow) (Bool.eq_false_iff.mpr hhigh))
  case case12 acc l cs _ c hletter ih => exact (ih h).step ['\\', l] (.letter hletter)
  case case14 acc c cs hquote _ _ hplain ih =>
    obtain ⟨hcontrol, hbackslash⟩ := not_or.mp hplain
    exact (ih h).step [c] (.plain (Nat.le_of_not_lt hcontrol) hquote hbackslash)

/-- The reader and the grammar have the same literals, with the same texts. -/
theorem readString_eq_some_iff {read : List Char} :
    readString false [] cs = some (read, rest) ↔
      ∃ body, cs = body ++ '"' :: rest ∧ Spells body read := by
  constructor
  · intro h
    obtain ⟨body, text, hcs, rfl, hspells⟩ := readsAs_of_readString h
    exact ⟨body, hcs, hspells⟩
  · rintro ⟨body, rfl, hspells⟩
    exact readString_of_spells hspells [] rest

/-! ## Written escapes -/

theorem hexValue_hexDigit : ∀ n < 16, hexValue (hexDigit n) = some n := by decide

theorem hexUnit_unicodeEscape {n : Nat} (h : n < 0x10000) :
    hexUnit (hexDigit (n / 4096 % 16)) (hexDigit (n / 256 % 16)) (hexDigit (n / 16 % 16))
      (hexDigit (n % 16)) = some n := by
  have hdigit : ∀ m, hexValue (hexDigit (m % 16)) = some (m % 16) := fun m =>
    hexValue_hexDigit _ (Nat.mod_lt m (by decide))
  have hdigits : ((n / 4096 % 16 * 16 + n / 256 % 16) * 16 + n / 16 % 16) * 16 + n % 16 = n := by
    omega
  simp only [hexUnit, hdigit, hdigits]

theorem spells_unicodeEscape {c : Char} (hc : c.toNat < 0xD800) (h : Spells body text) :
    Spells (unicodeEscape c ++ body) (c :: text) := by
  have hlow : isLowSurrogate c.toNat = false := by
    simp only [isLowSurrogate, decide_eq_false_iff_not]
    omega
  have hhigh : isHighSurrogate c.toNat = false := by
    simp only [isHighSurrogate, decide_eq_false_iff_not]
    omega
  have hspells := h.unit (hexUnit_unicodeEscape (by omega : c.toNat < 0x10000)) hlow hhigh
  rwa [Char.ofNat_toNat] at hspells

/-- A way to write characters is a way to write texts. -/
theorem spells_flatMap {escape : Char → List Char}
    (h : ∀ c {body text}, Spells body text → Spells (escape c ++ body) (c :: text))
    (cs : List Char) : Spells (cs.flatMap escape) cs := by
  induction cs with
  | nil => exact .nil
  | cons c cs ih => exact h c ih

end Json
end Amend
