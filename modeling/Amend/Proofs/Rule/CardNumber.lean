/-
Typing errors in the number of a payment card.  The check digit is compared modulo ten, and twice a
digit, with its digits added, is a permutation of the digits modulo ten, so one wrong digit always
shows.  Two neighbours are weighed in different ways, and what an exchange of them changes is zero
modulo ten for no two different digits but zero and nine.
-/
import Amend.Proofs.Rule.Spelling
import Mathlib.Logic.Relation

namespace Amend
namespace Format
namespace CardNumber

/-! ## Sums -/

/-- What a digit adds to the sum. -/
def weighed (double : Bool) (d : Nat) : Nat := if double then doubled d else d

theorem weighed_mod_eq_iff (double : Bool) {d e : Nat} (hd : d < 10) (he : e < 10) :
    weighed double d % 10 = weighed double e % 10 ↔ d = e := by
  have hall : ∀ double, ∀ d < 10, ∀ e < 10,
      weighed double d % 10 = weighed double e % 10 ↔ d = e := by decide
  exact hall double d hd e he

/-- Two digits whose exchange does not show. -/
def Twins (d e : Nat) : Prop := d = e ∨ d = 0 ∧ e = 9 ∨ d = 9 ∧ e = 0

instance (d e : Nat) : Decidable (Twins d e) := by
  unfold Twins
  infer_instance

theorem weighed_swap_mod_eq_iff (double : Bool) {d e : Nat} (hd : d < 10) (he : e < 10) :
    (weighed double d + weighed (!double) e) % 10 = (weighed double e + weighed (!double) d) % 10 ↔
      Twins d e := by
  have hall : ∀ double, ∀ d < 10, ∀ e < 10, (weighed double d + weighed (!double) e) % 10 =
      (weighed double e + weighed (!double) d) % 10 ↔ Twins d e := by decide
  exact hall double d hd e he

theorem checksum_cons (double : Bool) (d : Nat) (rest : List Nat) :
    checksum double (d :: rest) = weighed double d + checksum (!double) rest := rfl

/-- How the digits behind some others are weighed depends on the number of these alone. -/
theorem exists_checksum_append (double : Bool) (digits : List Nat) :
    ∃ next, ∀ rest, checksum double (digits ++ rest) =
      checksum double digits + checksum next rest := by
  induction digits generalizing double with
  | nil => exact ⟨double, fun rest => (Nat.zero_add _).symm⟩
  | cons d digits ih =>
    obtain ⟨next, hnext⟩ := ih !double
    refine ⟨next, fun rest => ?_⟩
    rw [List.cons_append, checksum_cons, hnext, checksum_cons, Nat.add_assoc]

theorem isDigits_iff {digits : List Nat} :
    isDigits digits = true ↔
      13 ≤ digits.length ∧ digits.length ≤ 19 ∧ checksum false digits.reverse % 10 = 0 := by
  simp only [isDigits, Bool.and_eq_true, decide_eq_true_iff, beq_iff_eq, and_assoc]

variable {before after : List Nat} {d e : Nat}

/-- In place of one digit of a number no other can stand. -/
theorem isDigits_replace_iff (hd : d < 10) (he : e < 10)
    (h : isDigits (before ++ d :: after) = true) :
    isDigits (before ++ e :: after) = true ↔ d = e := by
  refine ⟨fun h' => ?_, fun hde => hde ▸ h⟩
  obtain ⟨next, hnext⟩ := exists_checksum_append false after.reverse
  have hsum (x : Nat) : checksum false (before ++ x :: after).reverse =
      checksum false after.reverse + (weighed next x + checksum (!next) before.reverse) := by
    rw [List.reverse_append, List.reverse_cons, List.append_assoc, List.singleton_append, hnext,
      checksum_cons]
  have hzero := (isDigits_iff.mp h).2.2
  have hzero' := (isDigits_iff.mp h').2.2
  rw [hsum] at hzero hzero'
  exact (weighed_mod_eq_iff next hd he).mp (by omega)

/-- An exchange of two neighbours does not show exactly if they are twins. -/
theorem isDigits_swap_iff (hd : d < 10) (he : e < 10)
    (h : isDigits (before ++ d :: e :: after) = true) :
    isDigits (before ++ e :: d :: after) = true ↔ Twins d e := by
  obtain ⟨next, hnext⟩ := exists_checksum_append false after.reverse
  have hsum (x y : Nat) : checksum false (before ++ x :: y :: after).reverse =
      checksum false after.reverse +
        (weighed next y + (weighed (!next) x + checksum (!!next) before.reverse)) := by
    rw [List.reverse_append, List.reverse_cons, List.reverse_cons, List.append_assoc,
      List.append_assoc, List.singleton_append, List.singleton_append, hnext, checksum_cons,
      checksum_cons]
  have hlength : (before ++ e :: d :: after).length = (before ++ d :: e :: after).length := by
    simp only [List.length_append, List.length_cons]
  have hswap := weighed_swap_mod_eq_iff next hd he
  rw [isDigits_iff, hsum] at h
  rw [isDigits_iff, hsum, hlength, ← hswap]
  omega

/-! ## Texts -/

/-- The characters of a text that are no separators. -/
def kept (text : List Char) : List Char := text.filter (!isSeparator ·)

theorem kept_append (text rest : List Char) : kept (text ++ rest) = kept text ++ kept rest :=
  List.filter_append text rest

theorem kept_separator {c : Char} (h : isSeparator c = true) (rest : List Char) :
    kept (c :: rest) = kept rest := by
  rw [kept, List.filter_cons_of_neg (by rw [h]; exact Bool.false_ne_true)]
  rfl

theorem kept_cons {c : Char} (h : isSeparator c = false) (rest : List Char) :
    kept (c :: rest) = c :: kept rest := by
  rw [kept, List.filter_cons_of_pos (by rw [h]; rfl)]
  rfl

theorem kept_eq_nil {text : List Char} (h : ∀ c ∈ text, isSeparator c = true) : kept text = [] := by
  refine List.filter_eq_nil_iff.mpr fun c hc => ?_
  rw [h c hc]
  exact Bool.false_ne_true

theorem isSeparator_of_isDigit {c : Char} (h : c.isDigit = true) : isSeparator c = false := by
  rw [isSeparator, Bool.or_eq_false_iff, beq_eq_false_iff_ne, beq_eq_false_iff_ne]
  constructor
  · rintro rfl
    exact absurd h (by decide)
  · rintro rfl
    exact absurd h (by decide)

theorem digitValue_lt {c : Char} (h : c.isDigit = true) : digitValue c < 10 := by
  have hrange := Char.isDigit_iff_toNat.mp h
  have hends : '0'.toNat = 48 ∧ '9'.toNat = 57 := ⟨rfl, rfl⟩
  unfold digitValue
  omega

theorem digitValue_inj {a b : Char} (ha : a.isDigit = true) (hb : b.isDigit = true) :
    digitValue a = digitValue b ↔ a = b := by
  refine ⟨fun h => ?_, fun h => h ▸ rfl⟩
  have hrange := Char.isDigit_iff_toNat.mp ha
  have hrange' := Char.isDigit_iff_toNat.mp hb
  have hzero : '0'.toNat = 48 := rfl
  unfold digitValue at h
  exact Char.toNat_inj.mp (by omega)

/-- Whether what is left of a text without its separators is the number of a card. -/
def Numbered (text : List Char) : Prop :=
  (∀ c ∈ kept text, c.isDigit = true) ∧ isDigits ((kept text).map digitValue) = true

theorem isText_iff {text : List Char} : isText (String.ofList text) = true ↔ Numbered text := by
  have hdigits : digits? text =
      if (kept text).all Char.isDigit then some ((kept text).map digitValue) else none := rfl
  rw [isText, String.toList_ofList, hdigits, Numbered, ← List.all_eq_true]
  cases hall : (kept text).all Char.isDigit with
  | true => exact ⟨fun h => ⟨rfl, h⟩, And.right⟩
  | false => exact ⟨nofun, nofun⟩

/-- Texts that differ by one separator. -/
def Respaced (text text' : List Char) : Prop :=
  ∃ before c after, isSeparator c = true ∧ text = before ++ after ∧ text' = before ++ c :: after

theorem kept_of_respaced {text text' : List Char} (h : Respaced text text') :
    kept text = kept text' := by
  obtain ⟨before, c, after, hc, rfl, rfl⟩ := h
  rw [kept_append, kept_append, kept_separator hc]

theorem kept_of_eqvGen {text text' : List Char} (h : Relation.EqvGen Respaced text text') :
    kept text = kept text' := by
  induction h with
  | rel text text' h => exact kept_of_respaced h
  | refl text => rfl
  | symm text text' _ ih => exact ih.symm
  | trans text mid text' _ _ ih ih' => exact ih.trans ih'

/-- The digits that stand on the two sides of a separator are neighbours. -/
theorem kept_around {mid : List Char} {a b : Char} (hmid : ∀ c ∈ mid, isSeparator c = true)
    (ha : isSeparator a = false) (hb : isSeparator b = false) (before after : List Char) :
    kept (before ++ a :: (mid ++ b :: after)) = kept before ++ a :: b :: kept after := by
  rw [kept_append, kept_cons ha, kept_append, kept_eq_nil hmid, List.nil_append, kept_cons hb]

end CardNumber
end Format

/-! ## The rule -/

namespace Rule

open Format.CardNumber

/-- Whether the rule for card numbers accepts a text. -/
def AcceptsCard (text : List Char) : Prop :=
  evaluate (.trait .validCreditCard) (.str (String.ofList text)) = .ok ()

theorem acceptsCard_iff {text : List Char} : AcceptsCard text ↔ Numbered text :=
  ofFormat_eq_ok_iff.trans isText_iff

/-- What the rule for card numbers says to changes of a text that it accepts.  Separators are the
space and the hyphen. -/
structure DetectsErrors (text : List Char) : Prop where
  /-- Separators can be put in and taken out. -/
  respaced : ∀ text', Relation.EqvGen Respaced text text' → AcceptsCard text'
  /-- No other digit can stand in place of a digit. -/
  replaced : ∀ before after a b, text = before ++ a :: after → a.isDigit = true →
    b.isDigit = true → (AcceptsCard (before ++ b :: after) ↔ a = b)
  /-- Two neighbours among the digits can be exchanged only if they are equal or zero and nine. -/
  swapped : ∀ before mid after a b, text = before ++ a :: (mid ++ b :: after) →
    (∀ c ∈ mid, isSeparator c = true) → a.isDigit = true → b.isDigit = true →
    (AcceptsCard (before ++ b :: (mid ++ a :: after)) ↔
      a = b ∨ a = '0' ∧ b = '9' ∨ a = '9' ∧ b = '0')
  /-- No other character can be put in. -/
  foreign : ∀ before after c, text = before ++ after → c.isDigit = false → isSeparator c = false →
    ¬AcceptsCard (before ++ c :: after)

theorem acceptsCard_respaced {text text' : List Char} (h : AcceptsCard text)
    (hspace : Relation.EqvGen Respaced text text') : AcceptsCard text' := by
  rw [acceptsCard_iff, Numbered] at h ⊢
  rw [← kept_of_eqvGen hspace]
  exact h

theorem acceptsCard_replaced_iff {before after : List Char} {a b : Char}
    (h : AcceptsCard (before ++ a :: after)) (ha : a.isDigit = true) (hb : b.isDigit = true) :
    AcceptsCard (before ++ b :: after) ↔ a = b := by
  rw [acceptsCard_iff, Numbered, kept_append, kept_cons (isSeparator_of_isDigit ha)] at h
  rw [acceptsCard_iff, Numbered, kept_append, kept_cons (isSeparator_of_isDigit hb)]
  simp only [List.forall_mem_append, List.forall_mem_cons, List.map_append, List.map_cons] at h ⊢
  rw [isDigits_replace_iff (digitValue_lt ha) (digitValue_lt hb) h.2, digitValue_inj ha hb]
  exact ⟨And.right, fun hab => ⟨⟨h.1.1, hb, h.1.2.2⟩, hab⟩⟩

theorem twins_digitValue_iff {a b : Char} (ha : a.isDigit = true) (hb : b.isDigit = true) :
    Twins (digitValue a) (digitValue b) ↔ a = b ∨ a = '0' ∧ b = '9' ∨ a = '9' ∧ b = '0' := by
  have hzero : ('0' : Char).isDigit = true := by decide
  have hnine : ('9' : Char).isDigit = true := by decide
  rw [Twins, digitValue_inj ha hb, show (0 : Nat) = digitValue '0' from rfl,
    show (9 : Nat) = digitValue '9' from rfl, digitValue_inj ha hzero, digitValue_inj hb hnine,
    digitValue_inj ha hnine, digitValue_inj hb hzero]

theorem acceptsCard_swapped_iff {before mid after : List Char} {a b : Char}
    (h : AcceptsCard (before ++ a :: (mid ++ b :: after)))
    (hmid : ∀ c ∈ mid, isSeparator c = true) (ha : a.isDigit = true) (hb : b.isDigit = true) :
    AcceptsCard (before ++ b :: (mid ++ a :: after)) ↔
      a = b ∨ a = '0' ∧ b = '9' ∨ a = '9' ∧ b = '0' := by
  have hsep := isSeparator_of_isDigit ha
  have hsep' := isSeparator_of_isDigit hb
  rw [acceptsCard_iff, Numbered, kept_around hmid hsep hsep'] at h
  rw [acceptsCard_iff, Numbered, kept_around hmid hsep' hsep, ← twins_digitValue_iff ha hb]
  simp only [List.forall_mem_append, List.forall_mem_cons, List.map_append, List.map_cons] at h ⊢
  rw [isDigits_swap_iff (digitValue_lt ha) (digitValue_lt hb) h.2]
  exact ⟨And.right, fun htwins => ⟨⟨h.1.1, hb, ha, h.1.2.2.2⟩, htwins⟩⟩

theorem not_acceptsCard_foreign {before after : List Char} {c : Char} (hdigit : c.isDigit = false)
    (hsep : isSeparator c = false) : ¬AcceptsCard (before ++ c :: after) := by
  intro h
  rw [acceptsCard_iff, Numbered, kept_append, kept_cons hsep] at h
  have hc := h.1 c (List.mem_append_right _ List.mem_cons_self)
  rw [hdigit] at hc
  exact Bool.false_ne_true hc

/-- The rule for card numbers does not see separators.  It shows every wrong digit, every exchange
of neighbours but that of zero and nine, and every foreign character. -/
theorem evaluate_cardNumber_detects {text : List Char}
    (h : evaluate (.trait .validCreditCard) (.str (String.ofList text)) = .ok ()) :
    DetectsErrors text where
  respaced _ hspace := acceptsCard_respaced h hspace
  replaced _ _ _ _ htext ha hb := acceptsCard_replaced_iff (htext ▸ h) ha hb
  swapped _ _ _ _ _ htext hmid ha hb := acceptsCard_swapped_iff (htext ▸ h) hmid ha hb
  foreign _ _ _ _ hdigit hsep := not_acceptsCard_foreign hdigit hsep

/-- The greatest length, with separators at an end and between the digits. -/
theorem evaluate_cardNumber_detects_longest :
    let text := "4-111 1111 1111 1111 409 ".toList
    evaluate (.trait .validCreditCard) (.str (String.ofList text)) = .ok () ∧
      DetectsErrors text := by
  intro text
  have htext : isText (String.ofList text) = true := by decide
  have h : evaluate (.trait .validCreditCard) (.str (String.ofList text)) = .ok () :=
    ofFormat_eq_ok_iff.mpr htext
  exact ⟨h, evaluate_cardNumber_detects h⟩

end Rule
end Amend
