/-
How a number is written and what checks say of it.  Two numbers of one magnitude, an integer and
a float for example, have the same double but for the sign of zero, which no check on doubles
sees, and the same integer where they have one.  The least signed integer is the exception: as
an integer it is read as one, and as a float it is not, which only evenness tells.
-/
import Amend.Proofs.Json.Magnitude
import Amend.Rule.Check

namespace Amend

namespace Rule

open Binary64 (Alike)

/-! ## Checks of doubles -/

/-- A quotient with a zero on top is a zero or no number, whatever the sign of the zero. -/
theorem isNearlyIntegral_zero_div (divisor : Binary64) :
    isNearlyIntegral (Binary64.zero.div divisor) =
      isNearlyIntegral (Binary64.zero.negate.div divisor) := by
  have hzero : ∀ neg, isNearlyIntegral (.finite ⟨neg, 0, 0, by decide⟩) = true := by
    decide +kernel
  cases divisor with
  | nan => rfl
  | infinite neg =>
    show isNearlyIntegral (Binary64.round _ 0 1) = isNearlyIntegral (Binary64.round _ 0 1)
    rw [Binary64.round_zero, Binary64.round_zero, hzero, hzero]
  | finite y =>
    by_cases hy : y.isZero = true
    · have hdiv : ∀ x : Binary64.Finite, x.isZero = true →
          (Binary64.finite x).div (.finite y) = .nan := by
        intro x hx
        simp only [Binary64.div, hx, hy, if_true]
      rw [Binary64.zero, Binary64.negate, hdiv _ rfl, hdiv _ rfl]
    · have hdiv : ∀ x : Binary64.Finite, x.magnitude = 0 →
          isNearlyIntegral ((Binary64.finite x).div (.finite y)) = true := by
        intro x hx
        simp only [Binary64.div, hx, if_neg hy, Nat.zero_mul, Binary64.round_zero, hzero]
      rw [Binary64.zero, Binary64.negate, hdiv _ rfl, hdiv _ rfl]

theorem isIntegral_zero : Binary64.zero.isIntegral = Binary64.zero.negate.isIntegral := by
  simp only [Binary64.zero, Binary64.negate, Binary64.isIntegral, Binary64.Finite.isIntegral,
    Binary64.Finite.magnitude_negate]

theorem isPowerOf_zero (ln : Binary64 → Binary64) (base : Binary64) :
    isPowerOf ln base .zero = isPowerOf ln base Binary64.zero.negate := by
  have hzero : Binary64.zero.le .zero = true := by decide
  have hnegate : Binary64.zero.negate.le .zero = true := by decide
  simp only [isPowerOf, hzero, hnegate, Bool.true_or, if_true]

/-! ## Checks of integers -/

/-- The least signed integer, written as an integer and as a float. -/
def Split (a b : Number) : Prop := a = .int Number.minSigned ∧ ∃ x, b = .float x

theorem integer?_float {n : Int} {x : Binary64.Finite} (h : x.units = n * Binary64.one) :
    integer? (.num (.float x)) = if n.natAbs < 0x8000000000000000 then some n else none := by
  have hintegral : x.isIntegral = true := Binary64.Finite.isIntegral_iff.mpr ⟨n, h⟩
  have hint : x.toInt = n := Binary64.Finite.toInt_of_units h
  simp only [integer?, hintegral, hint, Bool.true_and, decide_eq_true_iff]

theorem integer?_float_of_units {x y : Binary64.Finite} (h : x.units = y.units) :
    integer? (.num (.float x)) = integer? (.num (.float y)) := by
  have hmagnitude : x.magnitude = y.magnitude := by
    rw [← Binary64.Finite.natAbs_units, h, Binary64.Finite.natAbs_units]
  have hintegral : x.isIntegral = y.isIntegral := by
    rw [Binary64.Finite.isIntegral, hmagnitude, Binary64.Finite.isIntegral]
  have hint : x.toInt = y.toInt := by
    rw [Binary64.Finite.toInt, h, Binary64.Finite.toInt]
  simp only [integer?, hintegral, hint]

/-- An integer and a float of one magnitude are one integer, but for the least signed one. -/
theorem integer?_int_float {n : Int} {x : Binary64.Finite} (h : n * Binary64.one = x.units) :
    integer? (.num (.int n)) = integer? (.num (.float x)) ∨ Split (.int n) (.float x) := by
  rw [integer?_float h.symm]
  by_cases hleast : n = Number.minSigned
  · exact .inr ⟨congrArg Number.int hleast, x, rfl⟩
  · refine .inl ?_
    have hrange : Number.minSigned ≤ n ∧ n ≤ Number.maxSigned ↔
        n.natAbs < 0x8000000000000000 := by
      unfold Number.minSigned Number.maxSigned at *
      omega
    simp only [integer?, Number.toSigned?, hrange]

variable {a b : Number} {ln : Binary64 → Binary64}

theorem integer?_of_units (h : a.units = b.units) :
    integer? (.num a) = integer? (.num b) ∨ Split a b ∨ Split b a := by
  cases a with
  | int n =>
    cases b with
    | int m =>
      rw [Int.eq_of_mul_eq_mul_right Binary64.one_ne_zero h]
      exact .inl rfl
    | float x => exact (integer?_int_float h).imp_right .inl
  | float x =>
    cases b with
    | int m => exact (integer?_int_float h.symm).imp Eq.symm .inr
    | float y => exact .inl (integer?_float_of_units h)

theorem Split.integer? (hsplit : Split a b) (h : a.units = b.units) :
    Rule.integer? (.num a) = some Number.minSigned ∧ Rule.integer? (.num b) = none := by
  obtain ⟨rfl, x, rfl⟩ := hsplit
  refine ⟨rfl, ?_⟩
  rw [integer?_float h.symm]
  rfl

/-- A class of integers without the least signed one does not see how a number is written. -/
theorem any_integer?_of_units {accepts : Int → Bool} (h : a.units = b.units)
    (hleast : accepts Number.minSigned = false) :
    (integer? (.num a)).any accepts = (integer? (.num b)).any accepts := by
  rcases integer?_of_units h with heq | hsplit | hsplit
  · rw [heq]
  · obtain ⟨ha, hb⟩ := hsplit.integer? h
    rw [ha, hb]
    exact hleast
  · obtain ⟨hb, ha⟩ := hsplit.integer? h.symm
    rw [ha, hb]
    exact hleast.symm

/-! ## Verdicts -/

theorem ensure_eq_ok_iff {ok : Bool} {refusal : Refusal} :
    ensure ok refusal = .ok () ↔ ok = true := by
  unfold ensure
  cases ok with
  | true => exact ⟨fun _ => rfl, fun _ => rfl⟩
  | false =>
    constructor
    · intro h
      nomatch h
    · intro h
      nomatch h

theorem ofInteger_eq_ok_iff {value : Value} {accepts : Int → Bool} {what : String} :
    ofInteger value accepts what = .ok () ↔ (integer? value).any accepts = true := by
  unfold ofInteger integer
  cases integer? value with
  | none =>
    constructor
    · intro h
      nomatch h
    · intro h
      nomatch h
  | some n => exact ensure_eq_ok_iff

theorem ofFormat_eq_ok_iff {text : String} {accepts : String → Bool} {what : String} :
    ofFormat (.str text) accepts what = .ok () ↔ accepts text = true := by
  have hread : ofFormat (.str text) accepts what =
      ensure (accepts (String.ofList text.toList)) (.expected what) := rfl
  rw [hread, String.ofList_toList]
  exact ensure_eq_ok_iff

/-- A check of doubles that does not tell the zeros apart. -/
theorem ofNumber_of_units {accepts : Binary64 → Bool} {what : String} (h : a.units = b.units)
    (hzero : accepts .zero = accepts Binary64.zero.negate) :
    ofNumber (.num a) accepts what = .ok () ↔ ofNumber (.num b) accepts what = .ok () := by
  have haccepts := (Number.alike_toBinary64 h).apply hzero
  show ensure (accepts a.toBinary64) _ = _ ↔ ensure (accepts b.toBinary64) _ = _
  rw [haccepts]

theorem ofInteger_of_units {accepts : Int → Bool} {what : String} (h : a.units = b.units)
    (hleast : accepts Number.minSigned = false) :
    ofInteger (.num a) accepts what = .ok () ↔ ofInteger (.num b) accepts what = .ok () := by
  rw [ofInteger_eq_ok_iff, ofInteger_eq_ok_iff, any_integer?_of_units h hleast]

theorem equal_of_units (h : a.units = b.units) (v : Value) :
    v.equal (.num a) = v.equal (.num b) := by
  cases v with
  | num m =>
    show Binary64.eq _ _ = Binary64.eq _ _
    rw [Binary64.eq, Binary64.eq, Number.compareWith_toBinary64, Number.compareWith_toBinary64, h]
  | _ => rfl

/-- Every trait but two says one thing of two numbers of one magnitude. -/
theorem checkTrait_of_units {t : Trait} (h : a.units = b.units) (hpalindrome : t ≠ .palindrome)
    (heven : t ≠ .even) :
    checkTrait ln t (.num a) = .ok () ↔ checkTrait ln t (.num b) = .ok () := by
  have hintegral : (!Binary64.zero.isIntegral) = !Binary64.zero.negate.isIntegral :=
    congrArg not isIntegral_zero
  cases t with
  | palindrome => exact absurd rfl hpalindrome
  | even => exact absurd rfl heven
  | positive | negative | finite | infinite => exact ofNumber_of_units h rfl
  | integer => exact ofNumber_of_units h isIntegral_zero
  | float => exact ofNumber_of_units h hintegral
  | powerOfTwo | powerOfTen => exact ofNumber_of_units h (isPowerOf_zero ln _)
  | odd | prime | perfect | fibonacci | harshad => exact ofInteger_of_units h (by decide)
  | epochTime =>
    have hmilliseconds : (integer? (.num a)).any Format.Timestamp.isMilliseconds =
        (integer? (.num b)).any Format.Timestamp.isMilliseconds :=
      any_integer?_of_units h (by decide)
    simp only [checkTrait, isEpochTime, hmilliseconds]
  | mustBeTrue | mustBeFalse => exact ⟨nofun, nofun⟩
  | _ =>
    -- The other traits are of texts, and no number has them.
    exact ⟨nofun, nofun⟩

theorem checkTrait_even_iff (ln : Binary64 → Binary64) {value : Value} :
    checkTrait ln .even value = .ok () ↔ (integer? value).any (fun n => n.tmod 2 == 0) = true :=
  ofInteger_eq_ok_iff

/-- Evenness is told of the least signed integer as an integer, and not as a float. -/
theorem checkTrait_even_of_units (ln : Binary64 → Binary64) (h : a.units = b.units) :
    (checkTrait ln .even (.num a) = .ok () ↔ checkTrait ln .even (.num b) = .ok ()) ↔
      ¬(Split a b ∨ Split b a) := by
  have hleast : Number.minSigned.tmod 2 = 0 := rfl
  rw [checkTrait_even_iff, checkTrait_even_iff]
  constructor
  · rintro hverdicts (hsplit | hsplit)
    · obtain ⟨ha, hb⟩ := hsplit.integer? h
      rw [ha, hb] at hverdicts
      nomatch hverdicts.mp rfl
    · obtain ⟨hb, ha⟩ := hsplit.integer? h.symm
      rw [ha, hb] at hverdicts
      nomatch hverdicts.mpr rfl
  · intro hsplit
    rw [(integer?_of_units h).resolve_right hsplit]

theorem evaluate_of_units_of_ne_even {c : Check} (h : a.units = b.units)
    (hpalindrome : c ≠ .trait .palindrome) (hcustom : ∀ accepts, c ≠ .custom accepts)
    (heven : c ≠ .trait .even) :
    evaluate c (.num a) = .ok () ↔ evaluate c (.num b) = .ok () := by
  cases c with
  | trait t =>
    exact checkTrait_of_units h (fun ht => hpalindrome (congrArg _ ht))
      (fun ht => heven (congrArg _ ht))
  | lessThan | greaterThan | lessThanOrEqual | greaterThanOrEqual | range | angle =>
    exact ofNumber_of_units h rfl
  | multipleOf divisor => exact ofNumber_of_units h (isNearlyIntegral_zero_div divisor)
  | powerOf base => exact ofNumber_of_units h (isPowerOf_zero _ base)
  | exactLength | minLength | maxLength | contains | startsWith | endsWith | exclude | matching =>
    exact ⟨nofun, nofun⟩
  | oneOf allowed => simp only [evaluate, evaluateWith, ensure_eq_ok_iff, equal_of_units h]
  | unique taken => simp only [evaluate, evaluateWith, ensure_eq_ok_iff, equal_of_units h]
  | custom accepts => exact absurd rfl (hcustom accepts)

/-- Of two numbers of one magnitude, whatever their sorts, a check accepts both or none, unless
it asks whether the least signed integer is even. -/
theorem evaluate_of_units {c : Check} (h : a.units = b.units)
    (hpalindrome : c ≠ .trait .palindrome) (hcustom : ∀ accepts, c ≠ .custom accepts) :
    (evaluate c (.num a) = .ok () ↔ evaluate c (.num b) = .ok ()) ↔
      ¬(c = .trait .even ∧ (Split a b ∨ Split b a)) := by
  by_cases heven : c = .trait .even
  · subst heven
    exact (checkTrait_even_of_units .log h).trans (not_congr (and_iff_right rfl).symm)
  · have hverdicts := evaluate_of_units_of_ne_even h hpalindrome hcustom heven
    exact iff_of_true hverdicts fun hsplit => heven hsplit.1

/-- Two as a float. -/
def floatTwo : Number := .float ⟨false, 0x10000000000000, 1023, by decide⟩

/-- The least signed integer as a float. -/
def leastFloat : Number := .float ⟨true, 0x10000000000000, 1085, by decide⟩

theorem evaluate_of_units_prime_two :
    (Number.int 2).units = floatTwo.units ∧
      (evaluate (.trait .prime) (.num (.int 2)) = .ok () ↔
        evaluate (.trait .prime) (.num floatTwo) = .ok ()) := by
  have hunits : (Number.int 2).units = floatTwo.units := by decide +kernel
  have hverdicts := evaluate_of_units (c := .trait .prime) hunits nofun nofun
  exact ⟨hunits, hverdicts.mpr nofun⟩

/-- As an integer the least signed integer is even; the float of its magnitude is not. -/
theorem evaluate_even_least :
    (Number.int Number.minSigned).units = leastFloat.units ∧
      evaluate (.trait .even) (.num (.int Number.minSigned)) = .ok () ∧
      evaluate (.trait .even) (.num leastFloat) =
        .error (.expectedInstead "an integer" "float") := by
  have hunits : (Number.int Number.minSigned).units = leastFloat.units := by decide +kernel
  have hfloat : integer? (.num leastFloat) = none := by
    rw [leastFloat, integer?_float hunits.symm]
    rfl
  refine ⟨hunits, rfl, ?_⟩
  show ofInteger (.num leastFloat) _ _ = _
  rw [ofInteger, integer, hfloat]
  rfl

end Rule
end Amend
