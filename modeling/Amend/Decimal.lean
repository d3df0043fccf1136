/-
Decimal numbers and the written forms of doubles.

The shortest decimal for a double is found on the grids with 1, 2, ... 17 significant digits: it
is on the first one with a point that rounds to the double, and there the point nearest to it.

The other forms are plain decimals, fixed places, exponential form, and a number of significant
digits.  Each of them rounds the exact value once, a half going to the even digit.
-/
import Amend.Binary64.Basic

namespace Amend

/-! ## Decimals and powers of ten -/

/-- The number `coeff * 10 ^ exp`. -/
structure Decimal where
  coeff : Nat
  exp : Int
deriving DecidableEq

namespace Decimal

/-- The digits of the coefficient. -/
def digits (d : Decimal) : List Char := Nat.toDigits 10 d.coeff

/-- The exponent of the first digit. -/
def leading (d : Decimal) : Int := d.exp + (d.digits.length : Int) - 1

/-- The same number without trailing zeros in the coefficient. -/
def normalize (d : Decimal) : Decimal :=
  if _h : d.coeff ≠ 0 ∧ d.coeff % 10 = 0 then normalize ⟨d.coeff / 10, d.exp + 1⟩ else d
termination_by d.coeff
decreasing_by omega

/-- The quotient of `magnitude` units by `10 ^ exp`, as a fraction. -/
def quotient (magnitude : Nat) (exp : Int) : Nat × Nat :=
  if 0 ≤ exp then (magnitude, Binary64.one * Nat.pow 10 exp.toNat)
  else (magnitude * Nat.pow 10 (-exp).toNat, Binary64.one)

/-- Whether `10 ^ exp` is at most `magnitude` units. -/
def powerLe (exp : Int) (magnitude : Nat) : Bool :=
  let (num, den) := quotient magnitude exp
  decide (den ≤ num)

/-- The exponent of the greatest power of ten that is at most `magnitude` units.  The binary
exponent times the logarithm of two gives it up to one, and the neighbours decide. -/
def exponent (magnitude : Nat) : Int :=
  let guess := ((magnitude.log2 : Int) - 1074) * 30103 / 100000
  if !powerLe guess magnitude then guess - 1
  else if powerLe (guess + 1) magnitude then guess + 1
  else guess

/-! ## The shortest decimal -/

open Binary64 (Finite one roundHalfEven)

/-- Whether a decimal lies in the interval of numbers that round to the double.  The interval
reaches half way to both neighbours, and its ends belong to it when the significand is even.
Below a power of two the neighbour is half as far. -/
def readsBackAs (d : Decimal) (x : Finite) : Bool :=
  let gap := Nat.pow 2 x.shift
  let below := if x.mant = 0x10000000000000 ∧ x.shift ≠ 0 then gap else 2 * gap
  let low := 4 * x.magnitude - below
  let high := 4 * x.magnitude + 2 * gap
  let (num, den) :=
    if 0 ≤ d.exp then (4 * one * d.coeff * Nat.pow 10 d.exp.toNat, 1)
    else (4 * one * d.coeff, Nat.pow 10 (-d.exp).toNat)
  if x.mant % 2 = 0 then decide (low * den ≤ num) && decide (num ≤ high * den)
  else decide (low * den < num) && decide (num < high * den)

/-- The point of the grid of multiples of `10 ^ exp` that reads back and is nearest, a tie going
to the even multiple. -/
def onGrid? (x : Finite) (exp : Int) : Option Decimal :=
  let (num, den) := quotient x.magnitude exp
  let below : Decimal := ⟨num / den, exp⟩
  let above : Decimal := ⟨num / den + 1, exp⟩
  match below.readsBackAs x, above.readsBackAs x with
  | true, true => some ⟨roundHalfEven num den, exp⟩
  | true, false => some below
  | false, true => some above
  | false, false => none

/-- The shortest decimal for the magnitude of a finite double. -/
def shortest (x : Finite) : Decimal :=
  if x.isZero then ⟨0, 0⟩
  else
    let top := exponent x.magnitude
    match (List.range 17).findSome? fun (i : Nat) => onGrid? x (top - i) with
    | some d => d.normalize
    | none => ⟨x.magnitude / one, 0⟩

/-! ## Written forms -/

/-- Digits around a decimal point, the first digit standing for `10 ^ leading`. -/
def positional (digits : List Char) (leading : Int) : List Char × List Char :=
  if leading < 0 then
    (['0'], List.replicate (-leading - 1).toNat '0' ++ digits)
  else
    let whole := leading.toNat + 1
    (digits.take whole ++ List.replicate (whole - digits.length) '0', digits.drop whole)

/-- A whole part and a fraction part, with a point when there is a fraction. -/
def joinPoint (parts : List Char × List Char) : List Char :=
  if parts.2.isEmpty then parts.1 else parts.1 ++ '.' :: parts.2

def signed (neg : Bool) (text : List Char) : String :=
  String.ofList (if neg then '-' :: text else text)

/-- The texts of the doubles that have no digits. -/
def withFinite (write : Finite → String) : Binary64 → String
  | .finite x => write x
  | .infinite false => "inf"
  | .infinite true => "-inf"
  | .nan => "NaN"

/-- The shortest digits in full, never with an exponent. -/
def plain : Binary64 → String :=
  withFinite fun x =>
    let d := shortest x
    signed x.neg (joinPoint (positional d.digits d.leading))

/-- A multiple of `10 ^ -places` written with that many decimals. -/
def fixedDigits (coeff places : Nat) : List Char :=
  let digits := Nat.toDigits 10 coeff
  let padded := List.replicate (places + 1 - digits.length) '0' ++ digits
  joinPoint (padded.take (padded.length - places), padded.drop (padded.length - places))

/-- The value rounded to a number of decimals. -/
def toFixed (value : Binary64) (places : Nat) : String :=
  withFinite (fun x =>
    signed x.neg (fixedDigits (roundHalfEven (x.magnitude * Nat.pow 10 places) one) places)) value

/-- The magnitude rounded to `places + 1` significant digits, and the exponent of the first. -/
def significant (x : Finite) (places : Nat) : Nat × Int :=
  if x.isZero then (0, 0)
  else
    let top := exponent x.magnitude
    let (num, den) := quotient x.magnitude (top - places)
    let coeff := roundHalfEven num den
    if coeff = Nat.pow 10 (places + 1) then (Nat.pow 10 places, top + 1) else (coeff, top)

/-- An exponent with its sign always written. -/
def signedExponent (e : Int) : List Char :=
  (if e < 0 then '-' else '+') :: Nat.toDigits 10 e.natAbs

/-- One digit before the point, `places` after it, and the exponent. -/
def exponentialForm (x : Finite) (places : Nat) : String :=
  let (coeff, top) := significant x places
  signed x.neg (fixedDigits coeff places ++ 'e' :: signedExponent top)

/-- Exponential form with a number of decimals. -/
def toExponential (value : Binary64) (places : Nat) : String :=
  withFinite (fun x => exponentialForm x places) value

/-- A number of significant digits: exponential form below a millionth and where the digits do
not reach the decimal point, positional form otherwise. -/
def toPrecision (value : Binary64) (digits : Nat) : String :=
  withFinite (fun x =>
    if x.isZero then toFixed .zero (digits - 1)
    else
      let top := (significant x (digits - 1)).2
      if top < -6 ∨ (digits : Int) ≤ top then exponentialForm x (digits - 1)
      else toFixed value ((digits : Int) - 1 - top).toNat) value

end Decimal
end Amend
