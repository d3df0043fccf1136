/-
Doubles as exact integers.  A finite double is a significand times a power of two, counted in
units of `2 ^ -1074`, the distance between the smallest doubles, so its value is an integer
number of units and comparing two doubles is comparing two integers.  Every operation that has
to round goes through `Binary64.round`, which picks the double nearest to a quotient of units.
-/

namespace Amend

/-- A finite double.  Its magnitude is `mant * 2 ^ shift` units.  The significand has at most
53 bits, and exactly 53 unless the shift is zero, so each magnitude has one such form. -/
structure Binary64.Finite where
  neg : Bool
  mant : Nat
  shift : Nat
  canonical : mant < 0x20000000000000 ∧ shift ≤ 2045 ∧ (0x10000000000000 ≤ mant ∨ shift = 0)
deriving DecidableEq

/-- A double: finite, infinite, or not a number. -/
inductive Binary64 where
  | finite (x : Binary64.Finite)
  | infinite (neg : Bool)
  | nan
deriving DecidableEq

namespace Binary64

/-- The number of units in one. -/
abbrev one : Nat := Nat.pow 2 1074

/-- A quotient rounded to the nearest integer, a half going to the even neighbour. -/
def roundHalfEven (num den : Nat) : Nat :=
  let q := num / den
  let r := num % den
  if 2 * r < den then q
  else if den < 2 * r then q + 1
  else if q % 2 = 0 then q
  else q + 1

namespace Finite

def zero : Finite := ⟨false, 0, 0, by decide⟩

instance : Inhabited Finite := ⟨zero⟩

/-- The magnitude in units. -/
def magnitude (x : Finite) : Nat := x.mant * Nat.pow 2 x.shift

/-- The value in units. -/
def units (x : Finite) : Int := if x.neg then -(x.magnitude : Int) else x.magnitude

def isZero (x : Finite) : Bool := x.mant == 0

def negate (x : Finite) : Finite := { x with neg := !x.neg }

def abs (x : Finite) : Finite := { x with neg := false }

/-- Whether the value is a whole number. -/
def isIntegral (x : Finite) : Bool := x.magnitude % one == 0

/-- The value cut off toward zero. -/
def toInt (x : Finite) : Int := x.units.tdiv one

@[simp] theorem units_abs (x : Finite) : x.abs.units = x.magnitude := rfl

@[simp] theorem magnitude_negate (x : Finite) : x.negate.magnitude = x.magnitude := rfl

end Finite

/-- A double from its parts, infinite when the exponent is too large. -/
def ofParts (neg : Bool) (mant shift : Nat) : Binary64 :=
  if h : mant < 0x20000000000000 ∧ shift ≤ 2045 ∧ (0x10000000000000 ≤ mant ∨ shift = 0) then
    .finite ⟨neg, mant, shift, h⟩
  else .infinite neg

/-- The double nearest to `num / den` units, a tie going to the even significand. -/
def round (neg : Bool) (num den : Nat) : Binary64 :=
  let shift := (num / den).log2 - 52
  let mant := roundHalfEven num (den * Nat.pow 2 shift)
  if mant = 0x20000000000000 then ofParts neg 0x10000000000000 (shift + 1)
  else ofParts neg mant shift

/-- The double nearest to the fraction `num / den`. -/
def ofRatio (neg : Bool) (num den : Nat) : Binary64 := round neg (num * one) den

/-- The double nearest to an integer. -/
def ofInt (n : Int) : Binary64 := ofRatio (decide (n < 0)) n.natAbs 1

def zero : Binary64 := .finite .zero

instance : Inhabited Binary64 := ⟨zero⟩

/-- Where a double stands on the line of units.  The infinities stand beyond every finite
double, and only NaN has no place. -/
def position : Binary64 → Option Int
  | .finite x => some x.units
  | .infinite false => some (Nat.pow 2 2098 : Nat)
  | .infinite true => some (-(Nat.pow 2 2098 : Nat))
  | .nan => none

/-- A comparison of two doubles, false when either is NaN. -/
def compareWith (rel : Int → Int → Bool) (a b : Binary64) : Bool :=
  match a.position, b.position with
  | some p, some q => rel p q
  | _, _ => false

def lt (a b : Binary64) : Bool := compareWith (fun p q => decide (p < q)) a b

def le (a b : Binary64) : Bool := compareWith (fun p q => decide (p ≤ q)) a b

/-- Equality of values: the two zeros are equal, NaN equals nothing. -/
def eq (a b : Binary64) : Bool := compareWith (fun p q => decide (p = q)) a b

def isFinite : Binary64 → Bool
  | .finite _ => true
  | _ => false

/-- Whether the value is a whole number.  Infinities and NaN are not. -/
def isIntegral : Binary64 → Bool
  | .finite x => x.isIntegral
  | _ => false

end Binary64
end Amend
