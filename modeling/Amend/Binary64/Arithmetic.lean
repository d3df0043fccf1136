/-
Arithmetic on doubles.  Each operation is the exact result rounded once; the rounding functions
and the remainder are exact.  Powers and logarithms are the machine's, which takes and gives
doubles as 64-bit words.
-/
import Amend.Binary64.Basic

namespace Amend
namespace Binary64

def negate : Binary64 → Binary64
  | .finite x => .finite x.negate
  | .infinite neg => .infinite (!neg)
  | .nan => .nan

def abs : Binary64 → Binary64
  | .finite x => .finite x.abs
  | .infinite _ => .infinite false
  | .nan => .nan

/-- A sum of zero is negative only when both terms are. -/
def add : Binary64 → Binary64 → Binary64
  | .nan, _ | _, .nan => .nan
  | .infinite a, .infinite b => if a = b then .infinite a else .nan
  | .infinite a, .finite _ => .infinite a
  | .finite _, .infinite b => .infinite b
  | .finite x, .finite y =>
    let sum := x.units + y.units
    if sum = 0 then round (x.neg && y.neg) 0 1
    else round (decide (sum < 0)) sum.natAbs 1

def sub (a b : Binary64) : Binary64 := add a b.negate

def mul : Binary64 → Binary64 → Binary64
  | .nan, _ | _, .nan => .nan
  | .infinite a, .infinite b => .infinite (a != b)
  | .infinite a, .finite y => if y.isZero then .nan else .infinite (a != y.neg)
  | .finite x, .infinite b => if x.isZero then .nan else .infinite (x.neg != b)
  | .finite x, .finite y => round (x.neg != y.neg) (x.magnitude * y.magnitude) one

def div : Binary64 → Binary64 → Binary64
  | .nan, _ | _, .nan => .nan
  | .infinite _, .infinite _ => .nan
  | .infinite a, .finite y => .infinite (a != y.neg)
  | .finite x, .infinite b => round (x.neg != b) 0 1
  | .finite x, .finite y =>
    if y.isZero then if x.isZero then .nan else .infinite (x.neg != y.neg)
    else round (x.neg != y.neg) (x.magnitude * one) y.magnitude

/-- The remainder of a division cut off toward zero; it has the sign of the dividend. -/
def rem : Binary64 → Binary64 → Binary64
  | .nan, _ | _, .nan => .nan
  | .infinite _, _ => .nan
  | .finite x, .infinite _ => .finite x
  | .finite x, .finite y =>
    if y.isZero then .nan else round x.neg (x.magnitude % y.magnitude) 1

/-- Rounds the magnitude of a finite double to a whole number of ones. -/
def integralBy (whole : Finite → Nat) : Binary64 → Binary64
  | .finite x => ofRatio x.neg (whole x) 1
  | x => x

def floor : Binary64 → Binary64 :=
  integralBy fun x =>
    if x.neg then (x.magnitude + (one - 1)) / one else x.magnitude / one

def ceil : Binary64 → Binary64 :=
  integralBy fun x =>
    if x.neg then x.magnitude / one else (x.magnitude + (one - 1)) / one

def trunc : Binary64 → Binary64 := integralBy fun x => x.magnitude / one

/-- The nearest whole number, a half going away from zero. -/
def nearest : Binary64 → Binary64 := integralBy fun x => (2 * x.magnitude + one) / (2 * one)

/-- The integer square root by Newton's iteration from above. -/
def isqrtFrom (n : Nat) (guess : Nat) : Nat :=
  let next := (guess + n / guess) / 2
  if next < guess then isqrtFrom n next else guess
termination_by guess

def isqrt (n : Nat) : Nat := if n = 0 then 0 else isqrtFrom n (Nat.pow 2 (n.log2 / 2 + 1))

/-- The square root.  A root that is not an integer number of units lies strictly between two
of them, and their midpoint rounds the same way. -/
def sqrt : Binary64 → Binary64
  | .finite x =>
    if x.isZero then .finite x
    else if x.neg then .nan
    else
      let n := x.magnitude * one
      let r := isqrt n
      if r * r = n then round false r 1 else round false (2 * r + 1) 2
  | .infinite false => .infinite false
  | _ => .nan

/-- The value cut off toward zero and held within the signed 64-bit range. -/
def toInt64 : Binary64 → Int
  | .finite x => max (-0x8000000000000000) (min 0x7FFFFFFFFFFFFFFF x.toInt)
  | .infinite false => 0x7FFFFFFFFFFFFFFF
  | .infinite true => -0x8000000000000000
  | .nan => 0

/-! ## The functions of the machine -/

/-- The sign bit, then eleven exponent bits, then the significand without its leading one. -/
def toBits : Binary64 → UInt64
  | .finite x =>
    let magnitude :=
      if x.mant < 0x10000000000000 then x.mant else x.shift * 0x10000000000000 + x.mant
    UInt64.ofNat (if x.neg then 0x8000000000000000 + magnitude else magnitude)
  | .infinite false => 0x7FF0000000000000
  | .infinite true => 0xFFF0000000000000
  | .nan => 0x7FF8000000000000

def ofBits (word : UInt64) : Binary64 :=
  let n := word.toNat
  let neg := decide (0x8000000000000000 ≤ n)
  let exponent := n / 0x10000000000000 % 2048
  let fraction := n % 0x10000000000000
  if exponent = 2047 then if fraction = 0 then .infinite neg else .nan
  else if exponent = 0 then ofParts neg fraction 0
  else ofParts neg (0x10000000000000 + fraction) (exponent - 1)

def toFloat (x : Binary64) : Float := Float.ofBits x.toBits

def ofFloat (x : Float) : Binary64 := ofBits x.toBits

/-- The power function, as the machine computes it. -/
def pow (a b : Binary64) : Binary64 := ofFloat (Float.pow a.toFloat b.toFloat)

/-- The natural logarithm, as the machine computes it. -/
def log (x : Binary64) : Binary64 := ofFloat (Float.log x.toFloat)

end Binary64
end Amend
