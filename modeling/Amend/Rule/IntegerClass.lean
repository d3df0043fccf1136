/-
Classes of signed 64-bit integers that rules ask for.
-/
import Amend.Json.Value

namespace Amend
namespace IntegerClass

/-- The bases of the primality test.  No composite number below `2 ^ 64` passes it for all. -/
def bases : List Nat := [2, 3, 5, 7, 11, 13, 17, 19, 23, 29, 31, 37]

/-- `result * base ^ exp % m` by repeated squaring, for an exponent of at most `fuel` bits. -/
def powModFrom (m : Nat) : Nat → Nat → Nat → Nat → Nat
  | 0, result, _, _ => result
  | fuel + 1, result, base, exp =>
    if exp = 0 then result
    else
      powModFrom m fuel (if exp % 2 = 1 then result * base % m else result) (base * base % m)
        (exp / 2)

/-- A power, reduced after every product. -/
def powMod (base exp m : Nat) : Nat := powModFrom m (exp.log2 + 1) 1 (base % m) exp

/-- The number of factors two, and what remains without them. -/
def splitTwos : Nat → Nat → Nat × Nat
  | 0, d => (0, d)
  | fuel + 1, d =>
    if d % 2 = 0 then
      let (s, odd) := splitTwos fuel (d / 2)
      (s + 1, odd)
    else (0, d)

/-- Whether one of the next `count` repeated squares of `x` is `n - 1`. -/
def squaresReach (n : Nat) : Nat → Nat → Bool
  | 0, _ => false
  | count + 1, x =>
    let y := x * x % n
    y == n - 1 || squaresReach n count y

/-- Whether a base does not show that an odd number is composite. -/
def passes (n base : Nat) : Bool :=
  let (s, d) := splitTwos (n - 1) (n - 1)
  let x := powMod base d n
  x == 1 || x == n - 1 || squaresReach n (s - 1) x

/-- The test with each base for a number that no base divides. -/
def isPrimeNat (n : Nat) : Bool :=
  match bases.find? fun p => n % p == 0 with
  | some p => n == p
  | none => bases.all (passes n)

def isPrime (n : Int) : Bool := decide (2 ≤ n) && isPrimeNat n.toNat

/-- All perfect numbers below `2 ^ 63`. -/
def perfectNumbers : List Int :=
  [6, 28, 496, 8128, 33550336, 8589869056, 137438691328, 2305843008139952128]

def isPerfect (n : Int) : Bool := perfectNumbers.contains n

/-- Whether a number is among the terms from `a` and `b` on, as long as the terms are signed
64-bit integers. -/
def fibonacciFrom (n : Int) : Nat → Int → Int → Bool
  | 0, a, _ => a == n
  | fuel + 1, a, b =>
    if a < n then
      if Number.maxSigned < a + b then false else fibonacciFrom n fuel b (a + b)
    else a == n

/-- The term after 92 steps is beyond `2 ^ 63`. -/
def isFibonacci (n : Int) : Bool := decide (0 ≤ n) && fibonacciFrom n 93 0 1

/-- The sum of the decimal digits. -/
def digitSum (n : Nat) : Nat :=
  (Nat.toDigits 10 n).foldl (fun sum c => sum + (c.toNat - '0'.toNat)) 0

/-- Whether a positive number is a multiple of the sum of its digits. -/
def isHarshad (n : Int) : Bool := decide (0 < n) && n.toNat % digitSum n.toNat == 0

end IntegerClass
end Amend
