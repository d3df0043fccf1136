/-
Numeric operators.  Operators with two operands take a missing or null value for zero; the
others need a stored number.  Two signed integers are computed exactly while the result stays
in their range, and everything else goes through doubles.
-/
import Amend.Decimal
import Amend.Binary64.Arithmetic
import Amend.Json.Value
import Amend.Error
import Amend.Operator.Basic
import Amend.Random

namespace Amend
namespace Operator
namespace Numeric

/-- The number of a double, which must have one. -/
def ofResult (x : Binary64) : Except Fault Value :=
  match Number.ofBinary64? x with
  | some n => .ok (.num n)
  | none => .error (.notFinite (Decimal.plain x))

/-- An operand that has to be a number. -/
def operandNumber : Value → Except Fault Number
  | .num n => .ok n
  | other => .error (.operand other.kind "number")

/-- The stored number of an operator with two operands. -/
def storedOrZero : Option Value → Except Fault Number
  | none => .ok (.int 0)
  | some .null => .ok (.int 0)
  | some (.num n) => .ok n
  | some other => .error (.stored other.kind "number")

/-- The stored number of an operator that has to find one. -/
def storedNumber : Option Value → Except Fault Number
  | none => .error .noNumber
  | some .null => .error .noNumber
  | some (.num n) => .ok n
  | some other => .error (.stored other.kind "number")

/-- An exact result, if it is in the signed range. -/
def signed? (n : Int) : Option Int :=
  if Number.minSigned ≤ n ∧ n ≤ Number.maxSigned then some n else none

/-- Combines the stored number with the operand: by `exact` when both are signed integers and
it gives a result, by `approx` on doubles otherwise. -/
def combine (exact : Int → Int → Option Int)
    (approx : Binary64 → Binary64 → Except Fault Binary64)
    (stored : Option Value) (operand : Value) : Except Fault Value := do
  let b ← operandNumber operand
  let a ← storedOrZero stored
  let viaDoubles := fun (_ : Unit) => approx a.toBinary64 b.toBinary64 >>= ofResult
  match a.toSigned?, b.toSigned? with
  | some m, some n =>
    match exact m n with
    | some r => .ok (.int r)
    | none => viaDoubles ()
  | _, _ => viaDoubles ()

def noExact (_ _ : Int) : Option Int := none

/-- A quotient of doubles whose divisor must not be zero. -/
def guarded (fault : Fault) (op : Binary64 → Binary64 → Binary64) (a b : Binary64) :
    Except Fault Binary64 :=
  if b.eq .zero then .error fault else .ok (op a b)

/-- The remainder of integers, with the sign of the dividend.  The one quotient outside the
signed range has no exact remainder. -/
def exactRem (a b : Int) : Option Int :=
  if b = 0 then none
  else if a = Number.minSigned ∧ b = -1 then none
  else some (a.tmod b)

/-- Keeps the stored number where `keeps stored operand`, and adopts the operand where not or
where nothing is stored. -/
def extremum (keeps : Binary64 → Binary64 → Bool) (stored : Option Value) (operand : Value) :
    Except Fault Value := do
  let b ← operandNumber operand
  match stored with
  | none => .ok operand
  | some .null => .ok operand
  | some (.num a) => .ok (.num (if keeps a.toBinary64 b.toBinary64 then a else b))
  | some other => .error (.stored other.kind "number")

/-- Changes the stored number. -/
def change (op : Binary64 → Binary64) (stored : Option Value) : Except Fault Value := do
  let a ← storedNumber stored
  ofResult (op a.toBinary64)

def maxRoundDigits : Int := 15

def maxFormatDigits : Int := 100

/-- The decimals that `$round` keeps: a small integer operand, or none. -/
def roundDigits (operand : Value) : Nat :=
  match operand.toSigned? with
  | some d => if 0 ≤ d ∧ d ≤ maxRoundDigits then d.toNat else 0
  | none => 0

/-- The nearest multiple of a power of ten, a half going away from zero. -/
def roundTo (digits : Nat) (x : Binary64) : Binary64 :=
  let scale := Binary64.ofInt (Nat.pow 10 digits)
  (x.mul scale).nearest.div scale

/-- The digit count of a formatting operator. -/
def formatDigits (operand : Value) (least : Int) : Except Fault Nat :=
  match operand.toBinary64? with
  | none => .error (.operand operand.kind "integer digit count")
  | some x =>
    if !x.isIntegral then .error (.operand operand.kind "integer digit count")
    else
      let digits := x.toInt64
      if digits < least ∨ maxFormatDigits < digits then
        .error (.digitCount digits least maxFormatDigits)
      else .ok digits.toNat

/-- Writes the stored number as text with a digit count. -/
def formatted (write : Binary64 → Nat → String) (least : Int) (stored : Option Value)
    (operand : Value) : Except Fault Value := do
  let a ← storedNumber stored
  let digits ← formatDigits operand least
  .ok (.str (write a.toBinary64 digits))

/-- The value a numeric operator stores. -/
def transform (op : Numeric) (stream : Random.Stream) (stored : Option Value) (operand : Value) :
    Except Fault Value :=
  match op with
  | .inc => combine (fun a b => signed? (a + b)) (fun a b => .ok (a.add b)) stored operand
  | .dec => combine (fun a b => signed? (a - b)) (fun a b => .ok (a.sub b)) stored operand
  | .mul => combine (fun a b => signed? (a * b)) (fun a b => .ok (a.mul b)) stored operand
  | .div => combine noExact (guarded .divisionByZero Binary64.div) stored operand
  | .mod => combine exactRem (guarded .moduloByZero Binary64.rem) stored operand
  | .pow => combine noExact (fun a b => .ok (a.pow b)) stored operand
  | .min => extremum (fun a b => a.le b) stored operand
  | .max => extremum (fun a b => b.le a) stored operand
  | .sqrt => change Binary64.sqrt stored
  | .floor => change Binary64.floor stored
  | .ceil => change Binary64.ceil stored
  | .abs => change Binary64.abs stored
  | .trunc => change Binary64.trunc stored
  | .round => change (roundTo (roundDigits operand)) stored
  | .random => ofResult stream.head
  | .toFixed => formatted Decimal.toFixed 0 stored operand
  | .toExponential => formatted Decimal.toExponential 0 stored operand
  | .toPrecision => formatted Decimal.toPrecision 1 stored operand

end Numeric
end Operator
end Amend
