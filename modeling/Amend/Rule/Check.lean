/-
What each check accepts.  A value of a kind that a check does not look at is rejected.  The checks
of powers take logarithms, which differ in the last place from one machine to the next, so the
logarithm is a parameter of the checks.
-/
import Amend.Binary64.Arithmetic
import Amend.Error
import Amend.Format
import Amend.Json.Order
import Amend.Json.Value
import Amend.Rule.Basic
import Amend.Rule.IntegerClass

namespace Amend
namespace Rule

def ensure (ok : Bool) (refusal : Refusal) : Except Refusal Unit :=
  if ok then .ok () else .error refusal

def number (value : Value) : Except Refusal Binary64 :=
  match value.toBinary64? with
  | some x => .ok x
  | none => .error (.expectedInstead "a number" value.kind)

/-- A signed 64-bit integer, or a float that is a whole number with a magnitude below
`2 ^ 63`. -/
def integer? : Value → Option Int
  | .num (.int n) => (Number.int n).toSigned?
  | .num (.float x) =>
    if x.isIntegral && decide (x.toInt.natAbs < 0x8000000000000000) then some x.toInt else none
  | _ => none

def integer (value : Value) : Except Refusal Int :=
  match integer? value with
  | some n => .ok n
  | none => .error (.expectedInstead "an integer" value.kind)

def text (value : Value) : Except Refusal (List Char) :=
  match value with
  | .str s => .ok s.toList
  | _ => .error (.expectedInstead "a string" value.kind)

/-- How far a quotient may be from a whole number. -/
def tolerance : Binary64 := .ofRatio false 1 1000000000

/-- Whether a double is a whole number up to the tolerance. -/
def isNearlyIntegral (x : Binary64) : Bool := (x.sub x.nearest).abs.lt tolerance

/-- Whether the logarithms of a number and a base have a nearly whole quotient. -/
def isPowerOf (ln : Binary64 → Binary64) (base n : Binary64) : Bool :=
  if n.le .zero || base.le .zero || base.eq (.ofInt 1) then false
  else isNearlyIntegral ((ln n).div (ln base))

/-- Characters that are neither letters, numbers nor white space. -/
def isSpecial (c : Char) : Bool := !Unicode.isAlphanumeric c && !Unicode.isWhiteSpace c

/-- Whether a text stands somewhere in another. -/
def occursIn (part : List Char) : List Char → Bool
  | [] => part.isEmpty
  | c :: cs => part.isPrefixOf (c :: cs) || occursIn part cs

/-- The text of a string or a number, read from both ends. -/
def isPalindrome (value : Value) : Except Refusal Bool :=
  match value with
  | .str s => .ok (s.toList == s.toList.reverse)
  | .num n => .ok (n.text.toList == n.text.toList.reverse)
  | _ => .error (.expectedInstead "a number or string" value.kind)

/-- A number of milliseconds or a text. -/
def isEpochTime : Value → Bool
  | .num n => (integer? (.num n)).any Format.Timestamp.isMilliseconds
  | .str s => Format.Timestamp.isText s
  | _ => false

def ofNumber (value : Value) (accepts : Binary64 → Bool) (what : String) :
    Except Refusal Unit := do
  ensure (accepts (← number value)) (.expected what)

def ofInteger (value : Value) (accepts : Int → Bool) (what : String) :
    Except Refusal Unit := do
  ensure (accepts (← integer value)) (.expected what)

def ofText (value : Value) (accepts : List Char → Bool) (refusal : Refusal) :
    Except Refusal Unit := do
  ensure (accepts (← text value)) refusal

/-- A string that has characters, all of one kind. -/
def ofChars (value : Value) (kind : Char → Bool) (what : String) : Except Refusal Unit :=
  ofText value (fun cs => !cs.isEmpty && cs.all kind) (.expected what)

/-- A string in a format. -/
def ofFormat (value : Value) (accepts : String → Bool) (what : String) : Except Refusal Unit :=
  ofText value (fun cs => accepts (String.ofList cs)) (.expected what)

def between (min max n : Binary64) : Bool := min.le n && n.le max

/-- A string whose number of characters is as asked for. -/
def ofLength (value : Value) (accepts : Nat → Bool) (what : String) : Except Refusal Unit := do
  let cs ← text value
  ensure (accepts cs.length) (.expectedInstead what (toString cs.length))

/-- Whether a value has a trait. -/
def checkTrait (ln : Binary64 → Binary64) (t : Trait) (value : Value) : Except Refusal Unit :=
  match t with
  | .positive => ofNumber value (fun n => Binary64.zero.lt n) "a positive number"
  | .negative => ofNumber value (fun n => n.lt .zero) "a negative number"
  | .integer => ofNumber value (fun n => n.isIntegral) "an integer"
  | .float => ofNumber value (fun n => !n.isIntegral) "a non-integral number"
  | .even => ofInteger value (fun n => n.tmod 2 == 0) "an even integer"
  | .odd => ofInteger value (fun n => n.tmod 2 != 0) "an odd integer"
  | .prime => ofInteger value IntegerClass.isPrime "a prime number"
  | .perfect => ofInteger value IntegerClass.isPerfect "a perfect number"
  | .fibonacci => ofInteger value IntegerClass.isFibonacci "a Fibonacci number"
  | .powerOfTwo => ofNumber value (isPowerOf ln (.ofInt 2)) "a power of 2"
  | .powerOfTen => ofNumber value (isPowerOf ln (.ofInt 10)) "a power of 10"
  | .finite => ofNumber value (fun n => n.isFinite) "a finite number"
  | .infinite => ofNumber value (fun n => !n.isFinite) "an infinite number"
  | .palindrome => do ensure (← isPalindrome value) (.expected "a palindrome")
  | .harshad => ofInteger value IntegerClass.isHarshad "a Harshad number"
  | .epochTime => ensure (isEpochTime value) (.expected "a valid timestamp")
  | .alphaNumeric => ofChars value Unicode.isAlphanumeric "only letters and digits"
  | .noWhitespace => ofText value (fun cs => !cs.any Unicode.isWhiteSpace) (.forbidden "whitespace")
  | .onlySpecialChars => ofChars value isSpecial "only special characters"
  | .noSpecialChars => ofText value (fun cs => !cs.any isSpecial) (.forbidden "special characters")
  | .alpha => ofChars value Unicode.isAlphabetic "only letters"
  | .numeric => ofChars value Char.isDigit "only digits"
  | .validEmail => ofFormat value Format.Locator.isEmail "an email address"
  | .validUrl => ofFormat value Format.Locator.isUrl "a URL"
  | .validIp => ofFormat value Format.Address.isAny "an IP address"
  | .validIpv4 => ofFormat value Format.Address.isV4 "an IPv4 address"
  | .validIpv6 => ofFormat value Format.Address.isV6 "an IPv6 address"
  | .validCreditCard => ofFormat value Format.CardNumber.isText "a credit card number"
  | .mustBeTrue => ensure (value matches .bool true) (.expected "true")
  | .mustBeFalse => ensure (value matches .bool false) (.expected "false")

/-- Whether a check accepts a value, and why not, by a given logarithm. -/
def evaluateWith (ln : Binary64 → Binary64) (c : Check) (value : Value) : Except Refusal Unit :=
  let shown := Decimal.plain
  match c with
  | .trait t => checkTrait ln t value
  | .lessThan bound => ofNumber value (fun n => n.lt bound) s!"value < {shown bound}"
  | .greaterThan bound => ofNumber value (fun n => bound.lt n) s!"value > {shown bound}"
  | .lessThanOrEqual bound => ofNumber value (fun n => n.le bound) s!"value <= {shown bound}"
  | .greaterThanOrEqual bound => ofNumber value (fun n => bound.le n) s!"value >= {shown bound}"
  | .range min max =>
    ofNumber value (between min max) s!"value in [{shown min}, {shown max}]"
  | .multipleOf divisor =>
    ofNumber value (fun n => isNearlyIntegral (n.div divisor)) s!"a multiple of {shown divisor}"
  | .powerOf base => ofNumber value (isPowerOf ln base) s!"a power of {shown base}"
  | .angle unit min max =>
    ofNumber value (between min max) s!"an angle in [{shown min}, {shown max}] {unit.name}"
  | .exactLength length => ofLength value (fun n => n == length) s!"length {length}"
  | .minLength length => ofLength value (fun n => decide (length ≤ n)) s!"length >= {length}"
  | .maxLength length => ofLength value (fun n => decide (n ≤ length)) s!"length <= {length}"
  | .contains part => ofText value (occursIn part.toList) (.expected s!"to contain '{part}'")
  | .startsWith part =>
    ofText value part.toList.isPrefixOf (.expected s!"to start with '{part}'")
  | .endsWith part => ofText value part.toList.isSuffixOf (.expected s!"to end with '{part}'")
  | .exclude parts => do
    let cs ← text value
    match parts.find? fun part => occursIn part.toList cs with
    | some found => .error (.forbidden s!"'{found}'")
    | none => .ok ()
  | .matching source pattern =>
    ofText value pattern.isMatch (.expected s!"to match /{source}/")
  | .oneOf allowed =>
    ensure (allowed.any fun v => v.equal value) (.expected s!"one of {(Value.arr allowed).text}")
  | .unique taken => ensure (!taken.any fun v => v.equal value) (.taken value.text)
  | .custom accepts => ensure (accepts value) .predicate

/-- Whether a check accepts a value, and why not, by the logarithm of the machine. -/
def evaluate (c : Check) (value : Value) : Except Refusal Unit := evaluateWith .log c value

end Rule
end Amend
