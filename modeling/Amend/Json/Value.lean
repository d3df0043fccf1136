/-
JSON values and their compact text.  A number keeps the sort it was written in: `1` is an integer
and `1.0` a float, and the two have the same magnitude.  The members of an object are in the order
in which their names first came.
-/
import Amend.Binary64.Arithmetic
import Amend.Decimal

namespace Amend

/-! ## Numbers -/

/-- A JSON number.  Integers come from the signed and the unsigned 64-bit range. -/
inductive Number where
  | int (n : Int)
  | float (x : Binary64.Finite)
deriving DecidableEq

namespace Number

def minSigned : Int := -0x8000000000000000
def maxSigned : Int := 0x7FFFFFFFFFFFFFFF
def maxUnsigned : Int := 0xFFFFFFFFFFFFFFFF

/-- The double nearest to the number. -/
def toBinary64 : Number → Binary64
  | .int n => .ofInt n
  | .float x => .finite x

/-- The number as a signed 64-bit integer, if it is one. -/
def toSigned? : Number → Option Int
  | .int n => if minSigned ≤ n ∧ n ≤ maxSigned then some n else none
  | .float _ => none

/-- The number as an unsigned 64-bit integer, if it is one. -/
def toUnsigned? : Number → Option Nat
  | .int n => if 0 ≤ n ∧ n ≤ maxUnsigned then some n.toNat else none
  | .float _ => none

/-- The number that stands for a double: an integer when the value is one in the signed range,
a float otherwise.  NaN and the infinities have no number. -/
def ofBinary64? : Binary64 → Option Number
  | .finite x =>
    if x.isIntegral && decide (minSigned ≤ x.toInt) && decide (x.toInt ≤ maxSigned) then
      some (.int x.toInt)
    else some (.float x)
  | _ => none

/-- The name of the sort. -/
def kind : Number → String
  | .int _ => "int"
  | .float _ => "float"

/-- A float as JSON text.  Exponents from -5 to 15 are written positionally, always with a
fraction; the others with a signed exponent and no needless fraction. -/
def floatText (x : Binary64.Finite) : List Char :=
  let d := Decimal.shortest x
  let e := d.leading
  if -5 ≤ e ∧ e ≤ 15 then
    let (whole, fraction) := Decimal.positional d.digits e
    whole ++ '.' :: (if fraction.isEmpty then ['0'] else fraction)
  else
    Decimal.joinPoint (d.digits.take 1, d.digits.drop 1) ++ 'e' :: Decimal.signedExponent e

/-- The JSON text of a number. -/
def text : Number → String
  | .int n => toString n
  | .float x => Decimal.signed x.neg (floatText x)

end Number

/-! ## Members -/

/-- Named values in order.  Objects have each name once, which `Members.set` preserves. -/
abbrev Members (α : Type) := List (String × α)

namespace Members

variable {α β : Type}

def get? : Members α → String → Option α
  | [], _ => none
  | (k, v) :: rest, key => if k = key then some v else get? rest key

/-- Replaces the value in place, or adds the member at the end. -/
def set : Members α → String → α → Members α
  | [], key, value => [(key, value)]
  | (k, v) :: rest, key, value =>
    if k = key then (k, value) :: rest else (k, v) :: set rest key value

/-- Removes a member; the others keep their order. -/
def erase (ms : Members α) (key : String) : Members α := ms.filter fun m => m.1 ≠ key

def contains (ms : Members α) (key : String) : Bool := (ms.get? key).isSome

def keys (ms : Members α) : List String := ms.map Prod.fst

/-- Members from a list in which a repeated name keeps its first place and its last value. -/
def ofList (ms : List (String × α)) : Members α :=
  ms.foldl (fun acc m => acc.set m.1 m.2) []

/-- No name comes twice. -/
def Distinct (ms : Members α) : Prop := ms.keys.Nodup

@[simp] theorem get?_nil (key : String) : get? ([] : Members α) key = none := rfl

@[simp] theorem get?_cons_self (key : String) (v : α) (ms : Members α) :
    get? ((key, v) :: ms) key = some v := by simp [get?]

theorem get?_set_self (ms : Members α) (key : String) (v : α) :
    (ms.set key v).get? key = some v := by
  induction ms with
  | nil => simp [set]
  | cons m rest ih =>
    obtain ⟨k, w⟩ := m
    by_cases h : k = key
    · simp [set, h]
    · simp [set, get?, h, ih]

theorem get?_set_of_ne (ms : Members α) {key other : String} (v : α) (h : key ≠ other) :
    (ms.set key v).get? other = ms.get? other := by
  induction ms with
  | nil => simp [set, get?, h]
  | cons m rest ih =>
    obtain ⟨k, w⟩ := m
    by_cases hk : k = key
    · subst hk
      simp [set, get?, h]
    · simp [set, get?, hk, ih]

end Members

/-! ## Values -/

inductive Value where
  | null
  | bool (b : Bool)
  | num (n : Number)
  | str (s : String)
  | arr (items : List Value)
  | obj (members : List (String × Value))

/-- The fields of one stored object. -/
abbrev Record := Members Value

namespace Value

instance : Inhabited Value := ⟨.null⟩

/-- An integer value. -/
def int (n : Int) : Value := .num (.int n)

/-- The name of the kind, with the two sorts of numbers apart. -/
def kind : Value → String
  | .null => "null"
  | .bool _ => "bool"
  | .num n => n.kind
  | .str _ => "string"
  | .arr _ => "array"
  | .obj _ => "object"

/-- The place of the kind among values of different kinds. -/
def rank : Value → Nat
  | .null => 0
  | .bool _ => 1
  | .num _ => 2
  | .str _ => 3
  | .arr _ => 4
  | .obj _ => 5

def isNull : Value → Bool
  | .null => true
  | _ => false

/-- Null, false, zero and the empty string are not truthy. -/
def isTruthy : Value → Bool
  | .null => false
  | .bool b => b
  | .num n => !n.toBinary64.eq .zero
  | .str s => s ≠ ""
  | .arr _ => true
  | .obj _ => true

/-- The double nearest to a number. -/
def toBinary64? : Value → Option Binary64
  | .num n => some n.toBinary64
  | _ => none

/-- A signed 64-bit integer. -/
def toSigned? : Value → Option Int
  | .num n => n.toSigned?
  | _ => none

/-- An unsigned 64-bit integer. -/
def toUnsigned? : Value → Option Nat
  | .num n => n.toUnsigned?
  | _ => none

def toString? : Value → Option String
  | .str s => some s
  | _ => none

/-- A member of an object; other values have none. -/
def member? : Value → String → Option Value
  | .obj members, key => Members.get? members key
  | _, _ => none

end Value

/-! ## Text -/

namespace Json

/-- The lowercase hexadecimal digit for a number below sixteen. -/
def hexDigit (n : Nat) : Char := Nat.digitChar n

/-- The four-digit escape of a code point below `2 ^ 16`. -/
def unicodeEscape (c : Char) : List Char :=
  let n := c.toNat
  ['\\', 'u', hexDigit (n / 4096 % 16), hexDigit (n / 256 % 16), hexDigit (n / 16 % 16),
    hexDigit (n % 16)]

/-- A character inside a string literal.  Quotes, backslashes and the control characters below
the space are escaped, by a letter where there is one. -/
def escapeChar (c : Char) : List Char :=
  if c = '"' then ['\\', '"']
  else if c = '\\' then ['\\', '\\']
  else if c = '\n' then ['\\', 'n']
  else if c = '\r' then ['\\', 'r']
  else if c = '\t' then ['\\', 't']
  else if c.toNat = 8 then ['\\', 'b']
  else if c.toNat = 12 then ['\\', 'f']
  else if c.toNat < 32 then unicodeEscape c
  else [c]

/-- A string literal. -/
def quote (s : String) : String :=
  "\"" ++ String.ofList (s.toList.flatMap escapeChar) ++ "\""

end Json

namespace Value

mutual

/-- The compact JSON text of a value. -/
def text : Value → String
  | .null => "null"
  | .bool b => if b then "true" else "false"
  | .num n => n.text
  | .str s => Json.quote s
  | .arr items => "[" ++ String.intercalate "," (itemTexts items) ++ "]"
  | .obj members => "\x7b" ++ String.intercalate "," (memberTexts members) ++ "\x7d"

def itemTexts : List Value → List String
  | [] => []
  | v :: rest => text v :: itemTexts rest

def memberTexts : List (String × Value) → List String
  | [] => []
  | (key, v) :: rest => (Json.quote key ++ ":" ++ text v) :: memberTexts rest

end

end Value
end Amend
