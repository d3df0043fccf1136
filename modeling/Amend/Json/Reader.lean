/-
Reading JSON text.  The grammar is that of RFC 8259: no comments, no trailing commas, escapes
that denote characters, and at most 127 containers inside one another.

A text can also be read for its form alone, which is what happens to a part nobody asks for:
its numbers may be out of range, its escapes may be half of a pair, and its depth is free.
-/
import Amend.Json.Value

namespace Amend
namespace Json

def isBlank (c : Char) : Bool := c == ' ' || c == '\n' || c == '\t' || c == '\r'

def skipBlank (cs : List Char) : List Char := cs.dropWhile isBlank

/-- A decimal literal in its parts: the digits before the point, those after it if there is a
point, and the exponent if there is one. -/
structure Literal where
  neg : Bool
  whole : List Char
  fraction : Option (List Char)
  exponent : Option Int

namespace Literal

def digitValue (c : Char) : Nat := c.toNat - '0'.toNat

/-- Appends digits to a number while it fits in 64 bits, and gives the digits that are left. -/
def absorb : List Char → Nat → Nat × List Char
  | [], n => (n, [])
  | c :: cs, n =>
    let m := n * 10 + digitValue c
    if m < 0x10000000000000000 then absorb cs m else (n, c :: cs)

/-- A double times a power of ten.  Powers up to the 308th are doubles, and a greater one is
either too large for any digits or divided out in steps.  A result beyond the doubles is
refused. -/
def scale (x : Binary64) (exp : Int) : Option Binary64 :=
  if 308 < exp then if x.eq .zero then some x else none
  else if 0 ≤ exp then
    let y := x.mul (.ofInt (Nat.pow 10 exp.toNat))
    if y.isFinite then some y else none
  else if -308 ≤ exp then some (x.div (.ofInt (Nat.pow 10 (-exp).toNat)))
  else if x.eq .zero then some x
  else scale (x.div (.ofInt (Nat.pow 10 308))) (exp + 308)
termination_by (-exp).toNat

/-- A float with a sign. -/
def signedFloat (neg : Bool) : Binary64 → Option Number
  | .finite x => some (.float (if neg then x.negate else x))
  | _ => none

/-- The number a literal stands for.  Without point and exponent it is an integer when it fits
in 64 bits and is not a negative zero.  Otherwise it is the double of the leading digits that
fit in 64 bits, times a power of ten. -/
def value (l : Literal) : Option Number :=
  let (lead, left) := absorb l.whole 0
  if l.fraction.isNone && l.exponent.isNone && left.isEmpty then
    if !l.neg then some (.int lead)
    else if lead ≠ 0 ∧ lead ≤ 0x8000000000000000 then some (.int (-lead))
    else signedFloat true (.ofInt lead)
  else
    let fraction := l.fraction.getD []
    let (digits, unused) := absorb fraction lead
    let exp := (left.length : Int) - (fraction.length - unused.length) + l.exponent.getD 0
    (scale (.ofInt digits) exp).bind (signedFloat l.neg)

/-- Reads a sign, digits without a leading zero, a fraction and an exponent. -/
def read (cs : List Char) : Option (Literal × List Char) :=
  let (neg, cs) := match cs with
    | '-' :: rest => (true, rest)
    | cs => (false, cs)
  let (whole, cs) := cs.span Char.isDigit
  if whole.isEmpty || (whole.head? == some '0' && whole.length ≠ 1) then none
  else
    match readFraction cs with
    | none => none
    | some (fraction, cs) =>
      match readExponent cs with
      | none => none
      | some (exponent, cs) => some (⟨neg, whole, fraction, exponent⟩, cs)
where
  readFraction : List Char → Option (Option (List Char) × List Char)
    | '.' :: cs =>
      let (digits, cs) := cs.span Char.isDigit
      if digits.isEmpty then none else some (some digits, cs)
    | cs => some (none, cs)
  readExponent (cs : List Char) : Option (Option Int × List Char) :=
    match cs with
    | c :: rest =>
      if c = 'e' ∨ c = 'E' then
        let (neg, rest) := match rest with
          | '-' :: rest => (true, rest)
          | '+' :: rest => (false, rest)
          | rest => (false, rest)
        let (digits, rest) := rest.span Char.isDigit
        if digits.isEmpty then none
        else
          let e : Int := digits.foldl (fun n c => n * 10 + digitValue c) 0
          some (some (if neg then -e else e), rest)
      else some (none, cs)
    | [] => some (none, [])

end Literal

def hexValue (c : Char) : Option Nat :=
  if '0' ≤ c ∧ c ≤ '9' then some (c.toNat - '0'.toNat)
  else if 'a' ≤ c ∧ c ≤ 'f' then some (c.toNat - 'a'.toNat + 10)
  else if 'A' ≤ c ∧ c ≤ 'F' then some (c.toNat - 'A'.toNat + 10)
  else none

/-- The number of four hexadecimal digits. -/
def hexUnit (a b c d : Char) : Option Nat :=
  match hexValue a, hexValue b, hexValue c, hexValue d with
  | some a, some b, some c, some d => some (((a * 16 + b) * 16 + c) * 16 + d)
  | _, _, _, _ => none

/-- The character of a one-letter escape. -/
def letterEscape (c : Char) : Option Char :=
  match c with
  | '"' => some '"'
  | '\\' => some '\\'
  | '/' => some '/'
  | 'b' => some (Char.ofNat 8)
  | 'f' => some (Char.ofNat 12)
  | 'n' => some '\n'
  | 'r' => some '\r'
  | 't' => some '\t'
  | _ => none

def isHighSurrogate (u : Nat) : Bool := decide (0xD800 ≤ u ∧ u ≤ 0xDBFF)

def isLowSurrogate (u : Nat) : Bool := decide (0xDC00 ≤ u ∧ u ≤ 0xDFFF)

/-- Reads a string literal after its opening quote; `acc` holds the characters so far in
reverse.  With `form` the escapes need not denote characters. -/
def readString (form : Bool) (acc : List Char) : List Char → Option (List Char × List Char)
  | [] => none
  | '"' :: rest => some (acc.reverse, rest)
  | '\\' :: 'u' :: a :: b :: c :: d :: rest =>
    match hexUnit a b c d with
    | none => none
    | some u =>
      if form then readString form ('?' :: acc) rest
      else if isLowSurrogate u then none
      else if isHighSurrogate u then
        match rest with
        | '\\' :: 'u' :: e :: f :: g :: h :: rest =>
          match hexUnit e f g h with
          | none => none
          | some v =>
            if isLowSurrogate v then
              readString form
                (Char.ofNat (0x10000 + (u - 0xD800) * 0x400 + (v - 0xDC00)) :: acc) rest
            else none
        | _ => none
      else readString form (Char.ofNat u :: acc) rest
  | '\\' :: c :: rest =>
    match letterEscape c with
    | none => none
    | some c => readString form (c :: acc) rest
  | c :: rest => if c.toNat < 32 ∨ c = '\\' then none else readString form (c :: acc) rest

mutual

/-- Reads a value.  `depth` is the number of containers that may still be opened. -/
def readValue (form : Bool) : Nat → Nat → List Char → Option (Value × List Char)
  | 0, _, _ => none
  | fuel + 1, depth, cs =>
    match skipBlank cs with
    | 'n' :: 'u' :: 'l' :: 'l' :: rest => some (.null, rest)
    | 't' :: 'r' :: 'u' :: 'e' :: rest => some (.bool true, rest)
    | 'f' :: 'a' :: 'l' :: 's' :: 'e' :: rest => some (.bool false, rest)
    | '"' :: rest => (readString form [] rest).map fun (s, rest) => (.str (String.ofList s), rest)
    | '[' :: rest =>
      if depth = 0 ∧ !form then none
      else match skipBlank rest with
        | ']' :: rest => some (.arr [], rest)
        | rest =>
          (readItems form fuel (depth - 1) [] rest).map fun (items, rest) => (.arr items, rest)
    | '\x7b' :: rest =>
      if depth = 0 ∧ !form then none
      else (readMembers (fun _ => form) fuel (depth - 1) rest).map fun (members, rest) =>
        (.obj (Members.ofList members), rest)
    | cs =>
      (Literal.read cs).bind fun (literal, rest) =>
        if form then some (.null, rest) else literal.value.map fun n => (.num n, rest)
termination_by structural fuel => fuel

/-- Reads the items of an array up to its closing bracket. -/
def readItems (form : Bool) :
    Nat → Nat → List Value → List Char → Option (List Value × List Char)
  | 0, _, _, _ => none
  | fuel + 1, depth, acc, cs =>
    match readValue form fuel depth cs with
    | none => none
    | some (v, rest) =>
      match skipBlank rest with
      | ',' :: rest => readItems form fuel depth (v :: acc) rest
      | ']' :: rest => some ((v :: acc).reverse, rest)
      | _ => none
termination_by structural fuel => fuel

/-- Reads the members of an object after its opening brace, repeated names included.  `form`
says for which names only the form of the value is checked. -/
def readMembers (form : String → Bool) :
    Nat → Nat → List Char → Option (List (String × Value) × List Char)
  | 0, _, _ => none
  | fuel + 1, depth, cs =>
    match skipBlank cs with
    | '\x7d' :: rest => some ([], rest)
    | cs => readMoreMembers form fuel depth [] cs
termination_by structural fuel => fuel

/-- Reads at least one member, up to the closing brace. -/
def readMoreMembers (form : String → Bool) :
    Nat → Nat → List (String × Value) → List Char → Option (List (String × Value) × List Char)
  | 0, _, _, _ => none
  | fuel + 1, depth, acc, cs =>
    match skipBlank cs with
    | '"' :: rest =>
      match readString false [] rest with
      | none => none
      | some (key, rest) =>
        match skipBlank rest with
        | ':' :: rest =>
          match readValue (form (String.ofList key)) fuel depth rest with
          | none => none
          | some (v, rest) =>
            match skipBlank rest with
            | ',' :: rest => readMoreMembers form fuel depth ((String.ofList key, v) :: acc) rest
            | '\x7d' :: rest => some (((String.ofList key, v) :: acc).reverse, rest)
            | _ => none
        | _ => none
    | _ => none
termination_by structural fuel => fuel

end

/-- The number of containers that may be inside one another. -/
def maxNesting : Nat := 127

/-- Enough steps for any text of this length: each character takes at most three. -/
def stepsFor (cs : List Char) : Nat := 3 * cs.length + 3

/-- The value of a text that holds nothing else. -/
def parse? (text : String) : Option Value :=
  let cs := text.toList
  match readValue false (stepsFor cs) maxNesting cs with
  | some (v, rest) => if (skipBlank rest).isEmpty then some v else none
  | none => none

/-- The members of a text that holds one object, repeated names included.  The values of the
names that `form` picks are checked for their form alone. -/
def parseMembers? (form : String → Bool) (text : String) : Option (List (String × Value)) :=
  let cs := text.toList
  match skipBlank cs with
  | '\x7b' :: rest =>
    match readMembers form (stepsFor cs) (maxNesting - 1) rest with
    | some (members, rest) => if (skipBlank rest).isEmpty then some members else none
    | none => none
  | _ => none

end Json
end Amend
