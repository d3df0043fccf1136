/-
Rules for the operands of one field.  A rule normalizes an operand, checks it, or combines other
rules.  Rules are kept in a fixed order of evaluation, by rank, whatever order they came in.
-/
import Amend.Json.Value
import Amend.Pattern.Basic

namespace Amend

inductive AngleUnit where
  | degrees
  | radians
deriving DecidableEq

namespace AngleUnit

def name : AngleUnit → String
  | .degrees => "degrees"
  | .radians => "radians"

/-- A full turn, in radians the double nearest to it. -/
def fullTurn : AngleUnit → Binary64
  | .degrees => .ofInt 360
  | .radians => .ofRatio false 7074237752028440 0x4000000000000

end AngleUnit

/-- What a value is or is not, with nothing to choose. -/
inductive Trait where
  | positive
  | negative
  | integer
  | float
  | even
  | odd
  | prime
  | perfect
  | fibonacci
  | powerOfTwo
  | powerOfTen
  | finite
  | infinite
  | palindrome
  | harshad
  | epochTime
  | alphaNumeric
  | noWhitespace
  | onlySpecialChars
  | noSpecialChars
  | alpha
  | numeric
  | validEmail
  | validUrl
  | validIp
  | validIpv4
  | validIpv6
  | validCreditCard
  | mustBeTrue
  | mustBeFalse
deriving DecidableEq

namespace Trait

def name : Trait → String
  | .positive => "$positive"
  | .negative => "$negative"
  | .integer => "$integer"
  | .float => "$float"
  | .even => "$even"
  | .odd => "$odd"
  | .prime => "$prime"
  | .perfect => "$perfect"
  | .fibonacci => "$fibonacci"
  | .powerOfTwo => "$powerOfTwo"
  | .powerOfTen => "$powerOfTen"
  | .finite => "$finite"
  | .infinite => "$infinite"
  | .palindrome => "$palindrome"
  | .harshad => "$harshad"
  | .epochTime => "$epochTime"
  | .alphaNumeric => "$alphaNumeric"
  | .noWhitespace => "$noWhitespace"
  | .onlySpecialChars => "$onlySpecialChars"
  | .noSpecialChars => "$noSpecialChars"
  | .alpha => "$alpha"
  | .numeric => "$numeric"
  | .validEmail => "$validEmail"
  | .validUrl => "$validURL"
  | .validIp => "$validIP"
  | .validIpv4 => "$validIPv4"
  | .validIpv6 => "$validIPv6"
  | .validCreditCard => "$validCreditCard"
  | .mustBeTrue => "$mustBeTrue"
  | .mustBeFalse => "$mustBeFalse"

def rank : Trait → Nat
  | .positive => 16
  | .negative => 17
  | .integer => 18
  | .float => 19
  | .even => 20
  | .odd => 21
  | .prime => 22
  | .perfect => 23
  | .fibonacci => 24
  | .powerOfTwo => 25
  | .powerOfTen => 26
  | .finite => 28
  | .infinite => 29
  | .palindrome => 30
  | .harshad => 31
  | .epochTime => 32
  | .alphaNumeric => 43
  | .noWhitespace => 48
  | .onlySpecialChars => 49
  | .noSpecialChars => 50
  | .alpha => 51
  | .numeric => 52
  | .validEmail => 54
  | .validUrl => 55
  | .validIp => 56
  | .validIpv4 => 57
  | .validIpv6 => 58
  | .validCreditCard => 59
  | .mustBeTrue => 70
  | .mustBeFalse => 71

def all : List Trait :=
  [.positive, .negative, .integer, .float, .even, .odd, .prime, .perfect, .fibonacci,
    .powerOfTwo, .powerOfTen, .finite, .infinite, .palindrome, .harshad, .epochTime,
    .alphaNumeric, .noWhitespace, .onlySpecialChars, .noSpecialChars, .alpha, .numeric,
    .validEmail, .validUrl, .validIp, .validIpv4, .validIpv6, .validCreditCard, .mustBeTrue,
    .mustBeFalse]

def ofName? (name : String) : Option Trait := all.find? fun t => t.name = name

theorem mem_all (t : Trait) : t ∈ all := by cases t <;> decide

end Trait

/-- A check of one value that looks at nothing but the value. -/
inductive Check where
  | trait (t : Trait)
  | lessThan (bound : Binary64)
  | greaterThan (bound : Binary64)
  | lessThanOrEqual (bound : Binary64)
  | greaterThanOrEqual (bound : Binary64)
  | range (min max : Binary64)
  | multipleOf (divisor : Binary64)
  | powerOf (base : Binary64)
  | angle (unit : AngleUnit) (min max : Binary64)
  | exactLength (length : Nat)
  | minLength (length : Nat)
  | maxLength (length : Nat)
  | contains (part : String)
  | startsWith (part : String)
  | endsWith (part : String)
  | exclude (parts : List String)
  /-- A pattern with the text it was read from. -/
  | matching (text : String) (pattern : Pattern)
  /-- One of several values. -/
  | oneOf (allowed : List Value)
  /-- None of several values. -/
  | unique (taken : List Value)
  | custom (accepts : Value → Bool)

namespace Check

def name : Check → String
  | .trait t => t.name
  | .lessThan _ => "$lessThan"
  | .greaterThan _ => "$greaterThan"
  | .lessThanOrEqual _ => "$lessThanOrEqual"
  | .greaterThanOrEqual _ => "$greaterThanOrEqual"
  | .range .. => "$range"
  | .multipleOf _ => "$multipleOf"
  | .powerOf _ => "$powerOf"
  | .angle .. => "$angle"
  | .exactLength _ => "$exactLength"
  | .minLength _ => "$minLength"
  | .maxLength _ => "$maxLength"
  | .contains _ => "$contains"
  | .startsWith _ => "$startsWith"
  | .endsWith _ => "$endsWith"
  | .exclude _ => "$exclude"
  | .matching .. => "$match"
  | .oneOf _ => "$enum"
  | .unique _ => "$unique"
  | .custom _ => "$custom"

def rank : Check → Nat
  | .trait t => t.rank
  | .lessThan _ => 10
  | .greaterThan _ => 11
  | .lessThanOrEqual _ => 12
  | .greaterThanOrEqual _ => 13
  | .range .. => 14
  | .multipleOf _ => 15
  | .powerOf _ => 27
  | .angle .. => 33
  | .exactLength _ => 40
  | .minLength _ => 41
  | .maxLength _ => 42
  | .contains _ => 44
  | .startsWith _ => 45
  | .endsWith _ => 46
  | .exclude _ => 47
  | .matching .. => 53
  | .oneOf _ => 80
  | .unique _ => 81
  | .custom _ => 82

end Check

/-- A rule for an operand. -/
inductive Rule where
  /-- The value that stands in for an absent operand. -/
  | fallback (value : Value)
  /-- An operand must be there. -/
  | required
  /-- White space around a string is dropped. -/
  | trim
  | check (c : Check)
  /-- At least one of several lists of rules accepts the value. -/
  | anyOf (branches : List (List Rule))
  /-- A list of rules does not accept the value. -/
  | noneOf (inner : List Rule)

namespace Rule

/-- The keyword of the rule. -/
def name : Rule → String
  | .fallback _ => "$default"
  | .required => "$required"
  | .trim => "$trim"
  | .check c => c.name
  | .anyOf _ => "$logicalOr"
  | .noneOf _ => "$logicalNot"

/-- The place of the rule in the order of evaluation. -/
def rank : Rule → Nat
  | .fallback _ => 0
  | .required => 1
  | .trim => 2
  | .check c => c.rank
  | .anyOf _ => 83
  | .noneOf _ => 84

def trait (t : Trait) : Rule := .check (.trait t)

end Rule

/-- The rules of one field in the order of evaluation. -/
abbrev FieldRules := List Rule

namespace FieldRules

/-- Adds a rule behind all rules that do not come after it. -/
def push : FieldRules → Rule → FieldRules
  | [], rule => [rule]
  | r :: rest, rule => if r.rank ≤ rule.rank then r :: push rest rule else rule :: r :: rest

/-- The value for an absent operand, from the first rule that has one. -/
def fallback? : FieldRules → Option Value
  | [] => none
  | .fallback value :: _ => some value
  | _ :: rest => fallback? rest

def isRequired (rules : FieldRules) : Bool :=
  rules.any fun
    | .required => true
    | _ => false

end FieldRules

/-- The rules of each field. -/
abbrev RuleSet := Members FieldRules

end Amend
