/-
Rules as JSON: for each field an object with a member for each rule.  A rule without a parameter
is switched on by `true` and left out by `false`.  What makes a pattern of a text is a parameter of
the reader, since the rules stay the same with any engine for patterns.
-/
import Amend.Error
import Amend.Json.Value
import Amend.Pattern.Reader
import Amend.Rule.Basic

namespace Amend
namespace Rule

/-- The rules that have no parameter. -/
def flag? (name : String) : Option Rule :=
  if name = "$required" then some .required
  else if name = "$trim" then some .trim
  else (Trait.ofName? name).map .trait

def readFlag (rule : Rule) : Value → Except Fault (Option Rule)
  | .bool true => .ok (some rule)
  | .bool false => .ok none
  | _ => .error (.expected "true or false")

def readNumber (param : Value) : Except Fault Binary64 :=
  match param.toBinary64? with
  | some x => .ok x
  | none => .error (.expected "a number")

def readLength (param : Value) : Except Fault Nat :=
  match param.toUnsigned? with
  | some n => .ok n
  | none => .error (.expected "a non-negative integer")

def readString (param : Value) : Except Fault String :=
  match param with
  | .str s => .ok s
  | _ => .error (.expected "a string")

def readStrings : List Value → Except Fault (List String)
  | [] => .ok []
  | .str s :: rest => do .ok (s :: (← readStrings rest))
  | _ :: _ => .error (.expected "strings")

/-- A string, or an array of them. -/
def readStringOrStrings : Value → Except Fault (List String)
  | .str s => .ok [s]
  | .arr items => readStrings items
  | _ => .error (.expected "a string or an array of strings")

def readArray (param : Value) : Except Fault (List Value) :=
  match param with
  | .arr items => .ok items
  | _ => .error (.expected "an array")

def readObject (param : Value) : Except Fault (Members Value) :=
  match param with
  | .obj members => .ok members
  | _ => .error (.expected "an object")

/-- A member that has to be a number. -/
def readBound (members : Members Value) (name : String) : Except Fault Binary64 :=
  match (members.get? name).bind Value.toBinary64? with
  | some x => .ok x
  | none => .error (.notANumber name)

def readBounds (members : Members Value) : Except Fault (Binary64 × Binary64) := do
  let min ← readBound members "$min"
  let max ← readBound members "$max"
  .ok (min, max)

def readRange (param : Value) : Except Fault Check := do
  let (min, max) ← readBounds (← readObject param)
  if max.lt min then .error .crossedRange else .ok (.range min max)

def readDivisor (param : Value) : Except Fault Check := do
  let divisor ← readNumber param
  if divisor.eq .zero then .error .zeroDivisor else .ok (.multipleOf divisor)

def readBase (param : Value) : Except Fault Check := do
  let base ← readNumber param
  if base.le .zero || base.eq (.ofInt 1) then .error .badBase else .ok (.powerOf base)

/-- The unit of an angle.  One that is missing, or no string, means degrees. -/
def readUnit (members : Members Value) : Except Fault AngleUnit :=
  match members.get? "$unit" with
  | some (.str s) =>
    if s = "degrees" then .ok .degrees
    else if s = "radians" then .ok .radians
    else .error (.unknownUnit s)
  | _ => .ok .degrees

/-- The bounds of an angle, by name or as a pair; a full turn if there are none. -/
def readTurn (unit : AngleUnit) (members : Members Value) :
    Except Fault (Binary64 × Binary64) :=
  match members.get? "$range" with
  | none => .ok (.zero, unit.fullTurn)
  | some (.obj bounds) => readBounds bounds
  | some (.arr [first, last]) =>
    match first.toBinary64?, last.toBinary64? with
    | some min, some max => .ok (min, max)
    | _, _ => .error .boundsNotNumbers
  | some _ => .error .badRange

def readAngle (param : Value) : Except Fault Check := do
  let members ← readObject param
  let unit ← readUnit members
  let (min, max) ← readTurn unit members
  if max.lt min then .error .crossedAngle else .ok (.angle unit min max)

section

variable (build : String → Option Pattern)

def readPattern (param : Value) : Except Fault Check := do
  let text ← readString param
  match build text with
  | some pattern => .ok (.matching text pattern)
  | none => .error .badPattern

/-- The values that are taken: those of an array, or one. -/
def takenValues : Value → List Value
  | .arr items => items
  | value => [value]

/-- A check with a parameter. -/
def readCheck (name : String) (param : Value) : Except Fault Check :=
  match name with
  | "$lessThan" => do .ok (.lessThan (← readNumber param))
  | "$greaterThan" => do .ok (.greaterThan (← readNumber param))
  | "$lessThanOrEqual" => do .ok (.lessThanOrEqual (← readNumber param))
  | "$greaterThanOrEqual" => do .ok (.greaterThanOrEqual (← readNumber param))
  | "$range" => readRange param
  | "$multipleOf" => readDivisor param
  | "$powerOf" => readBase param
  | "$angle" => readAngle param
  | "$exactLength" => do .ok (.exactLength (← readLength param))
  | "$minLength" => do .ok (.minLength (← readLength param))
  | "$maxLength" => do .ok (.maxLength (← readLength param))
  | "$contains" => do .ok (.contains (← readString param))
  | "$startsWith" => do .ok (.startsWith (← readString param))
  | "$endsWith" => do .ok (.endsWith (← readString param))
  | "$exclude" => do .ok (.exclude (← readStringOrStrings param))
  | "$match" => readPattern build param
  | "$enum" => do .ok (.oneOf (← readArray param))
  | "$unique" => .ok (.unique (takenValues param))
  | "$custom" => .error .onlyInCode
  | _ => .error .unknown

/-- A rule that holds no other rules, unless it is switched off. -/
def readLeaf (name : String) (param : Value) : Except Fault (Option Rule) :=
  match flag? name with
  | some rule => readFlag rule param
  | none =>
    if name = "$default" then .ok (some (.fallback param))
    else do .ok (some (.check (← readCheck build name param)))

end

/-- Why some rules of a field are none: the keyword of the outermost one at fault that is read
by itself, and the cause. -/
structure Defect where
  rule : String
  fault : Fault
deriving DecidableEq

def named (rule : String) {α : Type} : Except Fault α → Except Defect α
  | .ok a => .ok a
  | .error fault => .error ⟨rule, fault⟩

/-- The keyword that stands for the whole of the rules. -/
def wholeName : String := "<rules>"

section

variable (build : String → Option Pattern)

mutual

/-- The rule of one member, unless it is switched off. -/
def ofMember (name : String) (param : Value) : Except Defect (Option Rule) :=
  if name = "$logicalOr" then
    match param with
    | .arr items => do
      match ← ofBranches items with
      | [] => .error ⟨name, .noBranch⟩
      | branches => .ok (some (.anyOf branches))
    | _ => .error ⟨name, .expected "an array"⟩
  else if name = "$logicalNot" then
    match param with
    | .obj members => do .ok (some (.noneOf (← ofMembers [] members)))
    | _ => .error ⟨wholeName, .notAnObject⟩
  else named name (readLeaf build name param)

/-- The rules of each branch. -/
def ofBranches : List Value → Except Defect (List FieldRules)
  | [] => .ok []
  | .obj members :: rest => do
    let branch ← ofMembers [] members
    let branches ← ofBranches rest
    .ok (branch :: branches)
  | _ :: _ => .error ⟨wholeName, .notAnObject⟩

/-- Adds the rules of all members in turn. -/
def ofMembers (rules : FieldRules) : List (String × Value) → Except Defect FieldRules
  | [] => .ok rules
  | (name, param) :: rest => do
    match ← ofMember name param with
    | some rule => ofMembers (rules.push rule) rest
    | none => ofMembers rules rest

end

end
end Rule

namespace FieldRules

/-- The rules of one field, with patterns as `build` makes them. -/
def ofJsonWith (build : String → Option Pattern) : Value → Except Rule.Defect FieldRules
  | .obj members => Rule.ofMembers build [] members
  | _ => .error ⟨Rule.wholeName, .notAnObject⟩

end FieldRules

namespace RuleSet

section

variable (build : String → Option Pattern)

/-- Adds the rules of all fields in turn. -/
def ofMembers (set : RuleSet) : List (String × Value) → Except UpdateError RuleSet
  | [] => .ok set
  | (field, rules) :: rest =>
    match FieldRules.ofJsonWith build rules with
    | .ok rules => ofMembers (Members.set set field rules) rest
    | .error defect => .error (.invalidRule field defect.rule defect.fault)

/-- The rules of all fields, with patterns as `build` makes them. -/
def ofJsonWith : Value → Except UpdateError RuleSet
  | .obj members => ofMembers build [] members
  | _ => .error (.invalidRule "<root>" Rule.wholeName .notAnObject)

end

/-- The rules of all fields. -/
def ofJson (v : Value) : Except UpdateError RuleSet := ofJsonWith Pattern.ofText? v

end RuleSet
end Amend
