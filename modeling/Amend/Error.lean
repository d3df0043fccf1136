/-
Why an update is refused.  An error names its cause; the text for a reader is made in one place
for each kind of cause.
-/

namespace Amend

/-- Why a path leads nowhere. -/
inductive Path.Fault where
  | emptySegment
  | tooDeep (depth limit : Nat)
  | inside (segment kind : String)
  | parent (leaf kind : String)
  | notAnIndex (segment : String)
  | outOfBounds (index length : Nat)
  | other (reason : String)
deriving DecidableEq

namespace Path.Fault

def reason : Path.Fault → String
  | .emptySegment => "empty path segment"
  | .tooDeep depth limit => s!"depth {depth} exceeds limit {limit}"
  | .inside segment kind => s!"segment '{segment}' is inside {kind}, not an object"
  | .parent leaf kind => s!"parent of '{leaf}' is {kind}, not an object"
  | .notAnIndex segment => s!"'{segment}' is not an array index"
  | .outOfBounds index length => s!"index {index} out of bounds for array of length {length}"
  | .other reason => reason

end Path.Fault

/-- Why an operator cannot be applied to a stored value with an operand. -/
inductive Operator.Fault where
  | stored (found expected : String)
  | operand (found expected : String)
  | argument (name expected got : String)
  | missing (name : String)
  | unexpected (expected got : String)
  | notClearable (declared : Option String)
  | noNumber
  | notFinite (shown : String)
  | divisionByZero
  | moduloByZero
  | digitCount (digits least most : Int)
  | crossedBounds (first last : Int)
  | notInvertible (key kind : String)
  | documentShape
  | groupShape
  | other (reason : String)
deriving DecidableEq

namespace Operator.Fault

def reason : Operator.Fault → String
  | .stored found expected => s!"stored value is {found}, expected {expected}"
  | .operand found expected => s!"operand is {found}, expected {expected}"
  | .argument name expected got => s!"{name} must be {expected}, got {got}"
  | .missing name => s!"missing {name}"
  | .unexpected expected got => s!"expected {expected}, got {got}"
  | .notClearable (some declared) => s!"cannot clear a field declared as {declared}"
  | .notClearable none => "cannot clear an undeclared field"
  | .noNumber => "field has no numeric value"
  | .notFinite shown => s!"result {shown} is not a finite number"
  | .divisionByZero => "division by zero"
  | .moduloByZero => "modulo by zero"
  | .digitCount digits least most => s!"digit count {digits} outside {least}..={most}"
  | .crossedBounds first last => s!"$begin ({first}) is greater than $end ({last})"
  | .notInvertible key kind => s!"cannot invert key '{key}' holding {kind}"
  | .documentShape => "update document must be a JSON object"
  | .groupShape => "operator group must map field paths to operands"
  | .other reason => reason

end Operator.Fault

/-- Why a rule definition is not one. -/
inductive Rule.Fault where
  | notAnObject
  | unknown
  | expected (what : String)
  | crossedRange
  | zeroDivisor
  | badBase
  | onlyInCode
  | noBranch
  | badPattern
  | unknownUnit (unit : String)
  | boundsNotNumbers
  | badRange
  | crossedAngle
  | notANumber (member : String)
  | other (reason : String)
deriving DecidableEq

namespace Rule.Fault

def reason : Rule.Fault → String
  | .notAnObject => "rule set must be an object"
  | .unknown => "unknown rule"
  | .expected what => s!"expected {what}"
  | .crossedRange => "$min must not exceed $max"
  | .zeroDivisor => "divisor must be non-zero"
  | .badBase => "base must be positive and not 1"
  | .onlyInCode => "custom predicates must be registered in code"
  | .noBranch => "at least one branch is required"
  | .badPattern => "<regex error>"
  | .unknownUnit unit => s!"unknown unit '{unit}'"
  | .boundsNotNumbers => "$range bounds must be numbers"
  | .badRange => "$range must be \x7b$min, $max\x7d or [min, max]"
  | .crossedAngle => "$range minimum exceeds maximum"
  | .notANumber member => s!"{member} must be a number"
  | .other reason => reason

end Rule.Fault

/-- Why a rule rejects an operand. -/
inductive Rule.Refusal where
  | expected (what : String)
  | expectedInstead (what got : String)
  | forbidden (what : String)
  | taken (shown : String)
  | predicate
  | absent
  | noAlternative
  | negatedAccepted
  | other (message : String)
deriving DecidableEq

namespace Rule.Refusal

def message : Rule.Refusal → String
  | .expected what => s!"expected {what}"
  | .expectedInstead what got => s!"expected {what}, got {got}"
  | .forbidden what => s!"must not contain {what}"
  | .taken shown => s!"value {shown} is already taken"
  | .predicate => "custom predicate rejected value"
  | .absent => "value is required"
  | .noAlternative => "no alternative accepted the value"
  | .negatedAccepted => "negated rules accepted the value"
  | .other message => message

end Rule.Refusal

/-- Why an update document, or a part of its setting, is refused. -/
inductive UpdateError where
  /-- A rule rejected the operand that would be written. -/
  | validation (field rule : String) (refusal : Rule.Refusal)
  /-- An operator met a value or an operand it cannot use. -/
  | operator (name field : String) (fault : Operator.Fault)
  /-- The operator's family does not fit the declared kind. -/
  | typeMismatch (name field declared : String)
  | unknownOperator (name : String)
  | invalidRule (field rule : String) (fault : Rule.Fault)
  | path (full : String) (fault : Path.Fault)
  /-- The configuration, or the declared types, cannot be used. -/
  | config (message : String)
deriving DecidableEq

namespace UpdateError

/-- The stable code of the kind of error. -/
def code : UpdateError → String
  | .validation .. => "AERO_UPDATE_VALIDATION_FAILED"
  | .operator .. => "AERO_UPDATE_OPERATOR_INVALID"
  | .typeMismatch .. => "AERO_UPDATE_TYPE_MISMATCH"
  | .unknownOperator .. => "AERO_UPDATE_UNKNOWN_OPERATOR"
  | .invalidRule .. => "AERO_UPDATE_INVALID_RULE"
  | .path .. => "AERO_UPDATE_PATH_CONFLICT"
  | .config .. => "AERO_UPDATE_CONFIG_ERROR"

/-- The error as one sentence. -/
def message : UpdateError → String
  | .validation field rule refusal =>
    s!"Validation failed for field '{field}' on rule {rule}: {refusal.message}"
  | .operator name field fault =>
    s!"Operator {name} failed on field '{field}': {fault.reason}"
  | .typeMismatch name field declared =>
    s!"Operator {name} cannot be applied to field '{field}' declared as {declared}"
  | .unknownOperator name => s!"Unknown update operator: {name}"
  | .invalidRule field rule fault =>
    s!"Invalid rule {rule} for field '{field}': {fault.reason}"
  | .path full fault => s!"Path '{full}' cannot be resolved: {fault.reason}"
  | .config message => s!"Configuration error: {message}"

/-- Whether the caller's input is at fault, and not the setting. -/
def isClientError : UpdateError → Bool
  | .config _ => false
  | _ => true

def isValidation : UpdateError → Bool
  | .validation .. => true
  | _ => false

end UpdateError
end Amend
