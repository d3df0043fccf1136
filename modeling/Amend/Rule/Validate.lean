/-
Validation of one operand by the rules of its field.  An absent operand takes the fallback
value, unchecked, or is refused where it is required.  The policy may let other operands pass.
The remaining rules then see the operand one after the other, trimmed from the place of the
trimming rule on, and the first one that rejects it decides.
-/
import Amend.Rule.Check

namespace Amend

/-- Which operands pass without checks. -/
inductive ValidationPolicy where
  /-- Only absent ones. -/
  | skipAbsent
  /-- All that are not truthy. -/
  | skipFalsy
deriving DecidableEq

namespace ValidationPolicy

def skips : ValidationPolicy → Value → Bool
  | .skipAbsent, value => value.isNull
  | .skipFalsy, value => !value.isTruthy

end ValidationPolicy

namespace Rule

/-- The rule that rejects a value, by its keyword, and why. -/
structure Rejection where
  rule : String
  refusal : Refusal
deriving DecidableEq

/-- Decides on absent and skipped operands before the rules see them. -/
def screen (policy : ValidationPolicy) (rules : FieldRules)
    (checks : Value → Except Rejection Value) (candidate : Value) : Except Rejection Value :=
  match candidate.isNull, rules.fallback?, rules.isRequired with
  | true, some value, _ => .ok value
  | true, none, true => .error ⟨Rule.required.name, .absent⟩
  | _, _, _ => if policy.skips candidate then .ok candidate else checks candidate

/-- A string without white space around it; other values as they are. -/
def trimmed : Value → Value
  | .str s => .str (String.ofList (Unicode.trim s.toList))
  | value => value

def accepted (result : Except Rejection Value) : Bool :=
  match result with
  | .ok _ => true
  | .error _ => false

mutual

/-- What a rule makes of a value that is there. -/
def apply (policy : ValidationPolicy) : Rule → Value → Except Rejection Value
  | .fallback _, value => .ok value
  | .required, value => .ok value
  | .trim, value => .ok (trimmed value)
  | .check c, value =>
    match evaluate c value with
    | .ok () => .ok value
    | .error refusal => .error ⟨c.name, refusal⟩
  | .anyOf branches, value =>
    if anyAccepts policy branches value then .ok value
    else .error ⟨"$logicalOr", .noAlternative⟩
  | .noneOf inner, value =>
    if accepted (screen policy inner (applyAll policy inner) value) then
      .error ⟨"$logicalNot", .negatedAccepted⟩
    else .ok value

/-- What the rules make of a value, one after the other. -/
def applyAll (policy : ValidationPolicy) : List Rule → Value → Except Rejection Value
  | [], value => .ok value
  | rule :: rest, value =>
    match apply policy rule value with
    | .ok value => applyAll policy rest value
    | .error rejection => .error rejection

/-- Whether one of several lists of rules accepts a value. -/
def anyAccepts (policy : ValidationPolicy) : List (List Rule) → Value → Bool
  | [], _ => false
  | branch :: rest, value =>
    accepted (screen policy branch (applyAll policy branch) value)
      || anyAccepts policy rest value

end
end Rule

namespace FieldRules

/-- The normalized form of an operand that the rules accept. -/
def validate (policy : ValidationPolicy) (rules : FieldRules) (candidate : Value) :
    Except Rule.Rejection Value :=
  Rule.screen policy rules (Rule.applyAll policy rules) candidate

end FieldRules

namespace RuleSet

/-- The normalized form of an operand for a field.  A field without rules accepts everything. -/
def validate (policy : ValidationPolicy) (set : RuleSet) (field : String) (candidate : Value) :
    Except UpdateError Value :=
  match Members.get? set field with
  | none => .ok candidate
  | some rules =>
    match rules.validate policy candidate with
    | .ok value => .ok value
    | .error rejection => .error (.validation field rejection.rule rejection.refusal)

end RuleSet
end Amend
