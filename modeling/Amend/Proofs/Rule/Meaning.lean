/-
What rules mean, in the order in which they are pushed.  The fallback value pushed first stands
in for an absent operand, all checks see the operand trimmed if any rule says so, and of the rules
that reject it one of least rank decides, the one pushed first among equal ranks.  Nothing here
sorts the rules; that the sorted lists of the validator agree is the theorem of this module.
-/
import Amend.Proofs.Rule.Order

namespace Amend
namespace Rule

/-- The verdict on an operand, given the rules in the order of their pushes and those of them
that reject a value, each with its rejection. -/
def judge (policy : ValidationPolicy) (pushed : List Rule)
    (rejecting : Value → List (Rule × Rejection)) (candidate : Value) : Except Rejection Value :=
  if candidate.isNull then
    match pushed.findSome? FieldRules.fallbackOf? with
    | some value => .ok value
    | none =>
      if FieldRules.isRequired pushed then .error ⟨Rule.required.name, .absent⟩ else .ok .null
  else if policy.skips candidate then .ok candidate
  else
    let value := seen pushed candidate
    match (rejecting value).argmin fun r => r.1.rank with
    | none => .ok value
    | some (_, rejection) => .error rejection

mutual

/-- Why a rule rejects a value, if it does. -/
def rejection? (policy : ValidationPolicy) : Rule → Value → Option Rejection
  | .check c, value =>
    match evaluate c value with
    | .ok () => none
    | .error refusal => some ⟨c.name, refusal⟩
  | .anyOf branches, value =>
    if someAccepts policy branches value then none else some ⟨"$logicalOr", .noAlternative⟩
  | .noneOf inner, value =>
    if accepted (judge policy inner (rejecting policy inner) value) then
      some ⟨"$logicalNot", .negatedAccepted⟩
    else none
  | _, _ => none

/-- The rules that reject a value, in the order of their pushes. -/
def rejecting (policy : ValidationPolicy) : List Rule → Value → List (Rule × Rejection)
  | [], _ => []
  | rule :: rest, value =>
    match rejection? policy rule value with
    | none => rejecting policy rest value
    | some rejection => (rule, rejection) :: rejecting policy rest value

/-- Whether one of several lists of rules accepts a value. -/
def someAccepts (policy : ValidationPolicy) : List (List Rule) → Value → Bool
  | [], _ => false
  | branch :: rest, value =>
    accepted (judge policy branch (rejecting policy branch) value) || someAccepts policy rest value

end

/-- What rules make of an operand, from the order of their pushes. -/
def meaning (policy : ValidationPolicy) (pushed : List Rule) (candidate : Value) :
    Except Rejection Value :=
  judge policy pushed (rejecting policy pushed) candidate

variable {policy : ValidationPolicy} {pushed : List Rule}

theorem rejecting_eq_filterMap (policy : ValidationPolicy) (pushed : List Rule) (value : Value) :
    rejecting policy pushed value =
      pushed.filterMap (FieldRules.found fun rule => rejection? policy rule value) := by
  induction pushed with
  | nil => rfl
  | cons rule rest ih =>
    rw [rejecting, List.filterMap_cons, FieldRules.found]
    cases rejection? policy rule value with
    | none => exact ih
    | some rejection => exact congrArg _ ih

theorem someAccepts_eq_any (policy : ValidationPolicy) (branches : List (List Rule))
    (value : Value) : someAccepts policy branches value =
      branches.any fun branch => accepted (meaning policy branch value) := by
  induction branches with
  | nil => rfl
  | cons branch rest ih => rw [someAccepts, ih]; rfl

/-- A list made by pushes decides as its pushes do, where each of its rules rejects what the rule
that was pushed rejects. -/
theorem applyAll_ofPushes {candidate : Value}
    (h : ∀ rule ∈ pushed, ∀ value,
      rejectionOf (apply policy rule.arrange value) = rejection? policy rule value) :
    applyAll policy (FieldRules.ofPushes pushed) candidate =
      match (rejecting policy pushed (seen pushed candidate)).argmin fun r => r.1.rank with
      | none => .ok (seen pushed candidate)
      | some (_, rejection) => .error rejection := by
  rw [applyAll_of_ordered (FieldRules.ordered_ofPushes pushed), seen_ofPushes,
    ← FieldRules.map_snd_findSome?_found, FieldRules.findSome?_ofPushes, rejecting_eq_filterMap]
  have hpushed : pushed.filterMap (FieldRules.found
        ((fun r => rejectionOf (apply policy r (seen pushed candidate))) ∘ arrange)) =
      pushed.filterMap (FieldRules.found fun rule =>
        rejection? policy rule (seen pushed candidate)) :=
    List.filterMap_congr fun rule hrule => by
      rw [FieldRules.found, FieldRules.found, Function.comp_apply, h rule hrule]
  rw [hpushed]
  cases List.argmin (fun r => r.1.rank) (pushed.filterMap (FieldRules.found fun rule =>
    rejection? policy rule (seen pushed candidate))) <;> rfl

theorem skips_of_isNull {candidate : Value} (h : candidate.isNull = true) :
    policy.skips candidate = true ∧ candidate = .null := by
  cases candidate with
  | null => cases policy <;> exact ⟨rfl, rfl⟩
  | bool | num | str | arr | obj => nomatch h

theorem validate_eq_meaning {candidate : Value}
    (h : ∀ rule ∈ pushed, ∀ value,
      rejectionOf (apply policy rule.arrange value) = rejection? policy rule value) :
    (FieldRules.ofPushes pushed).validate policy candidate = meaning policy pushed candidate := by
  rw [FieldRules.validate, screen, applyAll_ofPushes h, FieldRules.fallback?_ofPushes,
    FieldRules.isRequired_ofPushes, meaning, judge]
  cases hnull : candidate.isNull with
  | false => rfl
  | true =>
    obtain ⟨hskips, rfl⟩ : policy.skips candidate = true ∧ candidate = .null :=
      skips_of_isNull hnull
    rw [if_pos rfl, if_pos hskips]
    cases pushed.findSome? FieldRules.fallbackOf? with
    | some value => rfl
    | none => cases FieldRules.isRequired pushed <;> rfl

/-- A rule that holds lists made by pushes rejects what it rejects by their meaning. -/
theorem rejectionOf_apply_arrange (policy : ValidationPolicy) (rule : Rule) (value : Value) :
    rejectionOf (apply policy rule.arrange value) = rejection? policy rule value := by
  induction rule using nested_induction generalizing value with
  | fallback | required | trim => rfl
  | check c =>
    show rejectionOf (apply policy (.check c) value) = _
    rw [apply, rejection?]
    cases evaluate c value <;> rfl
  | anyOf branches ih =>
    have hbranches : (branches.map FieldRules.ofPushes).any
          (fun branch => accepted (FieldRules.validate policy branch value)) =
        branches.any fun branch => accepted (meaning policy branch value) := by
      rw [List.any_map, Bool.eq_iff_iff, List.any_eq_true, List.any_eq_true]
      refine exists_congr fun branch => and_congr_right fun hbranch => ?_
      rw [Function.comp_apply, validate_eq_meaning (ih branch hbranch)]
    rw [arrange_anyOf, apply, anyAccepts_eq_any, hbranches, rejection?, someAccepts_eq_any]
    split <;> rfl
  | noneOf inner ih =>
    have hinner : (FieldRules.ofPushes inner).validate policy value = meaning policy inner value :=
      validate_eq_meaning ih
    rw [FieldRules.validate] at hinner
    rw [arrange_noneOf, apply, hinner, rejection?, meaning]
    split <;> rfl

end Rule

namespace FieldRules

/-- Rules that are made by pushes, at any depth, decide on every operand as their pushes do,
under either policy. -/
theorem validate_ofPushes (policy : ValidationPolicy) (pushed : List Rule) (candidate : Value) :
    (ofPushes pushed).validate policy candidate = Rule.meaning policy pushed candidate :=
  Rule.validate_eq_meaning fun rule _ => Rule.rejectionOf_apply_arrange policy rule

end FieldRules
end Amend
