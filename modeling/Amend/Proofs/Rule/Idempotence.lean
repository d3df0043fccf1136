/-
Validating what was validated.  The checks of a list all see one value, the operand as it came or
trimmed, and that value is what validation gives.  A second run shows them the same value again,
and where the policy lets the trimmed value pass they are not asked at all.
-/
import Amend.Proofs.Rule.Required

namespace Amend
namespace Rule

variable {policy : ValidationPolicy} {rules : FieldRules} {value v : Value}

theorem seen_seen (rules : FieldRules) (value : Value) :
    seen rules (seen rules value) = seen rules value := by
  by_cases h : rules.trims = true
  · simp only [seen, h, if_true]
    exact trimmed_trimmed value
  · simp only [seen, h, if_false, Bool.false_eq_true]

/-- Rules in order make the same of a value and of what their checks see of it. -/
theorem applyAll_seen (h : rules.Ordered) (policy : ValidationPolicy) (value : Value) :
    applyAll policy rules (seen rules value) = applyAll policy rules value := by
  rw [applyAll_of_ordered h, applyAll_of_ordered h, seen_seen]

theorem eq_seen_of_applyAll (h : rules.Ordered) (hv : applyAll policy rules value = .ok v) :
    v = seen rules value := by
  rw [applyAll_of_ordered h] at hv
  split at hv
  · exact (Except.ok.inj hv).symm
  · nomatch hv

theorem applyAll_again (h : rules.Ordered) (hv : applyAll policy rules value = .ok v) :
    applyAll policy rules v = .ok v := by
  have hseen : v = seen rules value := eq_seen_of_applyAll h hv
  calc
    applyAll policy rules v = applyAll policy rules value := by rw [hseen, applyAll_seen h]
    _ = .ok v := hv

end Rule

namespace FieldRules

variable {policy : ValidationPolicy} {pushed : List Rule} {candidate v : Value}

/-- What rules have made of an operand that is there they leave as it is. -/
theorem validate_idempotent (hcandidate : candidate ≠ .null)
    (hv : (ofPushes pushed).validate policy candidate = .ok v) :
    (ofPushes pushed).validate policy v = .ok v := by
  have hnull : candidate.isNull = false := by
    cases hisNull : candidate.isNull with
    | false => rfl
    | true => exact absurd (Value.eq_null_of_isNull hisNull) hcandidate
  have hvnull : v.isNull = false := isNull_of_validate hnull hv
  rw [Rule.validate_of_isNull_eq_false policy _ hvnull]
  rw [Rule.validate_of_isNull_eq_false policy _ hnull] at hv
  by_cases hskips : policy.skips v = true
  · -- Trimming may have emptied the string, which the policy then lets pass.
    rw [if_pos hskips]
  · rw [if_neg hskips]
    split at hv
    · next hskipped =>
      rw [← Except.ok.inj hv] at hskips
      exact absurd hskipped hskips
    · exact Rule.applyAll_again (ordered_ofPushes pushed) hv

/-- White space that is trimmed to nothing is checked in the first run, also by an alternative
that trims on its own, and skipped in the second. -/
theorem validate_idempotent_blank :
    let pushed : List Rule :=
      [.check (.maxLength 2), .anyOf [[.check (.contains "x")], [.check (.exactLength 0), .trim]],
        .trim]
    Value.str " \t " ≠ .null ∧
      (ofPushes pushed).validate .skipFalsy (.str " \t ") = .ok (.str "") ∧
      (ofPushes pushed).validate .skipFalsy (.str "") = .ok (.str "") := by
  intro pushed
  have hcandidate : Value.str " \t " ≠ .null := nofun
  have hv : (ofPushes pushed).validate .skipFalsy (.str " \t ") = .ok (.str "") := rfl
  exact ⟨hcandidate, hv, validate_idempotent hcandidate hv⟩

/-- Rules that trim after a check would not leave the value as it is; pushing puts them first. -/
example : validate .skipAbsent [.check (.exactLength 2), .trim] (.str "a ") = .ok (.str "a") ∧
    validate .skipAbsent [.check (.exactLength 2), .trim] (.str "a") ≠ .ok (.str "a") :=
  ⟨rfl, nofun⟩

end FieldRules
end Amend
