/-
Null and required fields.  No rule turns a value into null or null into a value, so the rules of
a field give null only for an absent operand.  A required field refuses one, unless a fallback
value stands in for it; that value is not looked at, and may be null itself.
-/
import Amend.Proofs.Rule.Policy

namespace Amend

namespace Value

theorem eq_null_of_isNull {value : Value} (h : value.isNull = true) : value = .null := by
  cases value with
  | null => rfl
  | bool | num | str | arr | obj => nomatch h

end Value

namespace Rule

variable {policy : ValidationPolicy} {rules : FieldRules} {value v : Value}

theorem isNull_trimmed (value : Value) : (trimmed value).isNull = value.isNull := by
  cases value <;> rfl

theorem isNull_of_applyAll (h : applyAll policy rules value = .ok v) : v.isNull = value.isNull := by
  rcases eq_or_eq_trimmed_of_applyAll h with rfl | rfl
  · rfl
  · exact isNull_trimmed value

end Rule

namespace FieldRules

open Rule (applyAll screen)

variable {policy : ValidationPolicy} {rules : FieldRules} {candidate v : Value}

theorem isRequired_iff : rules.isRequired = true ↔ Rule.required ∈ rules := by
  rw [isRequired, List.any_eq_true]
  constructor
  · rintro ⟨rule, hrule, hrequired⟩
    cases rule with
    | required => exact hrule
    | fallback | trim | check | anyOf | noneOf => nomatch hrequired
  · intro hrule
    exact ⟨.required, hrule, rfl⟩

/-- What is there stays there. -/
theorem isNull_of_validate (hnull : candidate.isNull = false)
    (h : rules.validate policy candidate = .ok v) : v.isNull = false := by
  rw [Rule.validate_of_isNull_eq_false policy rules hnull] at h
  split at h
  · rw [← Except.ok.inj h]
    exact hnull
  · rw [Rule.isNull_of_applyAll h]
    exact hnull

/-- An absent operand becomes the fallback value, is refused, or stays absent. -/
theorem validate_null (policy : ValidationPolicy) (rules : FieldRules) :
    rules.validate policy .null =
      match rules.fallback?, rules.isRequired with
      | some value, _ => .ok value
      | none, true => .error ⟨Rule.required.name, .absent⟩
      | none, false => .ok .null := by
  unfold validate screen
  cases rules.fallback? with
  | some value => rfl
  | none =>
    cases rules.isRequired with
    | true => rfl
    | false => cases policy <;> rfl

/-- The rules of a required field give null exactly for an absent operand whose fallback value is
null. -/
theorem validate_eq_null_iff (hrequired : Rule.required ∈ rules) :
    rules.validate policy candidate = .ok .null ↔
      candidate = .null ∧ rules.fallback? = some .null := by
  have hisRequired : rules.isRequired = true := isRequired_iff.mpr hrequired
  constructor
  · intro h
    cases hnull : candidate.isNull with
    | false => nomatch isNull_of_validate hnull h
    | true =>
      have hcandidate : candidate = .null := Value.eq_null_of_isNull hnull
      rw [hcandidate, validate_null, hisRequired] at h
      cases hfallback : rules.fallback? with
      | none =>
        rw [hfallback] at h
        nomatch h
      | some value =>
        rw [hfallback] at h
        exact ⟨hcandidate, congrArg some (Except.ok.inj h)⟩
  · rintro ⟨rfl, hfallback⟩
    rw [validate_null, hfallback]

theorem validate_eq_null_iff_number :
    validate .skipFalsy [.fallback (.int 7), .required, .trim] .null ≠ .ok .null := by
  have hrequired : Rule.required ∈ ([.fallback (.int 7), .required, .trim] : FieldRules) :=
    .tail _ (.head _)
  intro h
  nomatch ((validate_eq_null_iff hrequired).mp h).2

/-- A required field with null as its fallback value takes an absent operand as null. -/
theorem validate_required_null :
    Rule.required ∈ ([.fallback .null, .required] : FieldRules) ∧
      validate .skipAbsent [.fallback .null, .required] .null = .ok .null :=
  ⟨.tail _ (.head _), rfl⟩

end FieldRules
end Amend
