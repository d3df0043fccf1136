/-
Always putting the normalized part into the operand.  The engine keeps the operand as it came
where the normalized one is written alike.  Validation gives the candidate itself, the candidate
trimmed, or the fallback in the place of an absent one, and of these only the candidate itself is
written like the candidate: the operand that is kept is the one that would have been put in.
-/
import Amend.Engine.Apply
import Amend.Proofs.Json.WellFormed
import Amend.Proofs.Rule.Policy

namespace Amend

/-! ## What validation gives -/

namespace Rule

/-- Validation gives a fallback only for an absent candidate. -/
theorem eq_or_eq_trimmed_of_validate {policy : ValidationPolicy} {rules : FieldRules}
    {candidate v : Value} (h : rules.validate policy candidate = .ok v) :
    candidate = .null ∨ v = candidate ∨ v = trimmed candidate := by
  cases hnull : candidate.isNull with
  | true =>
    cases candidate with
    | null => exact .inl rfl
    | bool | num | str | arr | obj => nomatch hnull
  | false =>
    rw [validate_of_isNull_eq_false policy rules hnull] at h
    split at h
    · exact .inr (.inl (Except.ok.inj h).symm)
    · exact .inr (eq_or_eq_trimmed_of_applyAll h)

end Rule

namespace RuleSet

theorem eq_or_eq_trimmed_of_validate {policy : ValidationPolicy} {rules : RuleSet}
    {field : String} {candidate v : Value} (h : rules.validate policy field candidate = .ok v) :
    candidate = .null ∨ v = candidate ∨ v = Rule.trimmed candidate := by
  unfold RuleSet.validate at h
  split at h
  · exact .inr (.inl (Except.ok.inj h).symm)
  · split at h
    · next hv =>
      rw [← Except.ok.inj h]
      exact Rule.eq_or_eq_trimmed_of_validate hv
    · nomatch h

end RuleSet

/-! ## What is written alike -/

namespace Value

theorem eq_null_of_same {v : Value} (h : v.same .null = true) : v = .null := by
  cases v with
  | null => rfl
  | bool | num | str | arr | obj => nomatch h

theorem eq_of_trimmed_same {candidate : Value}
    (h : (Rule.trimmed candidate).same candidate = true) :
    Rule.trimmed candidate = candidate := by
  cases candidate with
  | str s =>
    have htrim : (String.ofList (Unicode.trim s.toList) == s) = true := h
    rw [Rule.trimmed, beq_iff_eq.mp htrim]
  | null | bool | num | arr | obj => rfl

end Value

theorem RuleSet.eq_of_validate_same {policy : ValidationPolicy} {rules : RuleSet}
    {field : String} {candidate v : Value} (h : rules.validate policy field candidate = .ok v)
    (hsame : v.same candidate = true) : v = candidate := by
  rcases eq_or_eq_trimmed_of_validate h with rfl | rfl | rfl
  · exact Value.eq_null_of_same hsame
  · rfl
  · exact Value.eq_of_trimmed_same hsame

/-! ## Operands -/

namespace Engine

variable {policy : ValidationPolicy} {rules : RuleSet} {entry : Entry} {operand : Operand}

/-- A normalized operand that is written like the operand is the operand. -/
theorem eq_of_normalized_same (h : normalized policy rules entry = .ok operand)
    (hsame : operand.same entry.operand = true) : operand = entry.operand := by
  unfold normalized at h
  split at h
  · next candidate hcandidate _ =>
    cases hv : rules.validate policy entry.path candidate with
    | error e =>
      rw [hv] at h
      nomatch h
    | ok v =>
      rw [hv] at h
      rw [← Except.ok.inj h, hcandidate] at hsame ⊢
      exact congrArg Operand.value (RuleSet.eq_of_validate_same hv hsame)
  · next members name hmembers _ =>
    split at h
    · next part hpart =>
      cases hv : rules.validate policy entry.path part with
      | error e =>
        rw [hv] at h
        nomatch h
      | ok v =>
        rw [hv] at h
        rw [← Except.ok.inj h, hmembers] at hsame ⊢
        have hequal : Value.equalMembers Number.same (Members.set members name v) members = true :=
          (Bool.and_eq_true_iff.mp hsame).2
        -- The member written is looked up in the operand under its own name.
        obtain ⟨found, hfound, hpartSame⟩ := Value.equalMembers_iff.mp hequal _
          (Members.mem_of_get? (Members.get?_set_self members name v))
        rw [hpart, Option.some.injEq] at hfound
        rw [← hfound] at hpartSame
        rw [RuleSet.eq_of_validate_same hv hpartSame, Members.set_of_get?_eq hpart]
    · exact (Except.ok.inj h).symm
  · exact (Except.ok.inj h).symm

/-- The operand that is admitted, without a look at whether normalization changes anything. -/
theorem admitted_eq (config : Config) (rules : RuleSet) (entry : Entry) :
    admitted config rules entry =
      (normalized config.validationPolicy rules entry).map fun normal =>
        if config.applyNormalizedOperands then normal else entry.operand := by
  unfold admitted
  cases hn : normalized config.validationPolicy rules entry with
  | error e => rfl
  | ok normal =>
    show Except.ok _ = Except.ok (if config.applyNormalizedOperands then normal else entry.operand)
    cases hsame : normal.same entry.operand with
    | false => rw [Bool.not_false, Bool.and_true]
    | true => rw [eq_of_normalized_same hn hsame, ite_self, ite_self]

end Engine
end Amend
