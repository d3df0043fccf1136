/-
Which operands are admitted.  An operator that writes a part of its operand fails where that part
is missing, and the part is written only after the rules of the entry's own path have accepted it.
-/
import Amend.Proofs.Engine.Run
import Amend.Proofs.Engine.Substitution

namespace Amend

namespace Entry

/-- The part of an entry's operand that its operator writes. -/
def writtenPart? (entry : Entry) : Option Value :=
  match entry.operand, entry.operator.written with
  | .value v, .whole => some v
  | .value v, .member name => v.member? name
  | _, _ => none

end Entry

namespace Operator

/-- Only a JSON operand lets a numeric operator or one for strings give a value. -/
theorem value_of_transform_ok {op : Operator} {declared : Option FieldKind}
    {stream : Random.Stream} {operand : Operand} {stored : Option Value} {v : Value}
    (hop : op.written ≠ .nothing) (h : op.transform declared stream operand stored = .ok v) :
    ∃ candidate, operand = .value candidate := by
  cases operand with
  | value candidate => exact ⟨candidate, rfl⟩
  | keyMapper rename =>
    cases op with
    | numeric op => nomatch h
    | text op => nomatch h
    | global | toggle | object | array => exact absurd rfl hop
  | valueMapper change =>
    cases op with
    | numeric op => nomatch h
    | text op => nomatch h
    | global | toggle | object | array => exact absurd rfl hop

/-- `$replace` needs the member that it writes. -/
theorem member?_of_replaced {text changed : List Char} {operand : Value}
    (h : Text.replaced text operand = .ok changed) :
    ∃ part, operand.member? "$replaceValue" = some part := by
  cases operand with
  | obj members =>
    cases hm : Members.get? members "$replaceValue" with
    | some part => exact ⟨part, hm⟩
    | none =>
      have hmissing : Text.requiredText members "$replaceValue" =
          .error (.missing "$replaceValue") := by
        rw [Text.requiredText, hm]
      rw [Text.replaced, hmissing] at h
      cases hsearch : Text.requiredText members "$searchValue" with
      | error fault =>
        rw [hsearch] at h
        nomatch h
      | ok search =>
        rw [hsearch] at h
        nomatch h
  | null | bool | num | str | arr => nomatch h

theorem replaced_of_transform_ok {stored : Option Value} {operand v : Value}
    (h : Text.transform .replace stored operand = .ok v) :
    ∃ text changed, Text.replaced text operand = .ok changed := by
  unfold Text.transform at h
  cases ht : Text.stored? stored with
  | error fault =>
    rw [ht] at h
    nomatch h
  | ok text =>
    rw [ht] at h
    cases hc : Text.replaced text operand with
    | error fault =>
      simp only [Text.change, hc, bind, Except.bind] at h
      nomatch h
    | ok changed => exact ⟨text, changed, hc⟩

end Operator

/-- An operator that writes a part of its operand fails on operands without that part. -/
theorem Entry.exists_writtenPart? {entry : Entry} {declared : Option FieldKind}
    {stream : Random.Stream} {stored : Option Value} {v : Value}
    (hop : entry.operator.written ≠ .nothing)
    (h : entry.operator.transform declared stream entry.operand stored = .ok v) :
    ∃ part, entry.writtenPart? = some part := by
  obtain ⟨candidate, hc⟩ := Operator.value_of_transform_ok hop h
  obtain ⟨op, path, operand⟩ := entry
  simp only at hop h hc
  subst hc
  unfold writtenPart?
  cases hw : op.written with
  | nothing => exact absurd hw hop
  | whole => exact ⟨candidate, rfl⟩
  | member name =>
    cases op with
    | text op =>
      cases op with
      | replace =>
        obtain ⟨text, changed, hr⟩ := Operator.replaced_of_transform_ok h
        rw [← Operator.Written.member.inj hw]
        exact Operator.member?_of_replaced hr
      | _ => nomatch hw
    | numeric op => cases op <;> nomatch hw
    | global | toggle | object | array => exact absurd rfl hop

namespace Engine

variable {config : Config} {schema : Schema} {entry : Entry} {operand : Operand}

theorem admitted_eq_ok {rules : RuleSet} (h : admitted config rules entry = .ok operand) :
    ∃ normal, normalized config.validationPolicy rules entry = .ok normal ∧
      operand = if config.applyNormalizedOperands then normal else entry.operand := by
  rw [admitted_eq] at h
  cases hn : normalized config.validationPolicy rules entry with
  | error e =>
    rw [hn] at h
    nomatch h
  | ok normal =>
    rw [hn] at h
    exact ⟨normal, rfl, (Except.ok.inj h).symm⟩

theorem normalized_of_writtenPart?_eq_none (policy : ValidationPolicy) (rules : RuleSet)
    (h : entry.writtenPart? = none) : normalized policy rules entry = .ok entry.operand := by
  unfold Entry.writtenPart? at h
  unfold normalized
  cases ho : entry.operand with
  | keyMapper rename => rfl
  | valueMapper change => rfl
  | value candidate =>
    cases hw : entry.operator.written with
    | whole =>
      rw [ho, hw] at h
      nomatch h
    | nothing => cases candidate <;> rfl
    | member name =>
      rw [ho, hw] at h
      cases candidate with
      | obj members =>
        have hm : Members.get? members name = none := h
        simp only [hm]
      | null | bool | num | str | arr => rfl

/-- An operand comes through only if the rules of the entry's own path accept its written part. -/
theorem validate_of_normalized_eq_ok {policy : ValidationPolicy} {rules : RuleSet} {part : Value}
    (hn : normalized policy rules entry = .ok operand) (h : entry.writtenPart? = some part) :
    ∃ normal, rules.validate policy entry.path part = .ok normal := by
  unfold Entry.writtenPart? at h
  unfold normalized at hn
  cases hv : rules.validate policy entry.path part with
  | ok normal => exact ⟨normal, rfl⟩
  | error e =>
    cases ho : entry.operand with
    | keyMapper rename =>
      rw [ho] at h
      nomatch h
    | valueMapper change =>
      rw [ho] at h
      nomatch h
    | value candidate =>
      rw [ho] at h hn
      cases hw : entry.operator.written with
      | whole =>
        rw [hw] at h hn
        rw [Option.some.inj h] at hn
        simp only [hv] at hn
        nomatch hn
      | nothing =>
        rw [hw] at h
        nomatch h
      | member name =>
        rw [hw] at h hn
        cases candidate with
        | obj members =>
          have hm : Members.get? members name = some part := h
          simp only [hm, hv] at hn
          nomatch hn
        | null | bool | num | str | arr => nomatch h

/-- What a committed step has written was accepted by the rules of its path. -/
theorem accepted_of_step {p p' : Progress} (h : step config schema entry p = (p', none))
    (hop : entry.operator.written ≠ .nothing) :
    ∃ part normal, entry.writtenPart? = some part ∧
      schema.rules.validate config.validationPolicy entry.path part = .ok normal := by
  obtain ⟨operand, declared, v, ha, -, -, ht, -⟩ := step_committed h
  obtain ⟨normal, hn, rfl⟩ := admitted_eq_ok ha
  cases hpart : entry.writtenPart? with
  | some part =>
    obtain ⟨accepted, hv⟩ := validate_of_normalized_eq_ok hn hpart
    exact ⟨part, accepted, rfl, hv⟩
  | none =>
    rw [normalized_of_writtenPart?_eq_none _ _ hpart, Except.ok.injEq] at hn
    subst hn
    rw [ite_self] at ht
    obtain ⟨part, hp⟩ := Entry.exists_writtenPart? hop ht
    rw [hpart] at hp
    nomatch hp

end Engine
end Amend
