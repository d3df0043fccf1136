/-
What the two policies make of one operand.  They differ on values that are not truthy, and on
strings of white space, which trimming makes empty: the lists of rules inside others then see an
empty string, which one policy checks and the other lets pass.  Below a negation that turns an
acceptance into a rejection.
-/
import Amend.Proofs.Rule.Order

namespace Amend

namespace Value

/-- A string that has characters, all of them white space. -/
def IsBlank : Value → Prop
  | .str s => s ≠ "" ∧ ∀ c ∈ s.toList, Unicode.isWhiteSpace c = true
  | _ => False

theorem isTruthy_of_isBlank {value : Value} (h : value.IsBlank) : value.isTruthy = true := by
  cases value with
  | str s => simpa [isTruthy] using h.1
  | null | bool | num | arr | obj => exact False.elim h

theorem isNull_of_isTruthy {value : Value} (h : value.isTruthy = true) : value.isNull = false := by
  cases value with
  | null => nomatch h
  | bool | num | str | arr | obj => rfl

end Value

namespace ValidationPolicy

def other : ValidationPolicy → ValidationPolicy
  | .skipAbsent => .skipFalsy
  | .skipFalsy => .skipAbsent

theorem other_other (policy : ValidationPolicy) : policy.other.other = policy := by
  cases policy <;> rfl

end ValidationPolicy

namespace Rule

variable {policy policy' : ValidationPolicy} {rules : FieldRules} {pushed : List Rule}
  {value candidate v : Value}

/-! ## Trimming -/

theorem trimmed_of_isBlank (h : value.IsBlank) : trimmed value = .str "" := by
  cases value with
  | str s => rw [trimmed, Unicode.trim_eq_nil_iff.mpr h.2]
  | null | bool | num | arr | obj => exact False.elim h

/-- Trimming empties only strings of white space. -/
theorem isTruthy_trimmed (htruthy : value.isTruthy = true) (h : ¬ value.IsBlank) :
    (trimmed value).isTruthy = true := by
  cases value with
  | str s =>
    have hne : s ≠ "" := by simpa [Value.isTruthy] using htruthy
    have htrim : Unicode.trim s.toList ≠ [] := fun hnil =>
      h ⟨hne, Unicode.trim_eq_nil_iff.mp hnil⟩
    rw [trimmed, Value.isTruthy, decide_eq_true_iff]
    exact fun hempty => htrim (String.ofList_eq_empty_iff.mp hempty)
  | null | bool | num | arr | obj => exact htruthy

theorem trimmed_of_not_isTruthy (h : value.isTruthy = false) : trimmed value = value := by
  cases value with
  | str s =>
    have hempty : s = "" := by simpa [Value.isTruthy] using h
    rw [hempty]
    rfl
  | null | bool | num | arr | obj => rfl

theorem eq_or_eq_trimmed_of_apply {rule : Rule} (h : apply policy rule value = .ok v) :
    v = value ∨ v = trimmed value := by
  rcases Nat.lt_or_ge 2 rule.rank with hrank | hrank
  · rw [apply_of_two_lt_rank hrank] at h
    split at h
    · exact .inl (Except.ok.inj h).symm
    · nomatch h
  · rcases eq_of_rank_le_two hrank with ⟨fallback, rfl⟩ | rfl | rfl
    · exact .inl (Except.ok.inj h).symm
    · exact .inl (Except.ok.inj h).symm
    · exact .inr (Except.ok.inj h).symm

theorem eq_or_eq_trimmed_of_applyAll (h : applyAll policy rules value = .ok v) :
    v = value ∨ v = trimmed value := by
  induction rules generalizing value with
  | nil => exact .inl (Except.ok.inj h).symm
  | cons rule rest ih =>
    rw [applyAll] at h
    split at h
    · next w hw =>
      rcases eq_or_eq_trimmed_of_apply hw with rfl | rfl
      · exact ih h
      · have ih := ih h
        rw [trimmed_trimmed, or_self] at ih
        exact .inr ih
    · cases h

/-! ## Values on which the policies agree -/

/-- Whether a value is truthy after trimming, and so before. -/
def Solid (value : Value) : Prop := (trimmed value).isTruthy = true

theorem Solid.isTruthy (h : Solid value) : value.isTruthy = true := by
  cases hvalue : value.isTruthy with
  | true => rfl
  | false =>
    rw [Solid, trimmed_of_not_isTruthy hvalue, hvalue] at h
    nomatch h

theorem Solid.of_apply {rule : Rule} (h : Solid value) (hv : apply policy rule value = .ok v) :
    Solid v := by
  rcases eq_or_eq_trimmed_of_apply hv with rfl | rfl
  · exact h
  · rw [Solid, trimmed_trimmed]
    exact h

theorem validate_of_isNull_eq_false (policy : ValidationPolicy) (rules : FieldRules)
    (h : candidate.isNull = false) : rules.validate policy candidate =
      if policy.skips candidate then .ok candidate else applyAll policy rules candidate := by
  rw [FieldRules.validate, screen, h]

theorem validate_of_isTruthy (policy : ValidationPolicy) (rules : FieldRules)
    (h : candidate.isTruthy = true) :
    rules.validate policy candidate = applyAll policy rules candidate := by
  have hskips : policy.skips candidate = false := by
    cases policy with
    | skipAbsent => exact Value.isNull_of_isTruthy h
    | skipFalsy => rw [ValidationPolicy.skips, h]; rfl
  rw [validate_of_isNull_eq_false policy rules (Value.isNull_of_isTruthy h), hskips]
  rfl

theorem applyAll_congr_of_solid
    (h : ∀ rule ∈ rules, ∀ value, Solid value →
      apply policy rule value = apply policy' rule value) (hvalue : Solid value) :
    applyAll policy rules value = applyAll policy' rules value := by
  induction rules generalizing value with
  | nil => rfl
  | cons rule rest ih =>
    rw [applyAll, applyAll, h rule List.mem_cons_self value hvalue]
    cases hresult : apply policy' rule value with
    | ok w =>
      exact ih (fun r hr => h r (List.mem_cons_of_mem rule hr)) (hvalue.of_apply hresult)
    | error rejection => rfl

theorem validate_congr_of_solid
    (h : ∀ rule ∈ rules, ∀ value, Solid value →
      apply policy rule value = apply policy' rule value) (hvalue : Solid value) :
    rules.validate policy value = rules.validate policy' value := by
  rw [validate_of_isTruthy policy rules hvalue.isTruthy,
    validate_of_isTruthy policy' rules hvalue.isTruthy, applyAll_congr_of_solid h hvalue]

theorem anyAccepts_congr {branches : List FieldRules}
    (h : ∀ branch ∈ branches,
      FieldRules.validate policy branch value = FieldRules.validate policy' branch value) :
    anyAccepts policy branches value = anyAccepts policy' branches value := by
  induction branches with
  | nil => rfl
  | cons branch rest ih =>
    have hbranch := h branch List.mem_cons_self
    rw [FieldRules.validate, FieldRules.validate] at hbranch
    rw [anyAccepts, anyAccepts, hbranch, ih fun b hb => h b (List.mem_cons_of_mem branch hb)]

/-- The policies agree on what is truthy after trimming, whatever lists a rule holds. -/
theorem apply_congr_of_solid (policy policy' : ValidationPolicy) (rule : Rule) (value : Value)
    (h : Solid value) : apply policy rule value = apply policy' rule value := by
  induction rule using nested_induction generalizing value with
  | fallback | required | trim | check => rfl
  | anyOf branches ih =>
    rw [apply, apply, anyAccepts_congr fun branch hbranch =>
      validate_congr_of_solid (ih branch hbranch) h]
  | noneOf inner ih =>
    have hinner : FieldRules.validate policy inner value =
        FieldRules.validate policy' inner value := validate_congr_of_solid ih h
    rw [FieldRules.validate, FieldRules.validate] at hinner
    rw [apply, apply, hinner]

/-- On all but strings of white space, skipping what is not truthy only lets more pass. -/
theorem validate_skipFalsy_of_not_isBlank (h : ¬ candidate.IsBlank)
    (hv : rules.validate .skipAbsent candidate = .ok v) :
    rules.validate .skipFalsy candidate = .ok v := by
  cases htruthy : candidate.isTruthy with
  | true =>
    have hsolid : Solid candidate := isTruthy_trimmed htruthy h
    rw [validate_congr_of_solid (fun rule _ => apply_congr_of_solid .skipFalsy .skipAbsent rule)
      hsolid, hv]
  | false =>
    cases hnull : candidate.isNull with
    | true =>
      cases candidate with
      | null => exact hv
      | bool | num | str | arr | obj => nomatch hnull
    | false =>
      -- Nothing is left to trim, so the rules give the candidate as it is.
      rw [validate_of_isNull_eq_false _ _ hnull, ValidationPolicy.skips, hnull] at hv
      rw [validate_of_isNull_eq_false _ _ hnull, ValidationPolicy.skips, htruthy]
      rcases eq_or_eq_trimmed_of_applyAll hv with rfl | rfl
      · rfl
      · rw [trimmed_of_not_isTruthy htruthy]
        rfl

/-! ## Strings of white space -/

/-- Whether a rule may reject, under the other policy, an empty string that it accepts under this
one. -/
def MayFlip : ValidationPolicy → Rule → Prop
  | .skipAbsent, .noneOf _ => True
  | .skipFalsy, .anyOf _ => True
  | _, _ => False

/-- Lists of rules by which every string of white space that passes under a policy passes under
the other one.  Where a list trims, the lists inside it see an empty string; where it does not,
they see the white space, and a negation changes the sides. -/
inductive Steady : ValidationPolicy → List Rule → Prop where
  | trimming {policy : ValidationPolicy} {pushed : List Rule}
    (ht : FieldRules.trims pushed = true) (h : ∀ rule ∈ pushed, ¬ MayFlip policy rule) :
    Steady policy pushed
  | plain {policy : ValidationPolicy} {pushed : List Rule}
    (ht : FieldRules.trims pushed = false)
    (hor : ∀ branches, .anyOf branches ∈ pushed → ∀ branch ∈ branches, Steady policy branch)
    (hnot : ∀ inner, .noneOf inner ∈ pushed → Steady policy.other inner) : Steady policy pushed

/-- A truthy value passes a list made by pushes if no rule rejects what the checks see of it. -/
theorem validate_ofPushes_eq_ok_iff (h : value.isTruthy = true) :
    (FieldRules.ofPushes pushed).validate policy value = .ok v ↔
      (∀ rule ∈ pushed, rejectionOf (apply policy rule.arrange (seen pushed value)) = none) ∧
        v = seen pushed value := by
  rw [validate_of_isTruthy _ _ h, applyAll_of_ordered (FieldRules.ordered_ofPushes pushed),
    seen_ofPushes]
  have hnone : (FieldRules.ofPushes pushed).findSome?
        (fun r => rejectionOf (apply policy r (seen pushed value))) = none ↔
      ∀ rule ∈ pushed, rejectionOf (apply policy rule.arrange (seen pushed value)) = none := by
    rw [List.findSome?_eq_none_iff]
    constructor
    · exact fun h rule hrule => h _ (FieldRules.mem_ofPushes.mpr ⟨rule, hrule, rfl⟩)
    · intro h r hr
      obtain ⟨rule, hrule, rfl⟩ := FieldRules.mem_ofPushes.mp hr
      exact h rule hrule
  rw [← hnone]
  split
  · next heq => simp [heq, eq_comm]
  · next heq => simp [heq]

theorem accepted_iff {result : Except Rejection Value} :
    accepted result = true ↔ ∃ v, result = .ok v := by
  cases result with
  | ok v => exact ⟨fun _ => ⟨v, rfl⟩, fun _ => rfl⟩
  | error rejection => exact ⟨fun h => (nomatch h), fun ⟨_, h⟩ => (nomatch h)⟩

theorem rejectionOf_anyOf {branches : List (List Rule)} :
    rejectionOf (apply policy (arrange (.anyOf branches)) value) = none ↔
      ∃ branch ∈ branches, ∃ v, (FieldRules.ofPushes branch).validate policy value = .ok v := by
  have hany : anyAccepts policy (branches.map FieldRules.ofPushes) value = true ↔
      ∃ branch ∈ branches, ∃ v, (FieldRules.ofPushes branch).validate policy value = .ok v := by
    rw [anyAccepts_eq_any, List.any_map, List.any_eq_true]
    exact exists_congr fun branch => and_congr_right fun _ => accepted_iff
  rw [arrange_anyOf, apply, ← hany]
  split
  · next h => exact ⟨fun _ => h, fun _ => rfl⟩
  · next h =>
    constructor
    · intro hnone
      cases hnone
    · intro haccepts
      exact absurd haccepts h

theorem rejectionOf_noneOf {inner : List Rule} :
    rejectionOf (apply policy (arrange (.noneOf inner)) value) = none ↔
      ¬ ∃ v, (FieldRules.ofPushes inner).validate policy value = .ok v := by
  rw [arrange_noneOf, apply, ← accepted_iff, FieldRules.validate]
  split
  · next h =>
    constructor
    · intro hnone
      cases hnone
    · intro hrejects
      exact absurd h hrejects
  · next h => exact ⟨fun _ => h, fun _ => rfl⟩

/-- Without checks every list of rules lets an empty string pass. -/
theorem validate_skipFalsy_empty (rules : FieldRules) :
    rules.validate .skipFalsy (.str "") = .ok (.str "") := by
  rw [validate_of_isNull_eq_false _ _ rfl]
  rfl

theorem passes_empty_other {rule : Rule} (hflip : ¬ MayFlip policy rule)
    (h : rejectionOf (apply policy rule.arrange (.str "")) = none) :
    rejectionOf (apply policy.other rule.arrange (.str "")) = none := by
  cases rule with
  | fallback | required | trim | check => exact h
  | anyOf branches =>
    cases policy with
    | skipFalsy => exact absurd trivial hflip
    | skipAbsent =>
      obtain ⟨branch, hbranch, -⟩ := rejectionOf_anyOf.mp h
      exact rejectionOf_anyOf.mpr ⟨branch, hbranch, _, validate_skipFalsy_empty _⟩
  | noneOf inner =>
    cases policy with
    | skipAbsent => exact absurd trivial hflip
    | skipFalsy => exact absurd ⟨_, validate_skipFalsy_empty _⟩ (rejectionOf_noneOf.mp h)

/-- Beside trimming, no negation lets white space pass if the inner rules are skipped. -/
theorem validate_skipFalsy_ne_of_noneOf {inner : List Rule} (hblank : value.IsBlank)
    (ht : FieldRules.trims pushed = true) (hinner : .noneOf inner ∈ pushed) (v : Value) :
    (FieldRules.ofPushes pushed).validate .skipFalsy value ≠ .ok v := by
  intro hv
  have hpass :=
    ((validate_ofPushes_eq_ok_iff (Value.isTruthy_of_isBlank hblank)).mp hv).1 _ hinner
  rw [seen, if_pos ht, trimmed_of_isBlank hblank] at hpass
  exact rejectionOf_noneOf.mp hpass ⟨_, validate_skipFalsy_empty _⟩

/-- What a string of white space passes under one policy it passes under the other one, where the
rules are steady from the first to the second. -/
theorem Steady.validate_other (h : Steady policy pushed) (hblank : value.IsBlank)
    (hv : (FieldRules.ofPushes pushed).validate policy value = .ok v) :
    (FieldRules.ofPushes pushed).validate policy.other value = .ok v := by
  have htruthy := Value.isTruthy_of_isBlank hblank
  induction h generalizing v with
  | @trimming policy pushed ht hflip =>
    obtain ⟨hpass, hv⟩ := (validate_ofPushes_eq_ok_iff htruthy).mp hv
    refine (validate_ofPushes_eq_ok_iff htruthy).mpr ⟨fun rule hrule => ?_, hv⟩
    have hpass := hpass rule hrule
    -- The checks see an empty string.
    rw [seen, if_pos ht, trimmed_of_isBlank hblank] at hpass ⊢
    exact passes_empty_other (hflip rule hrule) hpass
  | @plain policy pushed ht _ _ ihor ihnot =>
    obtain ⟨hpass, hv⟩ := (validate_ofPushes_eq_ok_iff htruthy).mp hv
    refine (validate_ofPushes_eq_ok_iff htruthy).mpr ⟨fun rule hrule => ?_, hv⟩
    have hpass := hpass rule hrule
    have hseen : seen pushed value = value := by
      rw [seen, ht]
      rfl
    rw [hseen] at hpass ⊢
    cases rule with
    | fallback | required | trim | check => exact hpass
    | anyOf branches =>
      obtain ⟨branch, hbranch, w, hw⟩ := rejectionOf_anyOf.mp hpass
      exact rejectionOf_anyOf.mpr ⟨branch, hbranch, w, ihor branches hrule branch hbranch hw⟩
    | noneOf inner =>
      -- Below the negation the policies change sides.
      refine rejectionOf_noneOf.mpr ?_
      rintro ⟨w, hw⟩
      refine rejectionOf_noneOf.mp hpass ⟨w, ?_⟩
      have hback := ihnot inner hrule hw
      rwa [ValidationPolicy.other_other] at hback

end Rule

namespace FieldRules

/-- Skipping what is not truthy only lets more pass, and changes no value that passes, except
that a string of white space may be refused by rules that are not steady. -/
theorem validate_skipFalsy_of_skipAbsent {pushed : List Rule} {candidate v : Value}
    (h : ¬ candidate.IsBlank ∨ Rule.Steady .skipAbsent pushed)
    (hv : (ofPushes pushed).validate .skipAbsent candidate = .ok v) :
    (ofPushes pushed).validate .skipFalsy candidate = .ok v := by
  by_cases hblank : candidate.IsBlank
  · rcases h with h | hsteady
    · exact absurd hblank h
    · exact hsteady.validate_other hblank hv
  · exact Rule.validate_skipFalsy_of_not_isBlank hblank hv

/-- Beside trimming, an alternative for the empty string takes in white space under both
policies. -/
theorem validate_skipFalsy_alternative :
    let pushed : List Rule := [.anyOf [[.check (.minLength 1)], [.check (.maxLength 0)]], .trim]
    (ofPushes pushed).validate .skipAbsent (.str " ") = .ok (.str "") ∧
      (ofPushes pushed).validate .skipFalsy (.str " ") = .ok (.str "") := by
  intro pushed
  have hsteady : Rule.Steady .skipAbsent pushed := by
    refine .trimming rfl fun rule hrule => ?_
    rcases List.mem_pair.mp hrule with rfl | rfl <;> exact id
  have hv : (ofPushes pushed).validate .skipAbsent (.str " ") = .ok (.str "") := rfl
  exact ⟨hv, validate_skipFalsy_of_skipAbsent (.inr hsteady) hv⟩

/-- White space that is trimmed to nothing passes a negation only if the inner rules are
checked. -/
theorem validate_skipFalsy_negation :
    let pushed : List Rule := [.trim, .noneOf [.check (.minLength 1)]]
    (ofPushes pushed).validate .skipAbsent (.str "  ") = .ok (.str "") ∧
      (ofPushes pushed).validate .skipFalsy (.str "  ") ≠ .ok (.str "") := by
  intro pushed
  refine ⟨rfl, ?_⟩
  have hv : (ofPushes pushed).validate .skipFalsy (.str "  ") =
      .error ⟨"$logicalNot", .negatedAccepted⟩ := rfl
  rw [hv]
  exact fun h => nomatch h

end FieldRules
end Amend
