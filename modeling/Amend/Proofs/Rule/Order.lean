/-
Rules in the order of evaluation.  Pushed one after the other, rules come to stand by rank, and
rules of one rank in the order in which they were pushed.  In such a list trimming comes before
every check, so that all checks see one value, and of the rules that reject it the first of least
rank decides.
-/
import Mathlib.Data.List.MinMax
import Amend.Proofs.Unicode.Text
import Amend.Rule.Validate

namespace Amend
namespace Rule

/-- Induction on a rule, through the lists of rules inside it. -/
@[elab_as_elim]
theorem nested_induction {motive : Rule → Prop} (fallback : ∀ v, motive (.fallback v))
    (required : motive .required) (trim : motive .trim) (check : ∀ c, motive (.check c))
    (anyOf : ∀ branches, (∀ branch ∈ branches, ∀ rule ∈ branch, motive rule) →
      motive (.anyOf branches))
    (noneOf : ∀ inner, (∀ rule ∈ inner, motive rule) → motive (.noneOf inner)) :
    ∀ rule, motive rule
  | .fallback v => fallback v
  | .required => required
  | .trim => trim
  | .check c => check c
  | .anyOf branches => anyOf branches fun _ hbranch rule hrule =>
      have := List.sizeOf_lt_of_mem hbranch
      have := List.sizeOf_lt_of_mem hrule
      nested_induction fallback required trim check anyOf noneOf rule
  | .noneOf inner => noneOf inner fun rule hrule =>
      have := List.sizeOf_lt_of_mem hrule
      nested_induction fallback required trim check anyOf noneOf rule
termination_by rule => sizeOf rule
decreasing_by all_goals simp_wf; omega

mutual

/-- A rule with the lists inside it made by pushes, in the order in which they are given. -/
def arrange : Rule → Rule
  | .anyOf branches => .anyOf (arrangeEach branches)
  | .noneOf inner => .noneOf (arrangeOnto [] inner)
  | rule => rule

/-- The list after pushes of arranged rules. -/
def arrangeOnto (made : FieldRules) : List Rule → FieldRules
  | [] => made
  | rule :: rest => arrangeOnto (made.push (arrange rule)) rest

def arrangeEach : List (List Rule) → List FieldRules
  | [] => []
  | branch :: rest => arrangeOnto [] branch :: arrangeEach rest

end

end Rule

namespace FieldRules

/-- The rules of a field that are made by pushes, as are all lists inside them. -/
def ofPushes (pushed : List Rule) : FieldRules :=
  pushed.foldl (fun made rule => made.push rule.arrange) []

end FieldRules

namespace Rule

theorem arrangeOnto_eq_foldl (made : FieldRules) (pushed : List Rule) :
    arrangeOnto made pushed = pushed.foldl (fun made rule => made.push rule.arrange) made := by
  induction pushed generalizing made with
  | nil => rfl
  | cons rule rest ih => exact ih (made.push rule.arrange)

theorem arrange_noneOf (inner : List Rule) :
    arrange (.noneOf inner) = .noneOf (FieldRules.ofPushes inner) := by
  rw [arrange, arrangeOnto_eq_foldl, FieldRules.ofPushes]

theorem arrange_anyOf (branches : List (List Rule)) :
    arrange (.anyOf branches) = .anyOf (branches.map FieldRules.ofPushes) := by
  have heach : ∀ branches, arrangeEach branches = branches.map FieldRules.ofPushes := by
    intro branches
    induction branches with
    | nil => rfl
    | cons branch rest ih => rw [arrangeEach, ih, arrangeOnto_eq_foldl]; rfl
  rw [arrange, heach]

theorem rank_arrange (rule : Rule) : rule.arrange.rank = rule.rank := by
  cases rule <;> rfl

end Rule

namespace FieldRules

variable {rules : FieldRules} {pushed : List Rule} {rule : Rule}

/-! ## Pushing -/

/-- The ranks do not fall. -/
def Ordered (rules : FieldRules) : Prop := rules.Pairwise fun r s => r.rank ≤ s.rank

theorem mem_push {r : Rule} : r ∈ rules.push rule ↔ r = rule ∨ r ∈ rules := by
  induction rules with
  | nil => simp [push]
  | cons s rest ih =>
    rw [push]
    split
    · rw [List.mem_cons, ih, List.mem_cons, or_left_comm]
    · rw [List.mem_cons]

/-- Two parts of a list between which a rule belongs by its rank. -/
structure Splits (rules : FieldRules) (rule : Rule) (before after : FieldRules) : Prop where
  eq : rules = before ++ after
  before_le : ∀ r ∈ before, r.rank ≤ rule.rank
  lt_after : ∀ r ∈ after, rule.rank < r.rank

theorem Ordered.exists_splits (h : Ordered rules) (rule : Rule) :
    ∃ before after, Splits rules rule before after := by
  induction rules with
  | nil => exact ⟨[], [], rfl, fun _ hr => absurd hr List.not_mem_nil,
      fun _ hr => absurd hr List.not_mem_nil⟩
  | cons s rest ih =>
    obtain ⟨hhead, htail⟩ := List.pairwise_cons.mp h
    rcases Nat.lt_or_ge rule.rank s.rank with hlt | hle
    · refine ⟨[], s :: rest, rfl, fun _ hr => absurd hr List.not_mem_nil, ?_⟩
      exact List.forall_mem_cons.mpr ⟨hlt, fun r hr => Nat.lt_of_lt_of_le hlt (hhead r hr)⟩
    · obtain ⟨before, after, hsplit⟩ := ih htail
      exact ⟨s :: before, after, congrArg (s :: ·) hsplit.eq,
        List.forall_mem_cons.mpr ⟨hle, hsplit.before_le⟩, hsplit.lt_after⟩

/-- However its place is searched for, a pushed rule stands between the two parts. -/
theorem Splits.push_eq {before after : FieldRules} (h : Splits rules rule before after) :
    rules.push rule = before ++ rule :: after := by
  obtain ⟨rfl, hbefore, hafter⟩ := h
  induction before with
  | nil =>
    cases after with
    | nil => rfl
    | cons s rest => exact if_neg (Nat.not_le.mpr (hafter s List.mem_cons_self))
  | cons s rest ih =>
    obtain ⟨hs, hrest⟩ := List.forall_mem_cons.mp hbefore
    rw [List.cons_append, push, if_pos hs, ih hrest]
    rfl

theorem Ordered.push (h : Ordered rules) (rule : Rule) : Ordered (rules.push rule) := by
  obtain ⟨before, after, hsplit⟩ := h.exists_splits rule
  rw [Ordered, hsplit.eq] at h
  obtain ⟨hbefore, hafter, hcross⟩ := List.pairwise_append.mp h
  rw [Ordered, hsplit.push_eq]
  refine List.pairwise_append.mpr ⟨hbefore, List.pairwise_cons.mpr ⟨fun s hs =>
    Nat.le_of_lt (hsplit.lt_after s hs), hafter⟩, fun r hr => List.forall_mem_cons.mpr ?_⟩
  exact ⟨hsplit.before_le r hr, hcross r hr⟩

theorem ofPushes_append_singleton (pushed : List Rule) (rule : Rule) :
    ofPushes (pushed ++ [rule]) = (ofPushes pushed).push rule.arrange := by
  rw [ofPushes, List.foldl_append]
  rfl

theorem ordered_ofPushes (pushed : List Rule) : Ordered (ofPushes pushed) := by
  induction pushed using List.reverseRecOn with
  | nil => exact List.Pairwise.nil
  | append_singleton pushed rule ih =>
    rw [ofPushes_append_singleton]
    exact ih.push rule.arrange

theorem mem_ofPushes {r : Rule} : r ∈ ofPushes pushed ↔ ∃ rule ∈ pushed, rule.arrange = r := by
  induction pushed using List.reverseRecOn with
  | nil => simp [ofPushes]
  | append_singleton pushed rule ih =>
    rw [ofPushes_append_singleton, mem_push, ih]
    simp only [List.mem_append, List.mem_singleton]
    constructor
    · rintro (rfl | ⟨s, hs, rfl⟩)
      · exact ⟨rule, .inr rfl, rfl⟩
      · exact ⟨s, .inl hs, rfl⟩
    · rintro ⟨s, hs | rfl, rfl⟩
      · exact .inr ⟨s, hs, rfl⟩
      · exact .inl rfl

example : (ofPushes [.trait .even, .trim, .check (.maxLength 3)]).map Rule.name =
    ["$trim", "$even", "$maxLength"] := rfl

/-! ## What is found first -/

section Found

variable {β : Type} (f : Rule → Option β)

/-- What is found for a rule, with the rule. -/
def found (rule : Rule) : Option (Rule × β) := (f rule).map (rule, ·)

theorem map_snd_findSome?_found (rules : FieldRules) :
    (rules.findSome? (found f)).map Prod.snd = rules.findSome? f := by
  induction rules with
  | nil => rfl
  | cons r rest ih =>
    rw [List.findSome?_cons, List.findSome?_cons, found]
    cases f r with
    | none => exact ih
    | some b => rfl

theorem fst_of_found_eq_some {rule : Rule} {p : Rule × β} (h : found f rule = some p) :
    p.1 = rule := by
  obtain ⟨b, -, rfl⟩ := Option.map_eq_some_iff.mp h
  rfl

theorem fst_mem_of_findSome?_found {p : Rule × β} (h : rules.findSome? (found f) = some p) :
    p.1 ∈ rules := by
  obtain ⟨r, hr, hp⟩ := List.exists_of_findSome?_eq_some h
  rw [fst_of_found_eq_some f hp]
  exact hr

/-- A pushed rule is found first if nothing was found before, or only with rules of greater
rank. -/
theorem findSome?_push (h : Ordered rules) (rule : Rule) :
    (rules.push rule).findSome? (found f) =
      match rules.findSome? (found f), found f rule with
      | none, new => new
      | some old, none => some old
      | some old, some new => if rule.rank < old.1.rank then some new else some old := by
  obtain ⟨before, after, hsplit⟩ := h.exists_splits rule
  rw [hsplit.push_eq, hsplit.eq, List.findSome?_append, List.findSome?_append, List.findSome?_cons]
  cases hbefore : before.findSome? (found f) with
  | some old =>
    -- The old find stands before the pushed rule.
    cases found f rule with
    | none => rfl
    | some new =>
      have hrank := hsplit.before_le old.1 (fst_mem_of_findSome?_found f hbefore)
      exact (if_neg (Nat.not_lt.mpr hrank)).symm
  | none =>
    cases hafter : after.findSome? (found f) with
    | none => cases found f rule <;> rfl
    | some old =>
      cases found f rule with
      | none => rfl
      | some new =>
        have hrank := hsplit.lt_after old.1 (fst_mem_of_findSome?_found f hafter)
        exact (if_pos hrank).symm

/-- In a list made by pushes, what is found first is of least rank and, among equal ranks, pushed
first. -/
theorem findSome?_ofPushes (pushed : List Rule) :
    (ofPushes pushed).findSome? (found f) =
      ((pushed.filterMap (found (f ∘ Rule.arrange))).argmin fun p => p.1.rank).map
        (Prod.map Rule.arrange id) := by
  induction pushed using List.reverseRecOn with
  | nil => rfl
  | append_singleton pushed rule ih =>
    rw [ofPushes_append_singleton, findSome?_push f (ordered_ofPushes pushed), ih,
      List.filterMap_append]
    -- The last rule joins either list only if something is found for it.
    cases hnew : f rule.arrange with
    | none =>
      have hfound : found f rule.arrange = none := by rw [found, hnew]; rfl
      have hsingle : [rule].filterMap (found (f ∘ Rule.arrange)) = [] := by
        simp [found, hnew]
      rw [hfound, hsingle, List.append_nil]
      cases List.argmin (fun p => p.1.rank)
        (pushed.filterMap (found (f ∘ Rule.arrange))) <;> rfl
    | some b =>
      have hfound : found f rule.arrange = some (rule.arrange, b) := by rw [found, hnew]; rfl
      have hsingle : [rule].filterMap (found (f ∘ Rule.arrange)) = [(rule, b)] := by
        simp [found, hnew]
      rw [hfound, hsingle, List.argmin_concat]
      cases List.argmin (fun p => p.1.rank) (pushed.filterMap (found (f ∘ Rule.arrange))) with
      | none => rfl
      | some old =>
        simp only [Option.map_some, Prod.map, Rule.rank_arrange]
        split <;> rfl

end Found

/-! ## What a list has -/

/-- Whether white space around a string is dropped. -/
def trims (rules : FieldRules) : Bool :=
  rules.any fun
    | .trim => true
    | _ => false

theorem trims_iff : rules.trims = true ↔ Rule.trim ∈ rules := by
  rw [trims, List.any_eq_true]
  constructor
  · rintro ⟨r, hr, h⟩
    cases r with
    | trim => exact hr
    | fallback | required | check | anyOf | noneOf => nomatch h
  · exact fun h => ⟨.trim, h, rfl⟩

theorem any_ofPushes (p : Rule → Bool) (hp : ∀ rule : Rule, p rule.arrange = p rule)
    (pushed : List Rule) : (ofPushes pushed).any p = pushed.any p := by
  rw [Bool.eq_iff_iff, List.any_eq_true, List.any_eq_true]
  constructor
  · rintro ⟨r, hr, h⟩
    obtain ⟨rule, hrule, rfl⟩ := mem_ofPushes.mp hr
    exact ⟨rule, hrule, (hp rule).symm.trans h⟩
  · rintro ⟨rule, hrule, h⟩
    exact ⟨rule.arrange, mem_ofPushes.mpr ⟨rule, hrule, rfl⟩, (hp rule).trans h⟩

theorem isRequired_ofPushes (pushed : List Rule) :
    (ofPushes pushed).isRequired = FieldRules.isRequired pushed :=
  any_ofPushes _ (fun rule => by cases rule <;> rfl) pushed

theorem trims_ofPushes (pushed : List Rule) : (ofPushes pushed).trims = trims pushed :=
  any_ofPushes _ (fun rule => by cases rule <;> rfl) pushed

/-- The fallback value that a rule gives, if it gives one. -/
def fallbackOf? : Rule → Option Value
  | .fallback value => some value
  | _ => none

theorem fallback?_eq_findSome? (rules : FieldRules) :
    rules.fallback? = rules.findSome? fallbackOf? := by
  induction rules with
  | nil => rfl
  | cons r rest ih =>
    rw [List.findSome?_cons, ← ih]
    cases r <;> rfl

theorem fallbackOf?_of_rank_pos {r : Rule} (h : 0 < r.rank) : fallbackOf? r = none := by
  cases r with
  | fallback => nomatch h
  | required | trim | check | anyOf | noneOf => rfl

/-- No rule has a smaller rank than one with a fallback value, so none comes before it that is
pushed after it. -/
theorem fallback?_push (h : Ordered rules) (rule : Rule) :
    (rules.push rule).fallback? = rules.fallback?.or (fallbackOf? rule) := by
  obtain ⟨before, after, hsplit⟩ := h.exists_splits rule
  have hafter : after.findSome? fallbackOf? = none :=
    List.findSome?_eq_none_iff.mpr fun r hr =>
      fallbackOf?_of_rank_pos (Nat.zero_lt_of_lt (hsplit.lt_after r hr))
  rw [fallback?_eq_findSome?, fallback?_eq_findSome?, hsplit.push_eq, hsplit.eq,
    List.findSome?_append, List.findSome?_append, List.findSome?_cons, hafter, Option.or_none]
  cases fallbackOf? rule <;> rfl

/-- The fallback value is the one that was pushed first. -/
theorem fallback?_ofPushes (pushed : List Rule) :
    (ofPushes pushed).fallback? = pushed.findSome? fallbackOf? := by
  induction pushed using List.reverseRecOn with
  | nil => rfl
  | append_singleton pushed rule ih =>
    have harrange : fallbackOf? rule.arrange = fallbackOf? rule := by cases rule <;> rfl
    rw [ofPushes_append_singleton, fallback?_push (ordered_ofPushes pushed), ih, harrange,
      List.findSome?_append, List.findSome?_cons]
    cases fallbackOf? rule <;> rfl

end FieldRules

/-! ## Evaluation in order -/

namespace Rule

variable {policy : ValidationPolicy} {rules : FieldRules}

/-- Why a value was rejected, if it was. -/
def rejectionOf (result : Except Rejection Value) : Option Rejection :=
  match result with
  | .ok _ => none
  | .error rejection => some rejection

theorem anyAccepts_eq_any (policy : ValidationPolicy) (branches : List FieldRules)
    (value : Value) : anyAccepts policy branches value =
      branches.any fun branch => accepted (FieldRules.validate policy branch value) := by
  induction branches with
  | nil => rfl
  | cons branch rest ih => rw [anyAccepts, ih]; rfl

theorem trimmed_trimmed (value : Value) : trimmed (trimmed value) = trimmed value := by
  cases value with
  | str s => rw [trimmed, trimmed, String.toList_ofList, Unicode.trim_trim]
  | null | bool | num | arr | obj => rfl

/-- The value that the checks of a list see. -/
def seen (rules : FieldRules) (value : Value) : Value :=
  if rules.trims then trimmed value else value

theorem seen_ofPushes (pushed : List Rule) (value : Value) :
    seen (FieldRules.ofPushes pushed) value = seen pushed value := by
  rw [seen, seen, FieldRules.trims_ofPushes]

theorem two_lt_rank_check (c : Check) : 2 < c.rank := by
  cases c with
  | trait t => cases t <;> decide
  | _ => simp [Check.rank]

theorem eq_of_rank_le_two {r : Rule} (h : r.rank ≤ 2) :
    (∃ value, r = .fallback value) ∨ r = .required ∨ r = .trim := by
  cases r with
  | fallback value => exact .inl ⟨value, rfl⟩
  | required => exact .inr (.inl rfl)
  | trim => exact .inr (.inr rfl)
  | check c => exact absurd h (Nat.not_le.mpr (two_lt_rank_check c))
  | anyOf | noneOf => simp [rank] at h

theorem seen_of_two_lt_rank (h : ∀ r ∈ rules, 2 < r.rank) (value : Value) :
    seen rules value = value := by
  have htrims : ¬ rules.trims = true := fun ht =>
    Nat.lt_irrefl 2 (h .trim (FieldRules.trims_iff.mp ht))
  rw [seen, if_neg htrims]

/-- A rule that comes after the trimming rules gives a value unchanged or rejects it. -/
theorem apply_of_two_lt_rank {r : Rule} (h : 2 < r.rank) (value : Value) :
    apply policy r value = match rejectionOf (apply policy r value) with
      | none => .ok value
      | some rejection => .error rejection := by
  cases r with
  | fallback | required | trim => simp [rank] at h
  | check c =>
    rw [apply]
    cases evaluate c value <;> rfl
  | anyOf branches =>
    rw [apply]
    split <;> rfl
  | noneOf inner =>
    rw [apply]
    split <;> rfl

/-- The rules in order let a value pass, trimmed where they say so, that none of them rejects,
and otherwise the first one that rejects it decides. -/
theorem applyAll_of_ordered (h : rules.Ordered) (value : Value) :
    applyAll policy rules value =
      match rules.findSome? fun r => rejectionOf (apply policy r (seen rules value)) with
      | none => .ok (seen rules value)
      | some rejection => .error rejection := by
  induction rules generalizing value with
  | nil => rfl
  | cons r rest ih =>
    obtain ⟨hhead, htail⟩ := List.pairwise_cons.mp h
    rcases Nat.lt_or_ge 2 r.rank with hrank | hrank
    · -- No trimming rule comes after a check, so both see the value as it is.
      have hrest : ∀ s ∈ rest, 2 < s.rank := fun s hs => Nat.lt_of_lt_of_le hrank (hhead s hs)
      have ih := ih htail value
      rw [seen_of_two_lt_rank hrest] at ih
      rw [seen_of_two_lt_rank (List.forall_mem_cons.mpr ⟨hrank, hrest⟩), applyAll,
        List.findSome?_cons]
      have happly : apply policy r value = _ := apply_of_two_lt_rank hrank value
      cases hresult : rejectionOf (apply policy r value) with
      | none =>
        rw [hresult] at happly
        rw [happly]
        exact ih
      | some rejection =>
        rw [hresult] at happly
        rw [happly]
    · rcases eq_of_rank_le_two hrank with ⟨fallback, rfl⟩ | rfl | rfl
      · exact ih htail value
      · exact ih htail value
      · have hseen : seen rest (trimmed value) = trimmed value := by
          rw [seen, trimmed_trimmed, ite_self]
        have ih := ih htail (trimmed value)
        rw [hseen] at ih
        exact ih

end Rule
end Amend
