/-
Documents by groups.  However a document is made, each operator has one group in it and no group
is empty.  Pushing the entries of such a document behind those of another one appends its groups,
and so its entries, if no operator is in both: an operator in both would draw its entries forward
to the group that it has already.
-/
import Amend.Engine.Document
import Mathlib.Data.List.Nodup

namespace Amend
namespace Document

variable {doc first second : Document} {op : Operator}
  {groups : List (Operator × List (String × Operand))}

/-- The operators of the groups in order. -/
def operators (doc : Document) : List Operator := doc.groups.map Prod.fst

/-- Each operator has one group, and each group an entry. -/
structure Grouped (doc : Document) : Prop where
  once : doc.operators.Nodup
  filled : ∀ group ∈ doc.groups, group.2 ≠ []

/-! ## One entry -/

theorem pushGroup_of_not_mem (h : op ∉ groups.map Prod.fst) (entry : String × Operand) :
    pushGroup op entry groups = groups ++ [(op, [entry])] := by
  induction groups with
  | nil => rfl
  | cons group rest ih =>
    rw [List.map_cons, List.mem_cons, not_or] at h
    rw [pushGroup, if_neg (Ne.symm h.1), ih h.2]
    rfl

theorem pushGroup_append (h : op ∉ groups.map Prod.fst) (entry : String × Operand)
    (entries : List (String × Operand)) (rest : List (Operator × List (String × Operand))) :
    pushGroup op entry (groups ++ (op, entries) :: rest) =
      groups ++ (op, entries ++ [entry]) :: rest := by
  induction groups with
  | nil => exact if_pos rfl
  | cons group others ih =>
    rw [List.map_cons, List.mem_cons, not_or] at h
    rw [List.cons_append, pushGroup, if_neg (Ne.symm h.1), ih h.2]
    rfl

/-- An operator with a group has a first one. -/
theorem exists_first_group (h : op ∈ groups.map Prod.fst) :
    ∃ before entries after, groups = before ++ (op, entries) :: after ∧
      op ∉ before.map Prod.fst := by
  obtain ⟨others, rest, hsplit, hfirst⟩ := List.eq_append_cons_of_mem h
  obtain ⟨before, tail, rfl, rfl, htail⟩ := List.map_eq_append_iff.mp hsplit
  obtain ⟨⟨_, entries⟩, after, rfl, rfl, -⟩ := List.map_eq_cons_iff.mp htail
  exact ⟨before, entries, after, rfl, hfirst⟩

theorem grouped_empty : Grouped empty := ⟨.nil, nofun⟩

theorem Grouped.push (h : doc.Grouped) (op : Operator) (path : String) (operand : Operand) :
    (doc.push op path operand).Grouped := by
  obtain ⟨groups⟩ := doc
  by_cases hop : op ∈ groups.map Prod.fst
  · obtain ⟨before, entries, after, rfl, hfirst⟩ := exists_first_group hop
    have hpush : (push ⟨before ++ (op, entries) :: after⟩ op path operand).groups =
        before ++ (op, entries ++ [(path, operand)]) :: after :=
      pushGroup_append hfirst _ _ _
    constructor
    · have honce := h.once
      rw [operators, List.map_append, List.map_cons] at honce
      rw [operators, hpush, List.map_append, List.map_cons]
      exact honce
    · intro group hgroup
      rw [hpush, List.mem_append, List.mem_cons] at hgroup
      rcases hgroup with hbefore | rfl | hafter
      · exact h.filled group (List.mem_append_left _ hbefore)
      · exact List.append_ne_nil_of_right_ne_nil _ (List.cons_ne_nil _ _)
      · exact h.filled group (List.mem_append_right _ (List.mem_cons_of_mem _ hafter))
  · have hpush : (push ⟨groups⟩ op path operand).groups = groups ++ [(op, [(path, operand)])] :=
      pushGroup_of_not_mem hop _
    constructor
    · rw [operators, hpush, List.map_append]
      refine List.nodup_append.mpr ⟨h.once, List.nodup_singleton op, ?_⟩
      intro other hother last hlast heq
      have hsame : other = op := heq.trans (List.mem_singleton.mp hlast)
      exact hop (hsame ▸ hother)
    · intro group hgroup
      rw [hpush, List.mem_append, List.mem_singleton] at hgroup
      rcases hgroup with hold | rfl
      · exact h.filled group hold
      · exact List.cons_ne_nil _ _

/-! ## Whole documents -/

theorem Grouped.pushMembers (h : doc.Grouped) (op : Operator) (members : List (String × Value)) :
    (doc.pushMembers op members).Grouped := by
  induction members generalizing doc with
  | nil => exact h
  | cons member rest ih => exact ih (h.push op member.1 (.value member.2))

theorem Grouped.ofMembers {out : Document} {members : List (String × Value)} (h : doc.Grouped)
    (hout : doc.ofMembers members = .ok out) : out.Grouped := by
  induction members generalizing doc with
  | nil => exact Except.ok.inj hout ▸ h
  | cons member rest ih =>
    obtain ⟨name, group⟩ := member
    rw [Document.ofMembers] at hout
    cases hop : Operator.ofName? name with
    | none =>
      rw [hop] at hout
      nomatch hout
    | some op =>
      rw [hop] at hout
      cases group with
      | obj members => exact ih (h.pushMembers op members) hout
      | null | bool | num | str | arr => nomatch hout

/-- Every document that is read has one group for each of its operators. -/
theorem grouped_of_ofJson {v : Value} (h : ofJson v = .ok doc) : doc.Grouped := by
  cases v with
  | obj members => exact grouped_empty.ofMembers h
  | null | bool | num | str | arr => nomatch h

def pushAll (doc : Document) (entries : List Entry) : Document :=
  entries.foldl (fun doc entry => doc.push entry.operator entry.path entry.operand) doc

theorem pushAll_append (doc : Document) (entries more : List Entry) :
    doc.pushAll (entries ++ more) = (doc.pushAll entries).pushAll more :=
  List.foldl_append

theorem Grouped.pushAll (h : doc.Grouped) (entries : List Entry) :
    (doc.pushAll entries).Grouped := by
  induction entries generalizing doc with
  | nil => exact h
  | cons entry rest ih => exact ih (h.push entry.operator entry.path entry.operand)

def groupEntries (group : Operator × List (String × Operand)) : List Entry :=
  group.2.map fun (path, operand) => ⟨group.1, path, operand⟩

theorem entries_eq_flatMap (doc : Document) : doc.entries = doc.groups.flatMap groupEntries := rfl

/-- The last group takes all further entries of its operator. -/
theorem pushAll_groupEntries (h : op ∉ groups.map Prod.fst)
    (entries new : List (String × Operand)) :
    pushAll ⟨groups ++ [(op, entries)]⟩ (groupEntries (op, new)) =
      ⟨groups ++ [(op, entries ++ new)]⟩ := by
  induction new generalizing entries with
  | nil =>
    rw [List.append_nil]
    rfl
  | cons entry rest ih =>
    have hpush : push ⟨groups ++ [(op, entries)]⟩ op entry.1 entry.2 =
        ⟨groups ++ [(op, entries ++ [entry])]⟩ :=
      congrArg Document.mk (pushGroup_append h entry entries [])
    have hrest := ih (entries ++ [entry])
    rw [List.append_assoc, ← hpush] at hrest
    exact hrest

theorem pushAll_group_of_not_mem {new : List (String × Operand)} (h : op ∉ doc.operators)
    (hnew : new ≠ []) : doc.pushAll (groupEntries (op, new)) = ⟨doc.groups ++ [(op, new)]⟩ := by
  obtain ⟨entry, rest, rfl⟩ := List.exists_cons_of_ne_nil hnew
  have hpush : doc.push op entry.1 entry.2 = ⟨doc.groups ++ [(op, [entry])]⟩ :=
    congrArg Document.mk (pushGroup_of_not_mem h entry)
  have hrest := pushAll_groupEntries h [entry] rest
  rw [← hpush] at hrest
  exact hrest

/-- Pushing the entries of a document whose operators are all new appends its groups. -/
theorem groups_pushAll (hsecond : second.Grouped)
    (hdisjoint : first.operators.Disjoint second.operators) :
    (first.pushAll second.entries).groups = first.groups ++ second.groups := by
  obtain ⟨groups⟩ := second
  -- Group by group: each is new where it is pushed, since no group before it has its operator.
  induction groups generalizing first with
  | nil => exact (List.append_nil _).symm
  | cons group rest ih =>
    have hgroup : first.pushAll (groupEntries group) = ⟨first.groups ++ [group]⟩ :=
      pushAll_group_of_not_mem (fun h => hdisjoint h List.mem_cons_self)
        (hsecond.filled group List.mem_cons_self)
    have honce : group.1 ∉ operators ⟨rest⟩ ∧ (operators ⟨rest⟩).Nodup :=
      List.nodup_cons.mp hsecond.once
    have hrest : Grouped ⟨rest⟩ :=
      ⟨honce.2, fun other h => hsecond.filled other (List.mem_cons_of_mem _ h)⟩
    have hnext : (operators ⟨first.groups ++ [group]⟩).Disjoint (operators ⟨rest⟩) := by
      rw [operators, List.map_append, List.disjoint_append_left]
      refine ⟨fun op hop h => hdisjoint hop (List.mem_cons_of_mem _ h), ?_⟩
      exact List.singleton_disjoint.mpr honce.1
    have hentries : entries ⟨group :: rest⟩ = groupEntries group ++ entries ⟨rest⟩ := rfl
    rw [hentries, pushAll_append, hgroup, ih hrest hnext, List.append_assoc]
    rfl

theorem entries_pushAll (hsecond : second.Grouped)
    (hdisjoint : first.operators.Disjoint second.operators) :
    (first.pushAll second.entries).entries = first.entries ++ second.entries := by
  have hgroups := groups_pushAll hsecond hdisjoint
  rw [entries_eq_flatMap, hgroups, List.flatMap_append]
  rfl

end Document
end Amend
