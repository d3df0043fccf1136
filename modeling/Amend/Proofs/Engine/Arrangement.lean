/-
The order of the entries of a document.  Pushed one after the other, entries come to stand by where
their operator was pushed first, and those of one operator in the order of their pushes.  A document
that is read lists its members group by group, as they stand in it; the first member that names no
operator or holds no group decides why a document is refused.
-/
import Amend.Proofs.Engine.Grouping
import Amend.Proofs.Json.Members
import Amend.Proofs.Outcome
import Amend.Proofs.Sorting

namespace Amend

namespace Operator

theorem name_of_mem_table : ∀ row ∈ table, row.1.name = row.2 := by decide

theorem ofName?_name (op : Operator) : ofName? op.name = some op := by
  cases op with
  | toggle => rfl
  | global op | numeric op | text op | object op | array op => cases op <;> rfl

/-- Each operator has a name of its own. -/
theorem ofName?_eq_some_iff {name : String} {op : Operator} :
    ofName? name = some op ↔ op.name = name := by
  constructor
  · intro h
    obtain ⟨row, hrow, rfl⟩ := Option.map_eq_some_iff.mp h
    rw [name_of_mem_table row (List.mem_of_find?_eq_some hrow)]
    simpa using List.find?_some hrow
  · rintro rfl
    exact ofName?_name op

example : all.length = 47 ∧ all.Nodup := by decide

end Operator

/-! ## First occurrences -/

section FirstOccurrences

variable {β : Type} [DecidableEq β]

/-- What is left when repetitions are dropped stands by where it came first. -/
theorem pairwise_idxOf_eraseDups (items : List β) :
    items.eraseDups.Pairwise fun a b => items.idxOf a ≤ items.idxOf b := by
  induction items using List.reverseRecOn with
  | nil => exact List.Pairwise.nil
  | append_singleton items item ih =>
    have hold : items.eraseDups.Pairwise fun a b =>
        (items ++ [item]).idxOf a ≤ (items ++ [item]).idxOf b := by
      refine ih.imp_of_mem fun {a b} ha hb hab => ?_
      rwa [List.idxOf_append_of_mem (List.mem_eraseDups.mp ha),
        List.idxOf_append_of_mem (List.mem_eraseDups.mp hb)]
    rw [Members.eraseDups_append_singleton]
    split
    · exact hold
    · next hnew =>
      refine List.pairwise_append.mpr ⟨hold, List.pairwise_singleton _ _, fun a ha b hb => ?_⟩
      have hitem : item ∉ items := mt List.mem_eraseDups.mpr hnew
      have hamem : a ∈ items := List.mem_eraseDups.mp ha
      have hlt : items.idxOf a < items.length := List.idxOf_lt_length_of_mem hamem
      rw [List.mem_singleton.mp hb, List.idxOf_append_of_mem hamem,
        List.idxOf_append_of_notMem hitem]
      omega

end FirstOccurrences

namespace Document

variable {pushed : List Entry} {op : Operator}

/-! ## Groups -/

/-- The operators in the order in which they were pushed first. -/
def firstSeen (pushed : List Entry) : List Operator := (pushed.map Entry.operator).eraseDups

/-- What was pushed for one operator. -/
def pushedFor (pushed : List Entry) (op : Operator) : List Entry :=
  pushed.filter fun entry => entry.operator = op

/-- Where the operator of an entry was pushed first. -/
def firstPush (pushed : List Entry) (entry : Entry) : Nat :=
  (pushed.map Entry.operator).idxOf entry.operator

theorem mem_firstSeen : op ∈ firstSeen pushed ↔ ∃ entry ∈ pushed, entry.operator = op := by
  rw [firstSeen, List.mem_eraseDups, List.mem_map]

theorem firstSeen_append_singleton (pushed : List Entry) (entry : Entry) :
    firstSeen (pushed ++ [entry]) = if entry.operator ∈ firstSeen pushed then firstSeen pushed
      else firstSeen pushed ++ [entry.operator] := by
  rw [firstSeen, List.map_append, List.map_singleton, Members.eraseDups_append_singleton]
  rfl

theorem pushedFor_append_singleton (pushed : List Entry) (entry : Entry) (op : Operator) :
    pushedFor (pushed ++ [entry]) op =
      if op = entry.operator then pushedFor pushed op ++ [entry] else pushedFor pushed op := by
  rw [pushedFor, List.filter_append]
  by_cases h : op = entry.operator
  · simp [pushedFor, h]
  · simp [pushedFor, h, Ne.symm h]

theorem pushedFor_eq_nil (h : op ∉ firstSeen pushed) : pushedFor pushed op = [] := by
  rw [pushedFor, List.filter_eq_nil_iff]
  intro entry hentry
  simpa using fun hop => h (mem_firstSeen.mpr ⟨entry, hentry, hop⟩)

/-- An entry joins the group of its operator, or starts a group behind all others. -/
theorem pushGroup_map {ops : List Operator} (hops : ops.Nodup)
    {contents : Operator → List (String × Operand)} (hnew : op ∉ ops → contents op = [])
    (entry : String × Operand) :
    pushGroup op entry (ops.map fun o => (o, contents o)) =
      (if op ∈ ops then ops else ops ++ [op]).map fun o =>
        (o, if o = op then contents o ++ [entry] else contents o) := by
  have hothers : ∀ others : List Operator, op ∉ others →
      (others.map fun o => (o, if o = op then contents o ++ [entry] else contents o)) =
        others.map fun o => (o, contents o) := by
    intro others hop
    refine List.map_congr_left fun o ho => ?_
    have hne : o ≠ op := fun heq => hop (heq ▸ ho)
    rw [if_neg hne]
  by_cases h : op ∈ ops
  · obtain ⟨before, after, rfl, hbefore⟩ := List.eq_append_cons_of_mem h
    have hafter : op ∉ after := (List.nodup_cons.mp (List.nodup_append.mp hops).2.1).1
    have hfirst : op ∉ (before.map fun o => (o, contents o)).map Prod.fst := by
      simpa using hbefore
    rw [if_pos h, List.map_append, List.map_cons, pushGroup_append hfirst, List.map_append,
      List.map_cons, hothers before hbefore, hothers after hafter, if_pos rfl]
  · have hfirst : op ∉ (ops.map fun o => (o, contents o)).map Prod.fst := by simpa using h
    rw [if_neg h, pushGroup_of_not_mem hfirst, List.map_append, hothers ops h, List.map_singleton,
      if_pos rfl, hnew h]
    rfl

/-- A document made by pushes has a group for each operator that was pushed, in the order in which
they came first, with what was pushed for it. -/
theorem groups_pushAll_empty (pushed : List Entry) :
    (empty.pushAll pushed).groups = (firstSeen pushed).map fun op =>
      (op, (pushedFor pushed op).map fun entry => (entry.path, entry.operand)) := by
  induction pushed using List.reverseRecOn with
  | nil => rfl
  | append_singleton pushed entry ih =>
    have hops : (firstSeen pushed).Nodup := by
      have honce := (grouped_empty.pushAll pushed).once
      rw [operators, ih, List.map_map] at honce
      simpa [Function.comp_def] using honce
    have hnew : entry.operator ∉ firstSeen pushed →
        ((pushedFor pushed entry.operator).map fun entry => (entry.path, entry.operand)) = [] := by
      intro h
      rw [pushedFor_eq_nil h]
      rfl
    have hpush : (empty.pushAll (pushed ++ [entry])).groups =
        pushGroup entry.operator (entry.path, entry.operand) (empty.pushAll pushed).groups := by
      rw [pushAll_append]
      rfl
    rw [hpush, ih, pushGroup_map hops hnew, firstSeen_append_singleton]
    refine List.map_congr_left fun op _ => ?_
    rw [pushedFor_append_singleton]
    by_cases h : op = entry.operator <;> simp [h]

theorem operators_pushAll_empty (pushed : List Entry) :
    (empty.pushAll pushed).operators = firstSeen pushed := by
  rw [operators, groups_pushAll_empty, List.map_map]
  exact List.map_id _

theorem entries_pushAll_empty (pushed : List Entry) :
    (empty.pushAll pushed).entries = (firstSeen pushed).flatMap (pushedFor pushed) := by
  rw [entries_eq_flatMap, groups_pushAll_empty, List.flatMap_map]
  refine List.flatMap_congr fun op _ => ?_
  rw [groupEntries, List.map_map]
  -- Its operator is what an entry has beside the contents of its group.
  have hentry : ∀ entry ∈ pushedFor pushed op,
      (⟨op, entry.path, entry.operand⟩ : Entry) = entry := by
    intro entry hentry
    have hop : entry.operator = op := by simpa using (List.mem_filter.mp hentry).2
    rw [← hop]
  exact (List.map_congr_left hentry).trans (List.map_id _)

/-! ## Entries -/

theorem filter_flatMap_pushedFor {ops : List Operator} (hops : ops.Nodup) (op : Operator) :
    (ops.flatMap (pushedFor pushed)).filter (fun entry => entry.operator = op) =
      if op ∈ ops then pushedFor pushed op else [] := by
  induction ops with
  | nil => rfl
  | cons o rest ih =>
    obtain ⟨ho, hrest⟩ := List.nodup_cons.mp hops
    have hself : (pushedFor pushed o).filter (fun entry => entry.operator = op) =
        if o = op then pushedFor pushed op else [] := by
      rw [pushedFor, List.filter_filter]
      by_cases h : o = op
      · subst h
        simp [pushedFor]
      · rw [if_neg h, List.filter_eq_nil_iff]
        intro entry _
        simp only [Bool.and_eq_true, decide_eq_true_eq, not_and]
        intro hop ho
        exact h (ho.symm.trans hop)
    rw [List.flatMap_cons, List.filter_append, ih hrest, hself]
    by_cases h : o = op
    · subst h
      simp [ho]
    · simp [h, Ne.symm h]

/-- The entries of one operator stay in the order of their pushes. -/
theorem filter_entries_pushAll (pushed : List Entry) (op : Operator) :
    (empty.pushAll pushed).entries.filter (fun entry => entry.operator = op) =
      pushed.filter fun entry => entry.operator = op := by
  have hops : (firstSeen pushed).Nodup :=
    operators_pushAll_empty pushed ▸ (grouped_empty.pushAll pushed).once
  rw [entries_pushAll_empty, filter_flatMap_pushedFor hops]
  by_cases h : op ∈ firstSeen pushed
  · rw [if_pos h, pushedFor]
  · rw [if_neg h]
    exact (pushedFor_eq_nil h).symm

theorem pairwise_entries_pushAll (pushed : List Entry) :
    (empty.pushAll pushed).entries.Pairwise fun a b => firstPush pushed a ≤ firstPush pushed b := by
  have hop : ∀ {op : Operator}, ∀ entry ∈ pushedFor pushed op,
      firstPush pushed entry = (pushed.map Entry.operator).idxOf op := by
    intro op entry hentry
    have hop : entry.operator = op := by simpa using (List.mem_filter.mp hentry).2
    rw [firstPush, hop]
  rw [entries_pushAll_empty, List.pairwise_flatMap]
  constructor
  · intro op _
    refine List.pairwise_of_forall_mem_list fun a ha b hb => ?_
    rw [hop a ha, hop b hb]
  · refine (pairwise_idxOf_eraseDups _).imp fun {op op'} hle a ha b hb => ?_
    rw [hop a ha, hop b hb]
    exact hle

/-- Entries of one first push are those of one operator. -/
theorem entries_pushAll_eq_sortedBy (pushed : List Entry) :
    (empty.pushAll pushed).entries = sortedBy (firstPush pushed) pushed := by
  refine eq_sortedBy (pairwise_entries_pushAll pushed) fun k => ?_
  have hmem : ∀ {entry : Entry}, entry ∈ (empty.pushAll pushed).entries → entry ∈ pushed := by
    intro entry hentry
    rw [entries_pushAll_empty, List.mem_flatMap] at hentry
    obtain ⟨op, -, hentry⟩ := hentry
    exact (List.mem_filter.mp hentry).1
  by_cases hk : ∃ first ∈ pushed, firstPush pushed first = k
  · obtain ⟨first, hfirst, rfl⟩ := hk
    have hoperator : ∀ entry ∈ pushed,
        decide (firstPush pushed entry = firstPush pushed first) =
          decide (entry.operator = first.operator) := by
      intro entry hentry
      have hmem : entry.operator ∈ pushed.map Entry.operator := List.mem_map_of_mem hentry
      exact decide_eq_decide.mpr (List.idxOf_inj hmem)
    rw [List.filter_congr hoperator,
      List.filter_congr fun entry hentry => hoperator entry (hmem hentry)]
    exact filter_entries_pushAll pushed first.operator
  · have hnone : ∀ entry ∈ pushed, ¬ decide (firstPush pushed entry = k) = true := by
      intro entry hentry h
      exact hk ⟨entry, hentry, of_decide_eq_true h⟩
    rw [List.filter_eq_nil_iff.mpr hnone,
      List.filter_eq_nil_iff.mpr fun entry hentry => hnone entry (hmem hentry)]

theorem size_eq_length_entries (doc : Document) : doc.size = doc.entries.length := by
  obtain ⟨groups⟩ := doc
  have hfrom : ∀ n : Nat, groups.foldl (fun n group => n + group.2.length) n =
      n + (groups.flatMap groupEntries).length := by
    induction groups with
    | nil => intro n; rfl
    | cons group rest ih =>
      intro n
      rw [List.foldl_cons, ih, List.flatMap_cons, List.length_append, groupEntries,
        List.length_map, Nat.add_assoc]
  have hsize := hfrom 0
  rw [Nat.zero_add] at hsize
  exact hsize

/-- A document in which what was pushed stands in order: none of it lost, doubled or changed, with
one group for each operator, and nothing moved past entries of its own operator. -/
structure Arranged (pushed : List Entry) (doc : Document) : Prop where
  sorted : doc.entries = sortedBy (firstPush pushed) pushed
  perm : doc.entries.Perm pushed
  grouped : doc.Grouped
  firstSeen : doc.operators = firstSeen pushed
  inOrder : ∀ op, doc.entries.filter (fun entry => entry.operator = op) = pushedFor pushed op
  size : doc.size = pushed.length

theorem arranged_pushAll (pushed : List Entry) : Arranged pushed (empty.pushAll pushed) := by
  have hsorted := entries_pushAll_eq_sortedBy pushed
  have hperm : (empty.pushAll pushed).entries.Perm pushed := by
    rw [hsorted]
    exact List.mergeSort_perm pushed _
  exact {
    sorted := hsorted
    perm := hperm
    grouped := grouped_empty.pushAll pushed
    firstSeen := operators_pushAll_empty pushed
    inOrder := filter_entries_pushAll pushed
    size := (size_eq_length_entries _).trans hperm.length_eq }

/-! ## Reading -/

/-- A member that is a group of a document: the name of an operator, with an object. -/
def IsGroup (member : String × Value) : Prop :=
  (∃ op : Operator, op.name = member.1) ∧ ∃ fields, member.2 = .obj fields

/-- What a group of a document holds. -/
def contents (fields : Members Value) : List (String × Operand) :=
  fields.map fun field => (field.1, .value field.2)

/-- The entries that members list, group by group. -/
def listed (members : Members Value) : List Entry :=
  members.flatMap fun (name, group) =>
    match Operator.ofName? name, group with
    | some op, .obj fields => groupEntries (op, contents fields)
    | _, _ => []

/-- Why a value is no document.  Of its members the first that is no group decides. -/
inductive Refused : Value → UpdateError → Prop
  | noObject {v : Value} (h : ∀ members, v ≠ .obj members) :
    Refused v (.operator wholeName "" .documentShape)
  | noOperator {before after : Members Value} {name : String} {group : Value}
    (hbefore : ∀ member ∈ before, IsGroup member) (h : ∀ op : Operator, op.name ≠ name) :
    Refused (.obj (before ++ (name, group) :: after)) (.unknownOperator name)
  | noGroup {before after : Members Value} {op : Operator} {group : Value}
    (hbefore : ∀ member ∈ before, IsGroup member) (h : ∀ fields, group ≠ .obj fields) :
    Refused (.obj (before ++ (op.name, group) :: after)) (.operator op.name "" .groupShape)

variable {doc : Document} {members rest : Members Value} {v : Value} {e : UpdateError}

theorem listed_cons_group (op : Operator) (fields : Members Value) (rest : Members Value) :
    listed ((op.name, .obj fields) :: rest) =
      groupEntries (op, contents fields) ++ listed rest := by
  rw [listed, List.flatMap_cons]
  simp only [Operator.ofName?_name]
  rfl

theorem pushMembers_eq_pushAll (doc : Document) (op : Operator) (fields : Members Value) :
    doc.pushMembers op fields = doc.pushAll (groupEntries (op, contents fields)) := by
  rw [pushMembers, pushAll, groupEntries, contents, List.map_map, List.foldl_map]
  rfl

/-- Groups are pushed entry by entry before the members behind them are read. -/
theorem ofMembers_append (h : ∀ member ∈ members, IsGroup member) (doc : Document)
    (rest : Members Value) :
    doc.ofMembers (members ++ rest) = (doc.pushAll (listed members)).ofMembers rest := by
  induction members generalizing doc with
  | nil => rfl
  | cons member members ih =>
    obtain ⟨hmember, hmembers⟩ := List.forall_mem_cons.mp h
    obtain ⟨name, group⟩ := member
    obtain ⟨⟨op, rfl⟩, fields, rfl⟩ := hmember
    rw [List.cons_append, ofMembers, Operator.ofName?_name]
    show (doc.pushMembers op fields).ofMembers (members ++ rest) = _
    rw [ih hmembers, listed_cons_group, pushMembers_eq_pushAll, pushAll_append]

theorem Refused.cons {member : String × Value} (h : Refused (.obj rest) e)
    (hmember : IsGroup member) : Refused (.obj (member :: rest)) e := by
  cases h with
  | noObject h => exact absurd rfl (h rest)
  | noOperator hbefore h => exact .noOperator (List.forall_mem_cons.mpr ⟨hmember, hbefore⟩) h
  | noGroup hbefore h => exact .noGroup (List.forall_mem_cons.mpr ⟨hmember, hbefore⟩) h

/-- Members are all groups, or one of them is the first that is none. -/
theorem forall_isGroup_or_refused (members : Members Value) :
    (∀ member ∈ members, IsGroup member) ∨ ∃ e, Refused (.obj members) e := by
  induction members with
  | nil => exact .inl fun _ h => absurd h List.not_mem_nil
  | cons member rest ih =>
    obtain ⟨name, group⟩ := member
    have hnone : ∀ member ∈ ([] : Members Value), IsGroup member :=
      fun _ h => absurd h List.not_mem_nil
    by_cases hname : ∃ op : Operator, op.name = name
    · by_cases hgroup : ∃ fields, group = .obj fields
      · rcases ih with hall | ⟨e, he⟩
        · exact .inl (List.forall_mem_cons.mpr ⟨⟨hname, hgroup⟩, hall⟩)
        · exact .inr ⟨e, he.cons ⟨hname, hgroup⟩⟩
      · obtain ⟨op, rfl⟩ := hname
        exact .inr ⟨_, .noGroup hnone (not_exists.mp hgroup)⟩
    · exact .inr ⟨_, .noOperator hnone (not_exists.mp hname)⟩

theorem ofJson_of_refused (h : Refused v e) : ofJson v = .error e := by
  cases h with
  | noObject h =>
    cases v with
    | obj members => exact absurd rfl (h members)
    | null | bool | num | str | arr => rfl
  | @noOperator before after name group hbefore h =>
    have hname : Operator.ofName? name = none := by
      rw [Option.eq_none_iff_forall_ne_some]
      exact fun op hop => h op (Operator.ofName?_eq_some_iff.mp hop)
    rw [ofJson, ofMembers_append hbefore, ofMembers, hname]
  | @noGroup before after op group hbefore h =>
    rw [ofJson, ofMembers_append hbefore, ofMembers, Operator.ofName?_name]
    cases group with
    | obj fields => exact absurd rfl (h fields)
    | null | bool | num | str | arr => rfl

/-- Members that are groups are read by pushing what they list. -/
theorem ofJson_of_isGroup (h : ∀ member ∈ members, IsGroup member) :
    ofJson (.obj members) = .ok (empty.pushAll (listed members)) := by
  have hread := ofMembers_append h empty []
  rw [List.append_nil] at hread
  exact hread

theorem ofJson_eq_error_iff : ofJson v = .error e ↔ Refused v e := by
  refine ⟨fun h => ?_, ofJson_of_refused⟩
  have hrefused : ∃ e, Refused v e := by
    cases v with
    | obj members =>
      rcases forall_isGroup_or_refused members with hall | hrefused
      · rw [ofJson_of_isGroup hall] at h
        nomatch h
      · exact hrefused
    | null | bool | num | str | arr => exact ⟨_, .noObject nofun⟩
  obtain ⟨e', he'⟩ := hrefused
  rw [ofJson_of_refused he'] at h
  exact Except.error.inj h ▸ he'

theorem ofJson_eq_ok_iff : ofJson (.obj members) = .ok doc ↔
    (∀ member ∈ members, IsGroup member) ∧ empty.pushAll (listed members) = doc := by
  constructor
  · intro h
    rcases forall_isGroup_or_refused members with hall | ⟨e, he⟩
    · rw [ofJson_of_isGroup hall] at h
      exact ⟨hall, Except.ok.inj h⟩
    · rw [ofJson_of_refused he] at h
      nomatch h
  · rintro ⟨hall, rfl⟩
    exact ofJson_of_isGroup hall

/-- Behind groups of other operators the groups that members list come as they stand. -/
theorem entries_pushAll_listed (hd : members.Distinct)
    (hgroups : ∀ member ∈ members, IsGroup member)
    (hnew : ∀ op ∈ doc.operators, op.name ∉ members.keys) :
    (doc.pushAll (listed members)).entries = doc.entries ++ listed members := by
  induction members generalizing doc with
  | nil => exact (List.append_nil _).symm
  | cons member rest ih =>
    obtain ⟨hmember, hrest⟩ := List.forall_mem_cons.mp hgroups
    obtain ⟨name, group⟩ := member
    obtain ⟨⟨op, rfl⟩, fields, rfl⟩ := hmember
    obtain ⟨hname, hdrest⟩ := List.nodup_cons.mp hd
    have hop : op ∉ doc.operators := fun hop => hnew op hop List.mem_cons_self
    have hothers : ∀ other ∈ doc.operators, other.name ∉ Members.keys rest :=
      fun other hother hmem => hnew other hother (List.mem_cons_of_mem _ hmem)
    rw [listed_cons_group, pushAll_append]
    by_cases hempty : contents fields = []
    · rw [hempty]
      exact ih hdrest hrest hothers
    · rw [pushAll_group_of_not_mem hop hempty, ih hdrest hrest ?_, entries_eq_flatMap,
        List.flatMap_append, List.flatMap_singleton, List.append_assoc, ← entries_eq_flatMap]
      intro other hother
      rw [operators, List.map_append, List.map_singleton, List.mem_append,
        List.mem_singleton] at hother
      rcases hother with hother | rfl
      · exact hothers other hother
      · exact hname

/-- What is pushed stands sorted by where its operator was pushed first.  What is read stands as it
is listed, and is refused exactly for the first member that is no group. -/
theorem entries_arranged :
    (∀ pushed : List Entry, Arranged pushed (empty.pushAll pushed)) ∧
    (∀ (members : Members Value) (doc : Document), members.Distinct →
      ofJson (.obj members) = .ok doc → doc.entries = listed members) ∧
    (∀ v : Value, (∃ e, ofJson v = .error e) ↔ (∀ members, v ≠ .obj members) ∨
      ∃ members, v = .obj members ∧ ∃ member ∈ members,
        (∀ op : Operator, op.name ≠ member.1) ∨ ∀ fields, member.2 ≠ .obj fields) ∧
    ∀ (v : Value) (e : UpdateError), ofJson v = .error e ↔ Refused v e := by
  refine ⟨arranged_pushAll, fun members doc hd hread => ?_, fun v => ?_,
    fun v e => ofJson_eq_error_iff⟩
  · obtain ⟨hgroups, rfl⟩ := ofJson_eq_ok_iff.mp hread
    exact entries_pushAll_listed hd hgroups fun _ hop => absurd hop List.not_mem_nil
  · simp only [ofJson_eq_error_iff]
    constructor
    · rintro ⟨e, he⟩
      cases he with
      | noObject h => exact .inl h
      | noOperator _ h => exact .inr ⟨_, rfl, _, List.mem_append_cons_self, .inl h⟩
      | noGroup _ h => exact .inr ⟨_, rfl, _, List.mem_append_cons_self, .inr h⟩
    · rintro (h | ⟨members, rfl, member, hmember, h⟩)
      · exact ⟨_, .noObject h⟩
      · rcases forall_isGroup_or_refused members with hall | hrefused
        · obtain ⟨⟨op, hop⟩, fields, hfields⟩ := hall member hmember
          rcases h with h | h
          · exact absurd hop (h op)
          · exact absurd hfields (h fields)
        · exact hrefused

/-- Three groups, one of them empty. -/
theorem entries_arranged_three :
    let members : Members Value := [("$set", .obj [("b", .int 1), ("a", .null)]),
      ("$unset", .obj []), ("$inc", .obj [("a", .int 2)])]
    members.Distinct ∧ ∃ doc, ofJson (.obj members) = .ok doc ∧
      doc.entries = [⟨.global .set, "b", .value (.int 1)⟩, ⟨.global .set, "a", .value .null⟩,
        ⟨.numeric .inc, "a", .value (.int 2)⟩] := by
  intro members
  have hd : members.Distinct := by
    show members.keys.Nodup
    decide
  exact ⟨hd, _, rfl, entries_arranged.2.1 members _ hd rfl⟩

/-- A repeated operator draws its entry forward. -/
example : ((empty.pushAll [⟨.global .set, "a", .value (.int 1)⟩,
    ⟨.numeric .inc, "b", .value (.int 2)⟩, ⟨.global .set, "c", .value (.int 3)⟩]).entries.map
      Entry.path) = ["a", "c", "b"] := rfl

end Document
end Amend
