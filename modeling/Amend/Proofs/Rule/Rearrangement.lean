/-
The order in which rules are written.  Each keyword has a place of its own in the order of
evaluation, and an object has each keyword once, so a list of rules is determined by which rules
it holds.  Rules that differ only in the order of members, at whatever depth, are refused both or
read as the same lists.
-/
import Mathlib.Data.List.Nodup
import Mathlib.Data.List.Perm.Basic
import Amend.Proofs.Rule.Order
import Amend.Proofs.Rule.Reading

namespace Amend

namespace Rule

/-! ## Keywords and ranks -/

/-- The keyword whose rules stand at a place in the order of evaluation. -/
def keywordAt (rank : Nat) : Option String :=
  List.lookup rank (Trait.all.map (fun t => (t.rank, t.name)) ++
    [(0, "$default"), (1, "$required"), (2, "$trim"), (10, "$lessThan"), (11, "$greaterThan"),
      (12, "$lessThanOrEqual"), (13, "$greaterThanOrEqual"), (14, "$range"), (15, "$multipleOf"),
      (27, "$powerOf"), (33, "$angle"), (40, "$exactLength"), (41, "$minLength"),
      (42, "$maxLength"), (44, "$contains"), (45, "$startsWith"), (46, "$endsWith"),
      (47, "$exclude"), (53, "$match"), (80, "$enum"), (81, "$unique"), (82, "$custom"),
      (83, "$logicalOr"), (84, "$logicalNot")])

theorem keywordAt_rank (rule : Rule) : keywordAt rule.rank = some rule.name := by
  cases rule with
  | check c =>
    cases c with
    | trait t => cases t <;> rfl
    | _ => rfl
  | _ => rfl

/-- No two keywords share a place. -/
theorem name_eq_of_rank_eq {r s : Rule} (h : r.rank = s.rank) : r.name = s.name := by
  have hr := keywordAt_rank r
  rw [h, keywordAt_rank s] at hr
  exact (Option.some.inj hr).symm

end Rule

namespace FieldRules

variable {rules rules' made : FieldRules}

/-! ## Lists with the same rules -/

theorem perm_push (rules : FieldRules) (rule : Rule) : (rules.push rule).Perm (rule :: rules) := by
  induction rules with
  | nil => exact .refl _
  | cons r rest ih =>
    rw [push]
    split
    · exact (ih.cons r).trans (.swap rule r rest)
    · exact .refl _

theorem perm_foldl_push (pushed : List Rule) (made : FieldRules) :
    (pushed.foldl push made).Perm (pushed ++ made) := by
  induction pushed generalizing made with
  | nil => exact .refl _
  | cons rule rest ih =>
    exact (ih (made.push rule)).trans (((perm_push made rule).append_left rest).trans
      List.perm_middle)

theorem Ordered.foldl_push (h : Ordered made) (pushed : List Rule) :
    Ordered (pushed.foldl FieldRules.push made) := by
  induction pushed generalizing made with
  | nil => exact h
  | cons rule rest ih => exact ih (h.push rule)

/-- Two ordered lists with the same rules, one for each keyword, are the same list. -/
theorem Ordered.eq_of_perm (h : Ordered rules) (h' : Ordered rules') (hperm : rules.Perm rules')
    (hnames : (rules.map Rule.name).Nodup) : rules = rules' := by
  refine hperm.eq_of_pairwise ?_ h h'
  intro r s hr hs hle hge
  have hname := Rule.name_eq_of_rank_eq (Nat.le_antisymm hle hge)
  exact List.inj_on_of_nodup_map hnames hr (hperm.mem_iff.mpr hs) hname

/-- Rules with distinct keywords can be pushed in any order. -/
theorem foldl_push_eq_of_perm {pushed pushed' : List Rule} (hperm : pushed.Perm pushed')
    (hnames : (pushed.map Rule.name).Nodup) : pushed.foldl push [] = pushed'.foldl push [] := by
  have hpushed : (pushed.foldl push []).Perm pushed := by
    simpa using perm_foldl_push pushed []
  have hpushed' : (pushed'.foldl push []).Perm pushed' := by
    simpa using perm_foldl_push pushed' []
  have hordered : Ordered [] := List.Pairwise.nil
  refine (hordered.foldl_push pushed).eq_of_perm (hordered.foldl_push pushed')
    (hpushed.trans (hperm.trans hpushed'.symm)) ?_
  exact (hpushed.map Rule.name).nodup_iff.mpr hnames

end FieldRules

/-! ## Rules bear the keywords they are written under -/

namespace Rule

variable {build : String → Option Pattern}

theorem name_of_flag? {name : String} {rule : Rule} (h : flag? name = some rule) :
    rule.name = name := by
  unfold flag? at h
  split at h
  · next hname =>
    rw [← Option.some.inj h, hname]
    rfl
  · split at h
    · next hname =>
      rw [← Option.some.inj h, hname]
      rfl
    · obtain ⟨t, ht, rfl⟩ := Option.map_eq_some_iff.mp h
      exact of_decide_eq_true (List.find?_some (p := fun t : Trait => t.name = name) ht)

theorem eq_of_readFlag {rule read : Rule} {param : Value}
    (h : readFlag rule param = .ok (some read)) : read = rule := by
  unfold readFlag at h
  split at h
  · exact (Option.some.inj (Except.ok.inj h)).symm
  · nomatch Except.ok.inj h
  · nomatch h

/-- A check that is made unless its parameter is at fault bears its own keyword. -/
theorem name_of_unless {atFault : Prop} [Decidable atFault] {fault : Fault} {made c : Check}
    (h : (if atFault then .error fault else .ok made : Except Fault Check) = .ok c) :
    c.name = made.name := by
  split at h
  · nomatch h
  · rw [Except.ok.inj h]

theorem name_of_readRange {param : Value} {c : Check} (h : readRange param = .ok c) :
    c.name = "$range" := by
  unfold readRange at h
  obtain ⟨members, -, h⟩ := bind_eq_ok_iff.mp h
  obtain ⟨⟨min, max⟩, -, h⟩ := bind_eq_ok_iff.mp h
  exact name_of_unless h

theorem name_of_readDivisor {param : Value} {c : Check} (h : readDivisor param = .ok c) :
    c.name = "$multipleOf" := by
  unfold readDivisor at h
  obtain ⟨divisor, -, h⟩ := bind_eq_ok_iff.mp h
  exact name_of_unless h

theorem name_of_readBase {param : Value} {c : Check} (h : readBase param = .ok c) :
    c.name = "$powerOf" := by
  unfold readBase at h
  obtain ⟨base, -, h⟩ := bind_eq_ok_iff.mp h
  exact name_of_unless h

theorem name_of_readAngle {param : Value} {c : Check} (h : readAngle param = .ok c) :
    c.name = "$angle" := by
  unfold readAngle at h
  obtain ⟨members, -, h⟩ := bind_eq_ok_iff.mp h
  obtain ⟨unit, -, h⟩ := bind_eq_ok_iff.mp h
  obtain ⟨⟨min, max⟩, -, h⟩ := bind_eq_ok_iff.mp h
  exact name_of_unless h

theorem name_of_readPattern {param : Value} {c : Check} (h : readPattern build param = .ok c) :
    c.name = "$match" := by
  unfold readPattern at h
  obtain ⟨text, -, h⟩ := bind_eq_ok_iff.mp h
  split at h
  · rw [← Except.ok.inj h]
    rfl
  · nomatch h

/-- A parameter that is put into a check gives a check of that keyword. -/
theorem name_of_map {α : Type} {step : Except Fault α} {make : α → Check} {name : String}
    {c : Check} (hmake : ∀ a, (make a).name = name)
    (h : (do .ok (make (← step)) : Except Fault Check) = .ok c) : c.name = name := by
  obtain ⟨a, -, h⟩ := bind_eq_ok_iff.mp h
  rw [← Except.ok.inj h]
  exact hmake a

theorem name_of_readCheck {name : String} {param : Value} {c : Check}
    (h : readCheck build name param = .ok c) : c.name = name := by
  unfold readCheck at h
  split at h
  iterate 4 exact name_of_map (fun _ => rfl) h
  · exact name_of_readRange h
  · exact name_of_readDivisor h
  · exact name_of_readBase h
  · exact name_of_readAngle h
  iterate 7 exact name_of_map (fun _ => rfl) h
  · exact name_of_readPattern h
  · exact name_of_map (fun _ => rfl) h
  · rw [← Except.ok.inj h]
    rfl
  · nomatch h
  · nomatch h

theorem name_of_readLeaf {name : String} {param : Value} {rule : Rule}
    (h : readLeaf build name param = .ok (some rule)) : rule.name = name := by
  unfold readLeaf at h
  split at h
  · next flag hflag =>
    rw [eq_of_readFlag h]
    exact name_of_flag? hflag
  · split at h
    · next hname =>
      rw [← Option.some.inj (Except.ok.inj h), hname]
      rfl
    · obtain ⟨c, hc, h⟩ := bind_eq_ok_iff.mp h
      rw [← Option.some.inj (Except.ok.inj h)]
      exact name_of_readCheck hc

theorem name_of_ofMember {name : String} {param : Value} {rule : Rule}
    (h : ofMember build name param = .ok (some rule)) : rule.name = name := by
  rw [ofMember.eq_def] at h
  split at h
  · next hname =>
    split at h
    · obtain ⟨branches, -, h⟩ := bind_eq_ok_iff.mp h
      split at h
      · cases h
      · rw [← Option.some.inj (Except.ok.inj h), hname]
        rfl
    · cases h
  · split at h
    · next hname =>
      split at h
      · obtain ⟨inner, -, h⟩ := bind_eq_ok_iff.mp h
        rw [← Option.some.inj (Except.ok.inj h), hname]
        rfl
      · cases h
    · cases hleaf : readLeaf build name param with
      | error fault =>
        rw [hleaf] at h
        cases h
      | ok read =>
        rw [hleaf] at h
        rw [Except.ok.inj h] at hleaf
        exact name_of_readLeaf hleaf

/-! ## Reading objects of rules -/

/-- What the members of an object are read as, each by itself. -/
def reads (build : String → Option Pattern) (members : Members Value) :
    List (Option (Option Rule)) :=
  members.map fun m => (ofMember build m.1 m.2).toOption

theorem reads_cons (name : String) (param : Value) (rest : Members Value) :
    reads build ((name, param) :: rest) =
      (ofMember build name param).toOption :: reads build rest := rfl

/-- An object is read if each of its members is, and its rules are pushed one after the other. -/
theorem toOption_ofMembers (rules : FieldRules) (members : Members Value) :
    (ofMembers build rules members).toOption =
      if (reads build members).all Option.isSome then
        some (((reads build members).filterMap Option.join).foldl FieldRules.push rules)
      else none := by
  induction members generalizing rules with
  | nil => rfl
  | cons m rest ih =>
    obtain ⟨name, param⟩ := m
    rw [ofMembers, reads_cons]
    cases ofMember build name param with
    | error defect => rfl
    | ok read =>
      cases read with
      | none => exact ih rules
      | some rule => exact ih (rules.push rule)

/-- The rules of an object have keywords of the object. -/
theorem map_name_reads_sublist (members : Members Value) :
    (((reads build members).filterMap Option.join).map Rule.name).Sublist members.keys := by
  induction members with
  | nil => exact .slnil
  | cons m rest ih =>
    obtain ⟨name, param⟩ := m
    have hkeys : Members.keys ((name, param) :: rest) = name :: Members.keys rest := rfl
    rw [reads_cons, hkeys]
    cases hmember : ofMember build name param with
    | error defect => exact ih.cons name
    | ok read =>
      cases read with
      | none => exact ih.cons name
      | some rule =>
        have hname := name_of_ofMember hmember
        show (rule.name :: _).Sublist (name :: _)
        rw [hname]
        exact ih.cons_cons name

/-- Of an object that has each keyword once, it only matters what its members are read as. -/
theorem toOption_ofMembers_of_perm {members members' : Members Value} (hd : members.Distinct)
    (h : (reads build members).Perm (reads build members')) :
    (ofMembers build [] members).toOption = (ofMembers build [] members').toOption := by
  have hall : (reads build members).all Option.isSome =
      (reads build members').all Option.isSome := h.all_eq
  have hnames : (((reads build members).filterMap Option.join).map Rule.name).Nodup :=
    (map_name_reads_sublist members).nodup hd
  rw [toOption_ofMembers, toOption_ofMembers, hall,
    FieldRules.foldl_push_eq_of_perm (h.filterMap Option.join) hnames]

theorem toOption_ofBranches (items : List Value) :
    (ofBranches build items).toOption =
      (items.map fun item => (FieldRules.ofJsonWith build item).toOption).mapM id := by
  induction items with
  | nil => rfl
  | cons item rest ih =>
    rw [List.map_cons, List.mapM_cons, ← ih]
    cases item with
    | obj members =>
      rw [ofBranches]
      show _ = (ofMembers build [] members).toOption >>= _
      cases ofMembers build [] members with
      | error defect => rfl
      | ok branch => cases ofBranches build rest <;> rfl
    | null | bool | num | str | arr => rfl

theorem toOption_ofMember_anyOf (items : List Value) :
    (ofMember build "$logicalOr" (.arr items)).toOption =
      (ofBranches build items).toOption.bind fun
        | [] => none
        | branches => some (some (.anyOf branches)) := by
  rw [ofMember.eq_def, if_pos rfl]
  simp only
  cases ofBranches build items with
  | error defect => rfl
  | ok branches => cases branches <;> rfl

theorem toOption_ofMember_noneOf (inner : Value) :
    (ofMember build "$logicalNot" inner).toOption =
      (FieldRules.ofJsonWith build inner).toOption.map fun rules => some (.noneOf rules) := by
  rw [ofMember.eq_def, if_neg (by decide), if_pos rfl]
  cases inner with
  | obj members =>
    show _ = (ofMembers build [] members).toOption.map _
    simp only
    cases ofMembers build [] members <;> rfl
  | null | bool | num | str | arr => rfl

/-! ## Another order -/

mutual

/-- The rules of a field, written with the members of their objects in another order. -/
inductive Rearranged : Value → Value → Prop where
  | refl (v : Value) : Rearranged v v
  | obj {members members' : Members Value} (hkeys : members.keys.Perm members'.keys)
    (h : ∀ (keyword : String) (v w : Value), members.get? keyword = some v →
      members'.get? keyword = some w → RearrangedParam keyword v w) :
    Rearranged (.obj members) (.obj members')

/-- The parameter of a keyword, with the rules inside it in another order. -/
inductive RearrangedParam : String → Value → Value → Prop where
  | refl (keyword : String) (v : Value) : RearrangedParam keyword v v
  | anyOf {items items' : List Value} (hlength : items.length = items'.length)
    (h : ∀ (i : Nat) (v w : Value), items[i]? = some v → items'[i]? = some w → Rearranged v w) :
    RearrangedParam "$logicalOr" (.arr items) (.arr items')
  | noneOf {v w : Value} (h : Rearranged v w) : RearrangedParam "$logicalNot" v w

end

/-- The same members in another order. -/
theorem Rearranged.of_perm {members members' : Members Value} (hd : members.Distinct)
    (h : members.Perm members') : Rearranged (.obj members) (.obj members') := by
  refine .obj (h.map Prod.fst) fun keyword v w hv hw => ?_
  have hmem := h.mem_iff.mpr (Members.mem_of_get? hw)
  rw [Members.get?_of_mem hd hmem] at hv
  rw [Option.some.inj hv]
  exact .refl keyword v

theorem reads_perm {members members' : Members Value} (hd : members.Distinct)
    (hkeys : members.keys.Perm members'.keys)
    (h : ∀ (keyword : String) (v w : Value), members.get? keyword = some v →
      members'.get? keyword = some w →
      (ofMember build keyword v).toOption = (ofMember build keyword w).toOption) :
    (reads build members).Perm (reads build members') :=
  Members.map_perm_of_keys hd hkeys fun key v w hv hw => h key v w hv hw

theorem map_toOption_ofJson_congr {items items' : List Value}
    (hlength : items.length = items'.length)
    (h : ∀ (i : Nat) (v w : Value), items[i]? = some v → items'[i]? = some w →
      (FieldRules.ofJsonWith build v).toOption = (FieldRules.ofJsonWith build w).toOption) :
    items.map (fun item => (FieldRules.ofJsonWith build item).toOption) =
      items'.map fun item => (FieldRules.ofJsonWith build item).toOption := by
  refine List.ext_getElem (by simpa using hlength) fun i hi hi' => ?_
  rw [List.length_map] at hi hi'
  rw [List.getElem_map, List.getElem_map]
  exact h i _ _ (List.getElem?_eq_getElem hi) (List.getElem?_eq_getElem hi')

/-- Rules in another order are refused both or read as the same list. -/
theorem Rearranged.toOption_ofJson {v w : Value} (hv : v.WellFormed) (h : Rearranged v w) :
    (FieldRules.ofJsonWith build v).toOption = (FieldRules.ofJsonWith build w).toOption := by
  -- Along the grammar of rules, so that the branches of combinators come with their hypotheses.
  refine (grammar_induction
    (fun v => ∀ w, v.WellFormed → Rearranged v w →
      (FieldRules.ofJsonWith build v).toOption = (FieldRules.ofJsonWith build w).toOption)
    (fun keyword v => ∀ w, v.WellFormed → RearrangedParam keyword v w →
      (ofMember build keyword v).toOption = (ofMember build keyword w).toOption)
    ?other ?obj ?param v).1 w hv h
  case other =>
    intro v hother w _ h
    cases h with
    | refl => rfl
    | obj => exact absurd rfl (hother _)
  case obj =>
    intro members ih w hv h
    cases h with
    | refl => rfl
    | obj hkeys h =>
      cases hv with
      | obj hd hmembers =>
        refine toOption_ofMembers_of_perm hd (reads_perm hd hkeys fun keyword v w hv hw => ?_)
        have hmem := Members.mem_of_get? hv
        exact ih _ hmem w (hmembers _ hmem) (h keyword v w hv hw)
  case param =>
    intro keyword v hobject hitems w hv h
    cases h with
    | refl => rfl
    | anyOf hlength h =>
      cases hv with
      | arr hwf =>
        rw [toOption_ofMember_anyOf, toOption_ofMember_anyOf, toOption_ofBranches,
          toOption_ofBranches, map_toOption_ofJson_congr hlength fun i v w hv hw => ?_]
        have hmem := List.mem_of_getElem? hv
        exact hitems _ rfl v hmem w (hwf v hmem) (h i v w hv hw)
    | noneOf h => rw [toOption_ofMember_noneOf, toOption_ofMember_noneOf, hobject w hv h]

end Rule

/-! ## Rules of all fields -/

namespace RuleSet

variable {build : String → Option Pattern}

/-- The rules of all fields, written with the fields, and the members of each object of rules, in
another order. -/
inductive Rearranged : Value → Value → Prop where
  | refl (v : Value) : Rearranged v v
  | obj {fields fields' : Members Value} (hkeys : fields.keys.Perm fields'.keys)
    (h : ∀ (field : String) (v w : Value), fields.get? field = some v →
      fields'.get? field = some w → Rule.Rearranged v w) :
    Rearranged (.obj fields) (.obj fields')

/-- Each field gets the rules that are read from its own object. -/
theorem get?_of_ofMembers {set out : RuleSet} {fields : Members Value} (hd : fields.Distinct)
    (h : ofMembers build set fields = .ok out) (field : String) :
    Members.get? out field = match Members.get? fields field with
      | some rules => (FieldRules.ofJsonWith build rules).toOption
      | none => Members.get? set field := by
  induction fields generalizing set with
  | nil =>
    rw [← Except.ok.inj h]
    rfl
  | cons m rest ih =>
    obtain ⟨name, param⟩ := m
    obtain ⟨hname, hrest⟩ := List.nodup_cons.mp hd
    rw [ofMembers] at h
    split at h
    · next rules hrules =>
      rw [ih hrest h]
      by_cases hfield : name = field
      · subst hfield
        have hlast : Members.get? rest name = none := Members.get?_eq_none_iff.mpr hname
        rw [hlast, Members.get?_cons_self, Members.get?_set_self]
        simp only [hrules]
        rfl
      · rw [Members.get?, if_neg hfield, Members.get?_set_of_ne set rules hfield]
    · cases h

theorem succeeds_ofJson_obj_iff {fields : Members Value} :
    Succeeds (ofJsonWith build (.obj fields)) ↔
      ∀ rules ∈ fields.map fun m => (FieldRules.ofJsonWith build m.2).toOption, rules.isSome := by
  rw [succeeds_ofJson_iff, Rule.isRuleSet_obj_iff, List.forall_mem_map]
  refine forall₂_congr fun field _ => ?_
  rw [← Rule.succeeds_fieldRules_iff]
  cases FieldRules.ofJsonWith build field.2 with
  | ok rules => exact iff_of_true (succeeds_ok rules) rfl
  | error defect => exact iff_of_false (not_succeeds_error defect) nofun

/-- Rule sets in another order are refused both or give each field the same list of rules, and so
the same answer to every operand. -/
theorem ofJson_rearranged {v w : Value} (hv : v.WellFormed) (h : Rearranged v w) :
    Agree (fun set set' => (∀ field, Members.get? set field = Members.get? set' field) ∧
        ∀ policy field candidate,
          validate policy set field candidate = validate policy set' field candidate)
      (ofJsonWith build v) (ofJsonWith build w) := by
  cases h with
  | refl => exact .refl (fun _ => ⟨fun _ => rfl, fun _ _ _ => rfl⟩) (ofJsonWith build v)
  | @obj fields fields' hkeys h =>
    cases hv with
    | obj hd hfields =>
      have hread : ∀ (field : String) (v w : Value), fields.get? field = some v →
          fields'.get? field = some w →
          (FieldRules.ofJsonWith build v).toOption = (FieldRules.ofJsonWith build w).toOption := by
        intro field v w hv hw
        exact (h field v w hv hw).toOption_ofJson (hfields _ (Members.mem_of_get? hv))
      have hperm := Members.map_perm_of_keys
        (f := fun _ v => (FieldRules.ofJsonWith build v).toOption) hd hkeys hread
      have hsucceeds : Succeeds (ofJsonWith build (.obj fields)) ↔
          Succeeds (ofJsonWith build (.obj fields')) := by
        rw [succeeds_ofJson_obj_iff, succeeds_ofJson_obj_iff]
        exact forall_congr' fun rules => imp_congr_left hperm.mem_iff
      cases hset : ofJsonWith build (.obj fields) with
      | error e =>
        cases hset' : ofJsonWith build (.obj fields') with
        | error e' => exact .error e e'
        | ok set' =>
          obtain ⟨set, hok⟩ := hsucceeds.mpr ⟨set', hset'⟩
          rw [hset] at hok
          nomatch hok
      | ok set =>
        obtain ⟨set', hset'⟩ := hsucceeds.mp ⟨set, hset⟩
        have hget : ∀ field, Members.get? set field = Members.get? set' field := by
          intro field
          rw [get?_of_ofMembers hd hset, get?_of_ofMembers (hkeys.nodup_iff.mp hd) hset']
          cases hfield : Members.get? fields field with
          | none =>
            have hmem : field ∉ fields'.keys := fun hmem =>
              Members.get?_eq_none_iff.mp hfield (hkeys.mem_iff.mpr hmem)
            rw [Members.get?_eq_none_iff.mpr hmem]
          | some rules =>
            obtain ⟨rules', hfield'⟩ := Members.mem_keys_iff.mp
              (hkeys.mem_iff.mp (Members.mem_keys_iff.mpr ⟨rules, hfield⟩))
            rw [hfield']
            exact hread field rules rules' hfield hfield'
        rw [hset']
        refine .ok ⟨hget, fun policy field candidate => ?_⟩
        rw [validate, validate, hget field]

/-- Bounds inside a negation, and the negation itself, in another order. -/
theorem ofJson_rearranged_negation :
    let bounds : Members Value := [("$maxLength", .int 3), ("$minLength", .int 1)]
    let bounds' : Members Value := [("$minLength", .int 1), ("$maxLength", .int 3)]
    let v : Value := .obj [("a", .obj [("$logicalNot", .obj bounds), ("$trim", .bool true)])]
    let w : Value := .obj [("a", .obj [("$trim", .bool true), ("$logicalNot", .obj bounds')])]
    (∃ set, ofJson v = .ok set) ∧
      Agree (fun set set' => (∀ field, Members.get? set field = Members.get? set' field) ∧
          ∀ policy field candidate,
            validate policy set field candidate = validate policy set' field candidate)
        (ofJson v) (ofJson w) := by
  intro bounds bounds' v w
  have hbounds : bounds.Distinct := by
    unfold Members.Distinct
    decide
  have hinner : Rule.Rearranged (.obj bounds) (.obj bounds') := .of_perm hbounds (.swap _ _ [])
  have houter : Rule.Rearranged (.obj [("$logicalNot", .obj bounds), ("$trim", .bool true)])
      (.obj [("$trim", .bool true), ("$logicalNot", .obj bounds')]) := by
    refine .obj (.swap _ _ []) fun keyword v w hv hw => ?_
    rcases List.mem_cons.mp (Members.mem_of_get? hv) with hm | hm
    · obtain ⟨rfl, rfl⟩ := Prod.mk.inj hm
      rw [← Option.some.inj hw]
      exact .noneOf hinner
    · obtain ⟨rfl, rfl⟩ := Prod.mk.inj (List.mem_singleton.mp hm)
      rw [← Option.some.inj hw]
      exact .refl _ _
  have h : Rearranged v w := by
    refine .obj (.refl _) fun field v w hv hw => ?_
    obtain ⟨rfl, rfl⟩ := Prod.mk.inj (List.mem_singleton.mp (Members.mem_of_get? hv))
    rw [← Option.some.inj hw]
    exact houter
  have hv : v.WellFormed := by
    refine .obj (List.pairwise_singleton _ _) (List.forall_mem_singleton.mpr (.obj ?_ ?_))
    · unfold Members.Distinct
      decide
    · refine List.forall_mem_cons.mpr ⟨.obj hbounds ?_, List.forall_mem_singleton.mpr (.bool true)⟩
      exact List.forall_mem_cons.mpr ⟨.num _, List.forall_mem_singleton.mpr (.num _)⟩
  exact ⟨⟨_, rfl⟩, ofJson_rearranged hv h⟩

end RuleSet
end Amend
