/-
Operators that settle.  Applied again with the same operand to what they have stored, they store
it once more.  The filters, extrema and trimming are fixed by what they have made; merging needs
that no object of the operand has a name twice, and adding to a set that added items equal
themselves.
-/
import Amend.Operator.Dispatch
import Amend.Proofs.Json.WellFormed
import Amend.Proofs.Outcome
import Amend.Proofs.Unicode.Text

namespace Amend

/-- No object in a JSON operand has a name twice. -/
def Operand.WellFormed : Operand → Prop
  | .value v => v.WellFormed
  | _ => True

theorem Operand.json_eq_ok_iff {operand : Operand} {v : Value} :
    operand.json = .ok v ↔ operand = .value v := by
  cases operand with
  | value w => simp [json]
  | keyMapper rename => simp [json]
  | valueMapper change => simp [json]

namespace Operator

/-! ## What is stored -/

theorem Text.transform_of_stored {stored : Option Value} {text : List Char}
    (h : stored? stored = .ok text) (op : Text) (operand : Value) :
    op.transform stored operand =
      (op.change text operand).map fun changed => .str (String.ofList changed) := by
  rw [transform, h]
  exact bind_ok_eq_map _ _

theorem Object.transform_of_stored {stored : Option Value} {members : Members Value}
    (h : stored? stored = .ok members) (op : Object) (operand : Operand) :
    op.transform stored operand = (op.change members operand).map .obj := by
  rw [transform, h]
  exact bind_ok_eq_map _ _

theorem Array.transform_of_stored {stored : Option Value} {items : List Value}
    (h : stored? stored = .ok items) (op : Array) (operand : Value) :
    op.transform stored operand = (op.change items operand).map .arr := by
  rw [transform, h]
  exact bind_ok_eq_map _ _

/-! ## Extrema -/

namespace Numeric

theorem extremum_again (keeps : Binary64 → Binary64 → Bool) {stored : Option Value}
    {operand v : Value} (hself : ∀ n : Number, keeps n.toBinary64 n.toBinary64 = true)
    (h : extremum keeps stored operand = .ok v) : extremum keeps (some v) operand = .ok v := by
  obtain ⟨b, hb, h⟩ := bind_eq_ok_iff.mp h
  have hoperand : operand = .num b := by
    cases operand with
    | num n => rw [Except.ok.inj hb]
    | null | bool | str | arr | obj => nomatch hb
  subst hoperand
  have hagain : ∀ a : Number, extremum keeps (some (.num a)) (.num b) =
      .ok (.num (if keeps a.toBinary64 b.toBinary64 then a else b)) := fun _ => rfl
  have hb : extremum keeps (some (.num b)) (.num b) = .ok (.num b) := by
    rw [hagain, hself, if_pos rfl]
  cases stored with
  | none =>
    rw [← Except.ok.inj h]
    exact hb
  | some current =>
    cases current with
    | null =>
      rw [← Except.ok.inj h]
      exact hb
    | num a =>
      rw [← Except.ok.inj h]
      by_cases hkeeps : keeps a.toBinary64 b.toBinary64 = true
      · rw [if_pos hkeeps, hagain, if_pos hkeeps]
      · rw [if_neg hkeeps]
        exact hb
    | bool | str | arr | obj => nomatch h

end Numeric

/-! ## Trimming -/

namespace Text

theorem trim_again {stored : Option Value} {operand v : Value}
    (h : transform .trim stored operand = .ok v) : transform .trim (some v) operand = .ok v := by
  obtain ⟨text, -, h⟩ := bind_eq_ok_iff.mp h
  obtain ⟨changed, hchanged, h⟩ := bind_eq_ok_iff.mp h
  rw [← Except.ok.inj h, ← Except.ok.inj hchanged]
  show Except.ok (Value.str (String.ofList (Unicode.trim (String.ofList _).toList))) = _
  rw [String.toList_ofList, Unicode.trim_trim]

end Text

/-! ## Objects -/

namespace Object

theorem without_eq_filter (members : Members Value) (keys : List String) :
    without members keys = members.filter fun m => m.1 ∉ keys := by
  unfold without
  induction keys generalizing members with
  | nil => simp
  | cons key rest ih =>
    rw [List.foldl_cons, ih, Members.erase, List.filter_filter]
    refine List.filter_congr fun m _ => ?_
    simp only [List.mem_cons, not_or, Bool.decide_and]
    exact Bool.and_comm _ _

theorem without_without (members : Members Value) (keys : List String) :
    without (without members keys) keys = without members keys := by
  rw [without_eq_filter, without_eq_filter, List.filter_filter]
  simp only [Bool.and_self]

/-- What a member becomes when a value is merged into it. -/
def merged (current : Option Value) : Value → Value
  | .obj nested =>
    match current with
    | some (.obj existing) => .obj (deepMerge existing nested)
    | _ => .obj nested
  | v => v

theorem merged_none (v : Value) : merged none v = v := by
  cases v with
  | obj => rfl
  | null | bool | num | str | arr => rfl

theorem mergeMember_eq (target : Members Value) (key : String) (v : Value) :
    deepMerge.mergeMember target key v = target.set key (merged (target.get? key) v) := by
  cases v with
  | obj nested =>
    rw [deepMerge.mergeMember]
    cases target.get? key with
    | none => rfl
    | some current => cases current <;> rfl
  | null | bool | num | str | arr => rfl

theorem deepMerge_cons (target : Members Value) (key : String) (v : Value)
    (rest : Members Value) :
    deepMerge target ((key, v) :: rest) =
      deepMerge (target.set key (merged (target.get? key) v)) rest := by
  rw [← mergeMember_eq]
  rfl

theorem get?_deepMerge_of_not_mem {target additions : Members Value} {key : String}
    (h : key ∉ additions.keys) : (deepMerge target additions).get? key = target.get? key := by
  induction additions generalizing target with
  | nil => rfl
  | cons m rest ih =>
    obtain ⟨name, v⟩ := m
    obtain ⟨hne, hrest⟩ : key ≠ name ∧ key ∉ Members.keys rest := by
      rwa [Members.keys, List.map_cons, List.mem_cons, not_or] at h
    rw [deepMerge_cons, ih hrest, Members.get?_set_of_ne _ _ (Ne.symm hne)]

/-- Every member of the operand is merged into what its name held before. -/
theorem get?_deepMerge_of_mem {target additions : Members Value} {key : String} {v : Value}
    (hd : additions.Distinct) (h : (key, v) ∈ additions) :
    (deepMerge target additions).get? key = some (merged (target.get? key) v) := by
  induction additions generalizing target with
  | nil => exact absurd h List.not_mem_nil
  | cons m rest ih =>
    obtain ⟨name, w⟩ := m
    obtain ⟨hname, hrest⟩ := List.nodup_cons.mp hd
    rw [deepMerge_cons]
    rcases List.mem_cons.mp h with he | hmem
    · obtain ⟨rfl, rfl⟩ := Prod.mk.inj he
      rw [get?_deepMerge_of_not_mem hname, Members.get?_set_self]
    · have hkey : key ∈ Members.keys rest := List.mem_map_of_mem hmem
      have hne : name ≠ key := fun he => hname (he ▸ hkey)
      rw [ih hrest hmem, Members.get?_set_of_ne _ _ hne]

/-- Merging changes nothing where every member of the operand has settled. -/
theorem deepMerge_of_settled {target additions : Members Value}
    (h : ∀ m ∈ additions, ∃ w, target.get? m.1 = some w ∧ merged (some w) m.2 = w) :
    deepMerge target additions = target := by
  induction additions with
  | nil => rfl
  | cons m rest ih =>
    obtain ⟨w, hget, hw⟩ := h m List.mem_cons_self
    rw [deepMerge_cons, hget, hw, Members.set_of_get?_eq hget]
    exact ih fun other hother => h other (List.mem_cons_of_mem m hother)

theorem merged_merged {v : Value} (h : v.WellFormed) (current : Option Value) :
    merged (some (merged current v)) v = merged current v := by
  induction h generalizing current with
  | null | bool | num | str | arr => rfl
  | @obj nested hd _ ih =>
    -- An object that takes the operand as its value has all of the operand's members.
    have hself : deepMerge nested nested = nested := by
      refine deepMerge_of_settled fun m hm => ⟨m.2, Members.get?_of_mem hd hm, ?_⟩
      have hnone := ih m hm none
      rw [merged_none] at hnone
      exact hnone
    have hagain : ∀ existing : Members Value,
        deepMerge (deepMerge existing nested) nested = deepMerge existing nested := fun existing =>
      deepMerge_of_settled fun m hm =>
        ⟨_, get?_deepMerge_of_mem hd hm, ih m hm (existing.get? m.1)⟩
    cases current with
    | none => exact congrArg Value.obj hself
    | some existing =>
      cases existing with
      | obj members => exact congrArg Value.obj (hagain members)
      | null | bool | num | str | arr => exact congrArg Value.obj hself

theorem deepMerge_again {additions : Members Value} (h : (Value.obj additions).WellFormed)
    (members : Members Value) :
    deepMerge (deepMerge members additions) additions = deepMerge members additions :=
  Value.obj.inj (merged_merged h (some (.obj members)))

theorem transform_eq_ok_iff {op : Object} {stored : Option Value} {operand : Operand}
    {v : Value} : transform op stored operand = .ok v ↔
      ∃ members changed, stored? stored = .ok members ∧ change op members operand = .ok changed ∧
        v = .obj changed := by
  simp only [transform, bind_eq_ok_iff, Except.ok.injEq]
  constructor
  · rintro ⟨members, hmembers, changed, hchanged, rfl⟩
    exact ⟨members, changed, hmembers, hchanged, rfl⟩
  · rintro ⟨members, changed, hmembers, hchanged, rfl⟩
    exact ⟨members, hmembers, changed, hchanged, rfl⟩

theorem change_omit_again {members changed : Members Value} {operand : Operand}
    (h : change .omit members operand = .ok changed) :
    change .omit changed operand = .ok changed := by
  obtain ⟨v, hv, h⟩ := bind_eq_ok_iff.mp h
  obtain ⟨keys, hkeys, h⟩ := bind_eq_ok_iff.mp h
  refine bind_eq_ok_iff.mpr ⟨v, hv, bind_eq_ok_iff.mpr ⟨keys, hkeys, ?_⟩⟩
  rw [← Except.ok.inj h, without_without]

theorem change_merge_again {members changed : Members Value} {operand : Operand}
    (hoperand : operand.WellFormed) (h : change .merge members operand = .ok changed) :
    change .merge changed operand = .ok changed := by
  obtain ⟨v, hv, h⟩ := bind_eq_ok_iff.mp h
  refine bind_eq_ok_iff.mpr ⟨v, hv, ?_⟩
  rw [Operand.json_eq_ok_iff.mp hv] at hoperand
  cases v with
  | obj additions =>
    rw [← Except.ok.inj h]
    exact congrArg Except.ok (deepMerge_again hoperand members)
  | null | bool | num | str | arr => nomatch h

end Object

/-! ## Arrays -/

namespace Array

theorem transform_eq_ok_iff {op : Array} {stored : Option Value} {operand v : Value} :
    transform op stored operand = .ok v ↔
      ∃ items changed, stored? stored = .ok items ∧ change op items operand = .ok changed ∧
        v = .arr changed := by
  simp only [transform, bind_eq_ok_iff, Except.ok.injEq]
  constructor
  · rintro ⟨items, hitems, changed, hchanged, rfl⟩
    exact ⟨items, changed, hitems, hchanged, rfl⟩
  · rintro ⟨items, changed, hitems, hchanged, rfl⟩
    exact ⟨items, hitems, changed, hchanged, rfl⟩

theorem unique_append (kept items more : List Value) :
    unique kept (items ++ more) = unique (unique kept items) more := by
  induction items generalizing kept with
  | nil => rfl
  | cons item rest ih =>
    rw [List.cons_append, unique, unique]
    split <;> exact ih _

/-- Once an item has an equal among those kept it has one to the end. -/
theorem any_unique_of_any {kept : List Value} {item : Value}
    (h : kept.any (·.equal item) = true) (items : List Value) :
    (unique kept items).any (·.equal item) = true := by
  induction items generalizing kept with
  | nil => exact h
  | cons other rest ih =>
    rw [unique]
    split
    · exact ih h
    · exact ih (by rw [List.any_append, h, Bool.true_or])

/-- Each item that equals itself has an equal among those that are kept. -/
theorem any_unique_of_mem {items : List Value} {item : Value} (hself : item.equal item = true)
    (h : item ∈ items) (kept : List Value) :
    (unique kept items).any (·.equal item) = true := by
  induction items generalizing kept with
  | nil => exact absurd h List.not_mem_nil
  | cons other rest ih =>
    rw [unique]
    rcases List.mem_cons.mp h with rfl | hrest
    · split
      · next hany => exact any_unique_of_any hany rest
      · refine any_unique_of_any ?_ rest
        rw [List.any_append, List.any_cons, hself, Bool.true_or, Bool.or_true]
    · split <;> exact ih hrest _

theorem unique_of_any {kept items : List Value}
    (h : ∀ item ∈ items, kept.any (·.equal item) = true) : unique kept items = kept := by
  induction items with
  | nil => rfl
  | cons item rest ih =>
    rw [unique, if_pos (h item List.mem_cons_self)]
    exact ih fun other hother => h other (List.mem_cons_of_mem item hother)

/-- The kept items are kept when they are gone through again.  The induction is on the items
still to come; that those kept so far would be kept again carries it. -/
theorem unique_unique_of_kept {kept : List Value} (h : unique [] kept = kept)
    (items : List Value) : unique [] (unique kept items) = unique kept items := by
  induction items generalizing kept with
  | nil => exact h
  | cons item rest ih =>
    rw [unique]
    split
    · exact ih h
    · next hnone =>
      refine ih ?_
      rw [unique_append, h, unique, if_neg hnone]
      rfl

/-- What an operand adds: the list under `$each`, or itself where it has no such member. -/
inductive Adds : Value → List Value → Prop where
  | each {modifiers : Members Value} {list : List Value}
      (h : Members.get? modifiers "$each" = some (.arr list)) : Adds (.obj modifiers) list
  | itself {operand : Value} (h : operand.member? "$each" = none) : Adds operand [operand]

theorem each?_eq_some {modifiers : Members Value} {list : List Value}
    (h : Members.get? modifiers "$each" = some (.arr list)) :
    each? (.obj modifiers) = .ok (some (list, modifiers)) := by
  simp only [each?, h]

section

variable {operand : Value} {additions items changed : List Value}

theorem Adds.united_eq (h : Adds operand additions) (items : List Value) :
    united items operand = .ok (unique [] (items ++ additions)) := by
  cases h with
  | each h => exact bind_eq_ok_iff.mpr ⟨_, each?_eq_some h, rfl⟩
  | itself h =>
    have heach : each? operand = .ok none := by
      cases operand with
      | obj modifiers =>
        have hnone : Members.get? modifiers "$each" = none := h
        simp only [each?, hnone]
      | null | bool | num | str | arr => rfl
    exact bind_eq_ok_iff.mpr ⟨_, heach, rfl⟩

/-- What an operand adds to a set does not depend on the set. -/
theorem exists_adds (h : united items operand = .ok changed) :
    ∃ additions, Adds operand additions := by
  cases operand with
  | obj modifiers =>
    cases hget : Members.get? modifiers "$each" with
    | none => exact ⟨_, .itself hget⟩
    | some v =>
      cases v with
      | arr list => exact ⟨list, .each hget⟩
      | null | bool | num | str | obj =>
        obtain ⟨each, heach, -⟩ := bind_eq_ok_iff.mp h
        simp only [each?, hget] at heach
        nomatch heach
  | null | bool | num | str | arr => exact ⟨_, .itself rfl⟩

theorem Adds.wellFormed (h : Adds operand additions) (hoperand : operand.WellFormed) :
    ∀ item ∈ additions, item.WellFormed := by
  cases h with
  | each h =>
    have harr : (Value.arr additions).WellFormed := by
      cases hoperand with
      | obj _ hmembers => exact hmembers _ (Members.mem_of_get? h)
    cases harr with
    | arr hitems => exact hitems
  | itself h =>
    intro item hitem
    rw [List.mem_singleton.mp hitem]
    exact hoperand

/-- Items that are there already are not added again, and those kept are kept again. -/
theorem unique_append_again (hself : ∀ item ∈ additions, item.equal item = true) :
    unique [] (unique [] (items ++ additions) ++ additions) = unique [] (items ++ additions) := by
  have hcovered : ∀ item ∈ additions,
      (unique [] (items ++ additions)).any (·.equal item) = true := fun item hitem =>
    any_unique_of_mem (hself item hitem) (List.mem_append_right items hitem) []
  have hkept : unique [] (unique [] (items ++ additions)) = unique [] (items ++ additions) :=
    unique_unique_of_kept rfl (items ++ additions)
  rw [unique_append, hkept, unique_of_any hcovered]

theorem united_again (hoperand : operand.WellFormed) (h : united items operand = .ok changed) :
    united changed operand = .ok changed := by
  obtain ⟨additions, hadds⟩ := exists_adds h
  have hchanged : unique [] (items ++ additions) = changed :=
    Except.ok.inj ((hadds.united_eq items).symm.trans h)
  have hself : ∀ item ∈ additions, item.equal item = true :=
    fun item hitem => (hadds.wellFormed hoperand item hitem).equal_self
  rw [hadds.united_eq, ← hchanged, unique_append_again hself]

end

theorem remove_eq_filter {s : Selector} (h : ∀ index, s ≠ .at index) (items : List Value) :
    s.remove items = items.filter fun item => !s.selects item := by
  cases s with
  | «at» index => exact absurd rfl (h index)
  | equalTo | oneOf | noneOf | notEqualTo | less | greater | lessOrEqual | greaterOrEqual => rfl

theorem Selector.remove_remove {s : Selector} (h : ∀ index, s ≠ .at index)
    (items : List Value) : s.remove (s.remove items) = s.remove items := by
  rw [remove_eq_filter h, remove_eq_filter h, List.filter_filter]
  simp only [Bool.and_self]

/-- Only the comparator for positions selects by position. -/
theorem ne_at_of_selector {operand : Value} {s : Selector}
    (h : ∀ argument, comparator? operand ≠ some ("$position", argument))
    (hs : selector operand = .ok s) (index : Nat) : s ≠ .at index := by
  rintro rfl
  unfold selector at hs
  split at hs
  case h_2 v _ | h_3 v _ => cases v <;> nomatch hs
  case h_4 argument hcomparator => exact h argument hcomparator
  all_goals nomatch hs

theorem pulled_again {items changed : List Value} {operand : Value}
    (hoperand : ∀ argument, comparator? operand ≠ some ("$position", argument))
    (h : pulled items operand = .ok changed) : pulled changed operand = .ok changed := by
  obtain ⟨s, hs, h⟩ := bind_eq_ok_iff.mp h
  refine bind_eq_ok_iff.mpr ⟨s, hs, ?_⟩
  rw [← Except.ok.inj h, s.remove_remove (ne_at_of_selector hoperand hs)]

end Array

/-! ## All operators -/

/-- The operators that settle.  Taking out of an array by position is not among them: the next
item then has the position. -/
def Settles (op : Operator) (operand : Operand) : Prop :=
  match op with
  | .global _ | .numeric .min | .numeric .max | .text .trim => True
  | .object .omit | .object .merge | .array .addToSet => True
  | .array .pull =>
    ∀ v argument, operand = .value v → Array.comparator? v ≠ some ("$position", argument)
  | _ => False

variable {op : Operator} {declared : Option FieldKind} {stream : Random.Stream}
  {operand : Operand} {current : Option Value} {v : Value}

theorem Settles.ne_random (h : op.Settles operand) : op ≠ .numeric .random := by
  rintro rfl
  exact h

/-- Where a part of the operand is written, what the operand is does not matter. -/
theorem Settles.of_written_ne (h : op.Settles operand) (hop : op.written ≠ .nothing)
    (other : Operand) : op.Settles other := by
  cases op with
  | numeric op =>
    cases op with
    | min | max => exact h
    | _ => exact False.elim h
  | text op =>
    cases op with
    | trim => exact h
    | _ => exact False.elim h
  | toggle => exact False.elim h
  | global | object | array => exact absurd rfl hop

/-- An operator that settles, applied again with the same operand to the value that it has
stored, stores that value. -/
theorem transform_again (hop : op.Settles operand)
    (hoperand : op.written = .nothing → operand.WellFormed)
    (h : op.transform declared stream operand current = .ok v) (stream' : Random.Stream) :
    op.transform declared stream' operand (some v) = .ok v := by
  cases op with
  | global op => exact h
  | toggle => exact False.elim hop
  | numeric op =>
    obtain ⟨argument, hargument, h⟩ := bind_eq_ok_iff.mp h
    refine bind_eq_ok_iff.mpr ⟨argument, hargument, ?_⟩
    cases op with
    | min => exact Numeric.extremum_again (fun a b => a.le b) (fun n => n.le_self) h
    | max => exact Numeric.extremum_again (fun a b => b.le a) (fun n => n.le_self) h
    | _ => exact False.elim hop
  | text op =>
    obtain ⟨argument, hargument, h⟩ := bind_eq_ok_iff.mp h
    refine bind_eq_ok_iff.mpr ⟨argument, hargument, ?_⟩
    cases op with
    | trim => exact Text.trim_again h
    | _ => exact False.elim hop
  | object op =>
    obtain ⟨members, changed, -, hchanged, rfl⟩ := Object.transform_eq_ok_iff.mp h
    refine Object.transform_eq_ok_iff.mpr ⟨changed, changed, rfl, ?_, rfl⟩
    cases op with
    | «omit» => exact Object.change_omit_again hchanged
    | merge => exact Object.change_merge_again (hoperand rfl) hchanged
    | _ => exact False.elim hop
  | array op =>
    obtain ⟨argument, hargument, h⟩ := bind_eq_ok_iff.mp h
    obtain ⟨items, changed, -, hchanged, rfl⟩ := Array.transform_eq_ok_iff.mp h
    have hvalue := Operand.json_eq_ok_iff.mp hargument
    refine bind_eq_ok_iff.mpr ⟨argument, hargument,
      Array.transform_eq_ok_iff.mpr ⟨changed, changed, rfl, ?_, rfl⟩⟩
    cases op with
    | pull => exact Array.pulled_again (fun found => hop argument found hvalue) hchanged
    | addToSet =>
      have hformed := hoperand rfl
      rw [hvalue] at hformed
      exact Array.united_again hformed hchanged
    | _ => exact False.elim hop

end Operator
end Amend
