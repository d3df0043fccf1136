/-
Values in which no object has a name twice, at any depth, as every reader of JSON makes them.
Each such value is equal to itself, and every member of its objects is found under its name.
-/
import Amend.Json.Order
import Amend.Proofs.Json.Members

namespace Amend

namespace Members

variable {α : Type}

theorem mem_of_get? {ms : Members α} {key : String} {v : α} (h : ms.get? key = some v) :
    (key, v) ∈ ms := by
  induction ms with
  | nil => nomatch h
  | cons m rest ih =>
    obtain ⟨k, u⟩ := m
    by_cases hk : k = key
    · subst hk
      rw [get?_cons_self, Option.some.injEq] at h
      exact h ▸ List.mem_cons_self
    · simp only [get?, hk, if_false] at h
      exact List.mem_cons_of_mem _ (ih h)

theorem get?_of_mem {ms : Members α} (hd : ms.Distinct) {key : String} {v : α}
    (h : (key, v) ∈ ms) : ms.get? key = some v := by
  induction ms with
  | nil => exact absurd h List.not_mem_nil
  | cons m rest ih =>
    obtain ⟨k, u⟩ := m
    obtain ⟨hk, hrest⟩ := List.nodup_cons.mp hd
    rcases List.mem_cons.mp h with he | hmem
    · obtain ⟨rfl, rfl⟩ := Prod.mk.inj he
      exact get?_cons_self key v rest
    · have hkey : key ∈ keys rest := List.mem_map_of_mem hmem
      have hne : k ≠ key := fun he => hk (he ▸ hkey)
      simp only [get?, hne, if_false]
      exact ih hrest hmem

/-- Members with the same names, under each of which the same is made of both values. -/
theorem map_perm_of_keys {β : Type} {ms ms' : Members α} {f : String → α → β}
    (hd : ms.Distinct) (hkeys : ms.keys.Perm ms'.keys)
    (h : ∀ (key : String) (v w : α), ms.get? key = some v → ms'.get? key = some w →
      f key v = f key w) :
    (ms.map fun m => f m.1 m.2).Perm (ms'.map fun m => f m.1 m.2) := by
  -- Both lists are what is found under the names, and the names are the same.
  have hfound : ∀ ms : Members α, ms.Distinct → (ms.map fun m => some (f m.1 m.2)) =
      ms.keys.map fun key => (ms.get? key).map (f key) := by
    intro ms hd
    rw [keys, List.map_map]
    refine List.map_congr_left fun m hm => ?_
    rw [Function.comp_apply, get?_of_mem hd hm]
    rfl
  have hsame : (ms'.keys.map fun key => (ms'.get? key).map (f key)) =
      ms'.keys.map fun key => (ms.get? key).map (f key) := by
    refine List.map_congr_left fun key hkey => ?_
    obtain ⟨w, hw⟩ := mem_keys_iff.mp hkey
    obtain ⟨v, hv⟩ := mem_keys_iff.mp (hkeys.mem_iff.mpr hkey)
    rw [hv, hw, Option.map_some, Option.map_some, h key v w hv hw]
  have hperm : (ms.map fun m => some (f m.1 m.2)).Perm (ms'.map fun m => some (f m.1 m.2)) := by
    rw [hfound ms hd, hfound ms' (hkeys.nodup_iff.mp hd), hsame]
    exact hkeys.map _
  simpa using hperm.filterMap id

theorem Distinct.set {ms : Members α} (h : ms.Distinct) (key : String) (v : α) :
    (ms.set key v).Distinct := by
  rw [Distinct, keys_set]
  split
  · exact h
  · next hkey =>
    exact List.nodup_append.mpr ⟨h, List.pairwise_singleton _ _, fun a ha b hb hab =>
      hkey (List.mem_singleton.mp hb ▸ hab ▸ ha)⟩

theorem mem_set {ms : Members α} {key : String} {v : α} {m : String × α}
    (h : m ∈ ms.set key v) : m ∈ ms ∨ m = (key, v) := by
  induction ms with
  | nil => exact .inr (List.mem_singleton.mp h)
  | cons n rest ih =>
    obtain ⟨k, u⟩ := n
    by_cases hk : k = key
    · subst hk
      simp only [set, if_true] at h
      rcases List.mem_cons.mp h with rfl | hrest
      · exact .inr rfl
      · exact .inl (List.mem_cons_of_mem _ hrest)
    · simp only [set, hk, if_false] at h
      rcases List.mem_cons.mp h with rfl | hrest
      · exact .inl List.mem_cons_self
      · exact (ih hrest).imp_left (List.mem_cons_of_mem _)

end Members

namespace Value

/-- Induction on a value, through the values inside it. -/
@[elab_as_elim]
theorem nested_induction {motive : Value → Prop} (null : motive .null)
    (bool : ∀ b, motive (.bool b)) (num : ∀ n, motive (.num n)) (str : ∀ s, motive (.str s))
    (arr : ∀ items, (∀ item ∈ items, motive item) → motive (.arr items))
    (obj : ∀ members : Members Value, (∀ m ∈ members, motive m.2) → motive (.obj members)) :
    ∀ v, motive v
  | .null => null
  | .bool b => bool b
  | .num n => num n
  | .str s => str s
  | .arr items => arr items fun item hitem =>
      have := List.sizeOf_lt_of_mem hitem
      nested_induction null bool num str arr obj item
  | .obj members => obj members fun m hm => by
      have hsize := List.sizeOf_lt_of_mem hm
      obtain ⟨key, v⟩ := m
      exact nested_induction null bool num str arr obj v
termination_by v => sizeOf v
decreasing_by all_goals simp_wf; simp at *; omega

/-- No object in the value has a name twice. -/
inductive WellFormed : Value → Prop where
  | null : WellFormed .null
  | bool (b : Bool) : WellFormed (.bool b)
  | num (n : Number) : WellFormed (.num n)
  | str (s : String) : WellFormed (.str s)
  | arr {items : List Value} (h : ∀ item ∈ items, WellFormed item) : WellFormed (.arr items)
  | obj {members : Members Value} (hd : members.Distinct)
    (h : ∀ m ∈ members, WellFormed m.2) : WellFormed (.obj members)

theorem WellFormed.set {members : Members Value} (h : WellFormed (.obj members)) (key : String)
    {v : Value} (hv : v.WellFormed) : WellFormed (.obj (members.set key v)) := by
  cases h with
  | obj hd hmembers =>
    refine .obj (hd.set key v) fun m hm => ?_
    rcases Members.mem_set hm with hm | rfl
    · exact hmembers m hm
    · exact hv

end Value

/-! ## Equality -/

namespace Number

/-- The double of a number is not NaN. -/
theorem exists_position (n : Number) : ∃ place, n.toBinary64.position = some place := by
  cases n with
  | float x => exact ⟨x.units, rfl⟩
  | int n =>
    have hparts : ∀ neg mant shift, ∃ place,
        (Binary64.ofParts neg mant shift).position = some place := by
      intro neg mant shift
      unfold Binary64.ofParts
      split
      · exact ⟨_, rfl⟩
      · cases neg <;> exact ⟨_, rfl⟩
    simp only [toBinary64, Binary64.ofInt, Binary64.ofRatio, Binary64.round]
    split <;> exact hparts _ _ _

theorem eq_self (n : Number) : n.toBinary64.eq n.toBinary64 = true := by
  obtain ⟨place, hplace⟩ := n.exists_position
  simp [Binary64.eq, Binary64.compareWith, hplace]

theorem le_self (n : Number) : n.toBinary64.le n.toBinary64 = true := by
  obtain ⟨place, hplace⟩ := n.exists_position
  simp [Binary64.le, Binary64.compareWith, hplace]

end Number

namespace Value

variable {numbers : Number → Number → Bool}

theorem equalItems_self {items : List Value}
    (h : ∀ item ∈ items, item.equalBy numbers item = true) :
    equalItems numbers items items = true := by
  induction items with
  | nil => rfl
  | cons item rest ih =>
    rw [equalItems, h item List.mem_cons_self,
      ih fun other hother => h other (List.mem_cons_of_mem item hother)]
    rfl

/-- Members are among others if under each of their names the others have an equal value. -/
theorem equalMembers_iff {members among : Members Value} :
    equalMembers numbers members among = true ↔
      ∀ m ∈ members, ∃ w, among.get? m.1 = some w ∧ m.2.equalBy numbers w = true := by
  induction members with
  | nil => exact iff_of_true rfl fun m hm => absurd hm List.not_mem_nil
  | cons m rest ih =>
    rw [equalMembers, Bool.and_eq_true, ih, List.forall_mem_cons]
    refine and_congr_left fun _ => ?_
    cases among.get? m.1 with
    | none => exact iff_of_false Bool.false_ne_true (by rintro ⟨w, hw, -⟩; nomatch hw)
    | some w => exact ⟨fun h => ⟨w, rfl, h⟩, fun ⟨w', hw, h⟩ => Option.some.inj hw ▸ h⟩

theorem WellFormed.equalBy_self {v : Value} (h : v.WellFormed)
    (hself : ∀ n, numbers n n = true) : v.equalBy numbers v = true := by
  induction h with
  | null => rfl
  | bool b => simp [equalBy]
  | num n => exact hself n
  | str s => simp [equalBy]
  | arr _ ih => exact equalItems_self ih
  | obj hd _ ih =>
    rw [equalBy, beq_self_eq_true, Bool.true_and]
    exact equalMembers_iff.mpr fun m hm => ⟨m.2, Members.get?_of_mem hd hm, ih m hm⟩

theorem WellFormed.equal_self {v : Value} (h : v.WellFormed) : v.equal v = true :=
  h.equalBy_self Number.eq_self

end Value
end Amend
