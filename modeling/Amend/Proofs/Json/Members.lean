/-
Writing to ordered members.  A second write under one name replaces the first, writing back what
a name has changes nothing, and no write moves or drops a name.  Members that are written one after
the other have the names in the order in which they first came, each with its last value.
-/
import Mathlib.Data.List.Induction
import Amend.Json.Value

namespace Amend
namespace Members

variable {α : Type}

theorem set_set (ms : Members α) (key : String) (v w : α) :
    (ms.set key v).set key w = ms.set key w := by
  induction ms with
  | nil => simp [set]
  | cons m rest ih =>
    obtain ⟨k, u⟩ := m
    by_cases h : k = key
    · simp only [set, h, if_true]
    · simp only [set, h, if_false, ih]

theorem set_of_get?_eq {ms : Members α} {key : String} {v : α} (h : ms.get? key = some v) :
    ms.set key v = ms := by
  induction ms with
  | nil => simp at h
  | cons m rest ih =>
    obtain ⟨k, u⟩ := m
    by_cases hk : k = key
    · simp only [get?, hk, if_true, Option.some.injEq] at h
      simp only [set, hk, if_true, h]
    · simp only [get?, hk, if_false] at h
      simp only [set, hk, if_false, ih h]

/-- A write keeps every name at its place; a new name comes last. -/
theorem keys_prefix_keys_set (ms : Members α) (key : String) (v : α) :
    ms.keys <+: (ms.set key v).keys := by
  induction ms with
  | nil => exact List.nil_prefix
  | cons m rest ih =>
    obtain ⟨k, u⟩ := m
    by_cases h : k = key
    · simp only [set, h, if_true]
      exact List.prefix_refl _
    · simp only [set, h, if_false]
      exact List.cons_prefix_cons.mpr ⟨rfl, ih⟩

/-! ## Names -/

theorem mem_keys_iff {ms : Members α} {key : String} :
    key ∈ ms.keys ↔ ∃ v, ms.get? key = some v := by
  induction ms with
  | nil => simp [keys]
  | cons m rest ih =>
    obtain ⟨k, u⟩ := m
    by_cases h : k = key
    · simp [keys, get?, h]
    · have hkeys : key ∈ keys ((k, u) :: rest) ↔ key ∈ keys rest := by
        simp [keys, Ne.symm h]
      simp only [hkeys, ih, get?, h, if_false]

theorem get?_eq_none_iff {ms : Members α} {key : String} :
    ms.get? key = none ↔ key ∉ ms.keys := by
  rw [mem_keys_iff, Option.eq_none_iff_forall_ne_some, not_exists]

/-- Members with the same names are related under each of them if what both have is. -/
theorem rel_get? {β : Type} {rel : α → β → Prop} {ms : Members α} {ms' : Members β}
    (hkeys : ms.keys.Perm ms'.keys)
    (h : ∀ (key : String) (v : α) (w : β), ms.get? key = some v → ms'.get? key = some w → rel v w)
    (key : String) : Option.Rel rel (ms.get? key) (ms'.get? key) := by
  cases hv : ms.get? key with
  | none =>
    have hkey : key ∉ ms'.keys := fun hmem =>
      get?_eq_none_iff.mp hv (hkeys.mem_iff.mpr hmem)
    rw [get?_eq_none_iff.mpr hkey]
    exact .none
  | some v =>
    obtain ⟨w, hw⟩ := mem_keys_iff.mp (hkeys.mem_iff.mp (mem_keys_iff.mpr ⟨v, hv⟩))
    rw [hw]
    exact .some (h key v w hv hw)

/-- A new name comes last. -/
theorem set_of_not_mem {ms : Members α} {key : String} (h : key ∉ ms.keys) (v : α) :
    ms.set key v = ms ++ [(key, v)] := by
  induction ms with
  | nil => rfl
  | cons m rest ih =>
    obtain ⟨k, u⟩ := m
    obtain ⟨hk, hrest⟩ := not_or.mp (mt List.mem_cons.mpr h)
    rw [set, if_neg (Ne.symm hk), ih hrest]
    rfl

theorem keys_set (ms : Members α) (key : String) (v : α) :
    (ms.set key v).keys = if key ∈ ms.keys then ms.keys else ms.keys ++ [key] := by
  induction ms with
  | nil => rfl
  | cons m rest ih =>
    obtain ⟨k, u⟩ := m
    by_cases h : k = key
    · subst h
      simp [set, keys]
    · have hkeys : key ∈ keys ((k, u) :: rest) ↔ key ∈ keys rest := by
        simp [keys, Ne.symm h]
      simp only [set, h, if_false, hkeys]
      show k :: keys (set rest key v) = _
      rw [ih]
      split <;> rfl

/-! ## Members from a list -/

theorem keys_map {β : Type} (f : β → String × α) (items : List β) :
    keys (items.map f) = items.map fun item => (f item).1 := by
  rw [keys, List.map_map]
  rfl

theorem ofList_append_singleton (ms : List (String × α)) (m : String × α) :
    ofList (ms ++ [m]) = (ofList ms).set m.1 m.2 := by
  rw [ofList, ofList, List.foldl_append]
  rfl

theorem eraseDups_append_singleton {β : Type} [DecidableEq β] (names : List β) (name : β) :
    (names ++ [name]).eraseDups =
      if name ∈ names.eraseDups then names.eraseDups else names.eraseDups ++ [name] := by
  rw [List.eraseDups_append]
  by_cases h : name ∈ names
  · rw [if_pos (List.mem_eraseDups.mpr h)]
    simp [List.removeAll, h]
  · rw [if_neg (mt List.mem_eraseDups.mp h)]
    simp [List.removeAll, h, List.eraseDups_cons]

theorem keys_ofList (ms : List (String × α)) : (ofList ms).keys = (ms.map Prod.fst).eraseDups := by
  induction ms using List.reverseRecOn with
  | nil => rfl
  | append_singleton ms m ih =>
    rw [ofList_append_singleton, keys_set, ih, List.map_append, List.map_singleton,
      eraseDups_append_singleton]

/-- Of members with one name the last gives the value. -/
theorem get?_ofList (ms : List (String × α)) (key : String) :
    (ofList ms).get? key = ((ms.filter fun m => m.1 == key).getLast?).map Prod.snd := by
  induction ms using List.reverseRecOn with
  | nil => rfl
  | append_singleton ms m ih =>
    obtain ⟨name, v⟩ := m
    rw [ofList_append_singleton, List.filter_append]
    by_cases h : name = key
    · subst h
      simp [get?_set_self]
    · rw [get?_set_of_ne _ _ h, ih]
      simp [h]

theorem ofList_of_distinct {ms : Members α} (h : ms.Distinct) : ofList ms = ms := by
  induction ms using List.reverseRecOn with
  | nil => rfl
  | append_singleton ms m ih =>
    rw [Distinct, keys, List.map_append] at h
    obtain ⟨hms, -, hnew⟩ := List.nodup_append.mp h
    have hkey : m.1 ∉ keys ms := fun hmem => hnew _ hmem _ List.mem_cons_self rfl
    rw [ofList_append_singleton, ih hms, set_of_not_mem hkey]

end Members
end Amend
