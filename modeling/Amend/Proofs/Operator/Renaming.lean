/-
Renaming the members of an object.  All members get their new names at once, so names can be swapped
or handed on.  Of members that get one name the first gives the place and the last the value.  Where
no two get one name nothing is lost, and the table that takes every new name back to the old one
restores the object: a member that was not renamed keeps its name, since no renamed one has taken
it.
-/
import Mathlib.Data.List.Nodup
import Amend.Proofs.Operator.Settled

namespace Amend

namespace Operator
namespace Object

variable {members : Members Value} {operand : Operand} {name : String → String}
  {keys listed : List String}

/-- A mapper, or a table with a string for every key that it lists, renames keys: the new names, and
the keys that it gives one.  The others keep their own. -/
inductive Renames (keys : List String) : Operand → (String → String) → List String → Prop where
  | mapper (name : String → String) : Renames keys (.keyMapper name) name keys
  | table {table : Members Value} {name : String → String}
      (h : ∀ key ∈ keys, table.get? key = some (.str (name key)) ∨
        table.get? key = none ∧ name key = key) :
      Renames keys (.value (.obj table)) name (keys.filter table.contains)

/-- The table from the new names to the old ones. -/
def backTable (name : String → String) (listed : List String) : Members Value :=
  listed.map fun key => (name key, .str key)

/-- No two keys get one name. -/
def Separates (name : String → String) (keys : List String) : Prop :=
  ∀ a ∈ keys, ∀ b ∈ keys, name a = name b → a = b

theorem Renames.sublist (h : Renames keys operand name listed) : listed.Sublist keys := by
  cases h with
  | mapper => exact List.Sublist.refl keys
  | table => exact List.filter_sublist

theorem Renames.name_eq_self (h : Renames keys operand name listed) {key : String}
    (hkey : key ∈ keys) (hlisted : key ∉ listed) : name key = key := by
  cases h with
  | mapper => exact absurd hkey hlisted
  | @table table _ h =>
    rcases h key hkey with hget | ⟨-, hname⟩
    · have hcontains : table.contains key = true := by rw [Members.contains, hget]; rfl
      exact absurd (List.mem_filter.mpr ⟨hkey, hcontains⟩) hlisted
    · exact hname

/-- A table takes members to others where it gives every key its new name. -/
theorem renamed_table {table named : Members Value}
    (h : List.Forall₂ (fun m m' => tableName table m.1 = .ok m'.1 ∧ m.2 = m'.2) members named) :
    renamed members (.value (.obj table)) = .ok (Members.ofList named) := by
  refine bind_eq_ok_iff.mpr ⟨named, mapM_eq_ok (h.imp fun m m' hm => ?_), rfl⟩
  exact bind_eq_ok_iff.mpr ⟨m'.1, hm.1, congrArg (fun v => Except.ok (m'.1, v)) hm.2⟩

theorem Renames.renamed_eq (h : Renames members.keys operand name listed) :
    renamed members operand = .ok (rename name members) := by
  cases h with
  | mapper => rfl
  | @table table _ h =>
    refine renamed_table (List.forall₂_map_right_iff.mpr (List.forall₂_same.mpr fun m hm => ?_))
    have hkey : m.1 ∈ members.keys := List.mem_map_of_mem hm
    refine ⟨?_, rfl⟩
    unfold tableName
    rcases h m.1 hkey with hget | ⟨hget, hname⟩
    · rw [hget]
    · rw [hget, hname]

/-! ## Back again -/

theorem Separates.map_distinct (h : Separates name members.keys) (hd : members.Distinct) :
    Members.Distinct (members.map fun m => (name m.1, m.2)) := by
  have hnames : (members.keys.map name).Nodup := hd.map_on h
  rw [Members.keys, List.map_map] at hnames
  rw [Members.Distinct, Members.keys_map]
  exact hnames

theorem Separates.backTable_distinct (h : Separates name keys) (hd : keys.Nodup)
    (hlisted : listed.Sublist keys) : (backTable name listed).Distinct := by
  rw [Members.Distinct, backTable, Members.keys_map]
  exact (hlisted.nodup hd).map_on fun a ha b hb => h a (hlisted.subset ha) b (hlisted.subset hb)

/-- Every new name leads back, also that of a key which was not listed. -/
theorem Renames.tableName_backTable (h : Renames keys operand name listed)
    (hseparates : Separates name keys) (hd : keys.Nodup) {key : String} (hkey : key ∈ keys) :
    tableName (backTable name listed) (name key) = .ok key := by
  have hdistinct := hseparates.backTable_distinct hd h.sublist
  unfold tableName
  by_cases hlisted : key ∈ listed
  · have hmem : (name key, Value.str key) ∈ backTable name listed :=
      List.mem_map.mpr ⟨key, hlisted, rfl⟩
    rw [Members.get?_of_mem hdistinct hmem]
  · have hnone : (backTable name listed).get? (name key) = none := by
      refine Members.get?_eq_none_iff.mpr fun hmem => ?_
      obtain ⟨m, hm, hname⟩ := List.mem_map.mp hmem
      obtain ⟨other, hother, rfl⟩ := List.mem_map.mp hm
      -- A listed key with this new name would be the key itself.
      have hsame : other = key := hseparates other (h.sublist.subset hother) key hkey hname
      exact hlisted (hsame ▸ hother)
    rw [hnone, h.name_eq_self hkey hlisted]

theorem Renames.renamed_backTable (h : Renames members.keys operand name listed)
    (hseparates : Separates name members.keys) (hd : members.Distinct) :
    renamed (members.map fun m => (name m.1, m.2)) (.value (.obj (backTable name listed))) =
      .ok members := by
  have hback : List.Forall₂ (fun m m' => tableName (backTable name listed) m.1 = .ok m'.1 ∧
      m.2 = m'.2) (members.map fun m => (name m.1, m.2)) members := by
    refine List.forall₂_map_left_iff.mpr (List.forall₂_same.mpr fun m hm => ⟨?_, rfl⟩)
    have hkey : m.1 ∈ members.keys := List.mem_map_of_mem hm
    exact h.tableName_backTable hseparates hd hkey
  rw [renamed_table hback, Members.ofList_of_distinct hd]

/-! ## The operator -/

/-- Renaming gives the new names in the order in which they first come along the members, and each
the value of the last member with that name.  Where no two members get one name every member keeps
its place and its value, and the table back from the new names of the listed keys restores the
object. -/
theorem transform_mapKeys {stored : Option Value} (hstored : stored? stored = .ok members)
    (hd : members.Distinct) (h : Renames members.keys operand name listed) :
    ∃ renamed : Members Value,
      Object.mapKeys.transform stored operand = .ok (.obj renamed) ∧
      renamed.keys = (members.keys.map name).eraseDups ∧
      (∀ key, renamed.get? key =
        ((members.filter fun m => name m.1 == key).getLast?).map Prod.snd) ∧
      (Separates name members.keys →
        renamed = members.map (fun m => (name m.1, m.2)) ∧
        (Value.obj (backTable name listed)).WellFormed ∧
        Object.mapKeys.transform (some (.obj renamed)) (.value (.obj (backTable name listed))) =
          .ok (.obj members)) := by
  refine ⟨rename name members, ?_, ?_, fun key => ?_, fun hseparates => ?_⟩
  · exact transform_eq_ok_iff.mpr ⟨members, _, hstored, h.renamed_eq, rfl⟩
  · rw [rename, Members.keys_ofList, Members.keys, List.map_map, List.map_map]
    rfl
  · rw [rename, Members.get?_ofList, List.filter_map, List.getLast?_map, Option.map_map]
    rfl
  · have hall : rename name members = members.map fun m => (name m.1, m.2) :=
      Members.ofList_of_distinct (hseparates.map_distinct hd)
    refine ⟨hall, .obj (hseparates.backTable_distinct hd h.sublist) fun m hm => ?_, ?_⟩
    · obtain ⟨key, -, rfl⟩ := List.mem_map.mp hm
      exact .str key
    · rw [hall]
      exact transform_eq_ok_iff.mpr ⟨_, members, rfl, h.renamed_backTable hseparates hd, rfl⟩

/-- Two names are swapped beside a third, and swapped back. -/
theorem transform_mapKeys_swap :
    let members : Members Value := [("a", .int 1), ("b", .int 2), ("c", .int 3)]
    let table : Value := .obj [("b", .str "a"), ("a", .str "b"), ("d", .str "c")]
    let swapped : Value := .obj [("b", .int 1), ("a", .int 2), ("c", .int 3)]
    Object.mapKeys.transform (some (.obj members)) (.value table) = .ok swapped ∧
      Object.mapKeys.transform (some swapped)
        (.value (.obj [("b", .str "a"), ("a", .str "b")])) = .ok (.obj members) := by
  intro members table swapped
  let name : String → String := fun key => if key = "a" then "b" else if key = "b" then "a" else key
  have hstored : stored? (some (.obj members)) = .ok members := rfl
  have hd : members.Distinct := show ["a", "b", "c"].Nodup by decide
  have hnames : ∀ key ∈ ["a", "b", "c"],
      Members.get? [("b", .str "a"), ("a", .str "b"), ("d", .str "c")] key =
        some (Value.str (name key)) ∨
      Members.get? [("b", .str "a"), ("a", .str "b"), ("d", .str "c")] key =
        (none : Option Value) ∧ name key = key := by
    intro key hkey
    simp only [List.mem_cons, List.not_mem_nil, or_false] at hkey
    rcases hkey with rfl | rfl | rfl
    · exact .inl rfl
    · exact .inl rfl
    · exact .inr ⟨rfl, rfl⟩
  have hseparates : Separates name ["a", "b", "c"] := by
    unfold Separates
    decide
  obtain ⟨renamed, hrenamed, -, -, hback⟩ := transform_mapKeys hstored hd (.table hnames)
  obtain ⟨rfl, -, hrestored⟩ := hback hseparates
  exact ⟨hrenamed, hrestored⟩

/-- Of two members with one name the first gives the place and the second the value. -/
example :
    rename (fun key => if key = "c" then "a" else key)
      [("a", .int 1), ("b", .int 2), ("c", .int 3)] = [("a", .int 3), ("b", .int 2)] := rfl

end Object
end Operator
end Amend
