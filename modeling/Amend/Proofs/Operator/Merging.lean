/-
Merging an object into another, at every depth.  Along a path on which both hold objects the result
holds the merge of the two, so that every level is a merge of two lists of members.  At such a level
the names of the target come first, a name that only one side has keeps its value, and of two values
under one name that are not both objects the added one is kept.
-/
import Amend.Proofs.Operator.Settled

namespace Amend

namespace Value

/-- What a value holds under a path of names. -/
def follow? (v : Value) : List String → Option Value
  | [] => some v
  | key :: path => (v.member? key).bind fun w => follow? w path

theorem follow?_append (v : Value) (path more : List String) :
    v.follow? (path ++ more) = (v.follow? path).bind fun w => w.follow? more := by
  induction path generalizing v with
  | nil => rfl
  | cons key path ih =>
    rw [List.cons_append, follow?, follow?, Option.bind_assoc]
    exact Option.bind_congr fun w _ => ih w

theorem exists_obj_of_member? {v w : Value} {key : String} (h : v.member? key = some w) :
    ∃ members : Members Value, v = .obj members ∧ members.get? key = some w := by
  cases v with
  | obj members => exact ⟨members, rfl, h⟩
  | null | bool | num | str | arr => nomatch h

theorem exists_obj_of_follow? {v : Value} {path : List String} {members : Members Value}
    (h : v.follow? path = some (.obj members)) : ∃ outer : Members Value, v = .obj outer := by
  cases path with
  | nil => exact ⟨members, Option.some.inj h⟩
  | cons key path =>
    obtain ⟨w, hw, -⟩ := Option.bind_eq_some_iff.mp h
    obtain ⟨outer, houter, -⟩ := exists_obj_of_member? hw
    exact ⟨outer, houter⟩

theorem WellFormed.member? {v w : Value} {key : String} (h : v.WellFormed)
    (hw : v.member? key = some w) : w.WellFormed := by
  obtain ⟨members, rfl, hget⟩ := exists_obj_of_member? hw
  cases h with
  | obj _ hmembers => exact hmembers _ (Members.mem_of_get? hget)

end Value

namespace Operator
namespace Object

open Value (follow?)

variable {target additions : Members Value} {v : Value} {key : String} {path : List String}

/-! ## One level -/

theorem get?_deepMerge_of_eq_none (h : additions.get? key = none) :
    (deepMerge target additions).get? key = target.get? key :=
  get?_deepMerge_of_not_mem (Members.get?_eq_none_iff.mp h)

theorem get?_deepMerge_of_eq_some (hd : additions.Distinct) (h : additions.get? key = some v) :
    (deepMerge target additions).get? key = some (merged (target.get? key) v) :=
  get?_deepMerge_of_mem hd (Members.mem_of_get? h)

theorem merged_of_not_obj (h : ∀ members, v ≠ .obj members) (current : Option Value) :
    merged current v = v := by
  cases v with
  | obj members => exact absurd rfl (h members)
  | null | bool | num | str | arr => rfl

/-- The names of the target, and the new ones after them. -/
theorem keys_deepMerge (hd : additions.Distinct) :
    (deepMerge target additions).keys =
      target.keys ++ additions.keys.filter fun key => key ∉ target.keys := by
  induction additions generalizing target with
  | nil => exact (List.append_nil _).symm
  | cons m rest ih =>
    obtain ⟨name, w⟩ := m
    obtain ⟨hname, hrest⟩ := List.nodup_cons.mp hd
    rw [deepMerge_cons, ih hrest, Members.keys_set]
    show _ = target.keys ++ List.filter _ (name :: Members.keys rest)
    by_cases hmem : name ∈ target.keys
    · rw [if_pos hmem, List.filter_cons_of_neg (by simpa using hmem)]
    · -- The name is new, and no later one is the same.
      have hsame : ((Members.keys rest).filter fun key => key ∉ target.keys ++ [name]) =
          (Members.keys rest).filter fun key => key ∉ target.keys := by
        refine List.filter_congr fun key hkey => ?_
        have hne : key ≠ name := fun he => hname (he ▸ hkey)
        simp [hne]
      rw [if_neg hmem, hsame, List.filter_cons_of_pos (by simpa using hmem), List.append_assoc]
      rfl

/-! ## Along a path -/

/-- Where both hold objects the result holds the merge of the two. -/
theorem follow?_deepMerge {old new : Members Value} (h : (Value.obj additions).WellFormed)
    (hold : follow? (.obj target) path = some (.obj old))
    (hnew : follow? (.obj additions) path = some (.obj new)) :
    follow? (.obj (deepMerge target additions)) path = some (.obj (deepMerge old new)) ∧
      (Value.obj new).WellFormed := by
  induction path generalizing target additions with
  | nil =>
    cases Option.some.inj hold
    cases Option.some.inj hnew
    exact ⟨rfl, h⟩
  | cons key path ih =>
    obtain ⟨v, hv, hold⟩ := Option.bind_eq_some_iff.mp hold
    obtain ⟨w, hw, hnew⟩ := Option.bind_eq_some_iff.mp hnew
    have hwell := h.member? hw
    obtain ⟨outer, rfl⟩ := Value.exists_obj_of_follow? hold
    obtain ⟨added, rfl⟩ := Value.exists_obj_of_follow? hnew
    obtain ⟨hmerge, hformed⟩ := ih hwell hold hnew
    refine ⟨Option.bind_eq_some_iff.mpr ⟨.obj (deepMerge outer added), ?_, hmerge⟩, hformed⟩
    cases h with
    | obj hd =>
      have hget : target.get? key = some (.obj outer) := hv
      exact (get?_deepMerge_of_eq_some hd hw).trans (by rw [hget]; rfl)

/-- What is merged in holds afterwards whatever it held that is no object. -/
theorem follow?_merged {w : Value} (h : w.WellFormed) (hw : w.follow? path = some v)
    (hv : ∀ members, v ≠ .obj members) (current : Option Value) :
    (merged current w).follow? path = some v := by
  induction path generalizing w current with
  | nil =>
    cases Option.some.inj hw
    rw [merged_of_not_obj hv]
    rfl
  | cons key path ih =>
    obtain ⟨x, hx, hpath⟩ := Option.bind_eq_some_iff.mp hw
    obtain ⟨nested, rfl, hget⟩ := Value.exists_obj_of_member? hx
    have hmerge : ∀ existing : Members Value,
        follow? (.obj (deepMerge existing nested)) (key :: path) = some v := by
      intro existing
      refine Option.bind_eq_some_iff.mpr
        ⟨merged (existing.get? key) x, ?_, ih (h.member? hx) hpath _⟩
      cases h with
      | obj hd => exact get?_deepMerge_of_eq_some hd hget
    -- Only an object is merged with; everything else gives way.
    cases current with
    | none => exact hw
    | some current =>
      cases current with
      | obj existing => exact hmerge existing
      | null | bool | num | str | arr => exact hw

/-- What the target holds is left where the other lacks a name on the way. -/
theorem follow?_deepMerge_of_lacking {new : Members Value} {rest : List String}
    (h : (Value.obj additions).WellFormed)
    (hnew : follow? (.obj additions) path = some (.obj new)) (hlacks : new.get? key = none)
    (hv : follow? (.obj target) (path ++ key :: rest) = some v) :
    follow? (.obj (deepMerge target additions)) (path ++ key :: rest) = some v := by
  rw [Value.follow?_append] at hv ⊢
  obtain ⟨u, hu, hrest⟩ := Option.bind_eq_some_iff.mp hv
  obtain ⟨w, hw, hend⟩ := Option.bind_eq_some_iff.mp hrest
  obtain ⟨old, rfl, hold⟩ := Value.exists_obj_of_member? hw
  obtain ⟨hmerge, -⟩ := follow?_deepMerge h hu hnew
  have hget : (deepMerge old new).get? key = some w :=
    (get?_deepMerge_of_eq_none hlacks).trans hold
  rw [hmerge, Option.bind_some]
  exact Option.bind_eq_some_iff.mpr ⟨w, hget, hend⟩

/-! ## The operator -/

/-- A merge holds every value of the operand that is no object, and every value of the target at
whose path the operand lacks a name below objects of both.  Where both hold objects the names of the
target come first, in their order, and the new ones of the operand after them, in theirs.  Merging
the operand again changes nothing, and neither does merging the empty object. -/
theorem transform_merge {stored : Option Value} (hstored : stored? stored = .ok target)
    (h : (Value.obj additions).WellFormed) :
    let merge := Value.obj (deepMerge target additions)
    Object.merge.transform stored (.value (.obj additions)) = .ok merge ∧
    (∀ path v, follow? (.obj additions) path = some v → (∀ members, v ≠ .obj members) →
      merge.follow? path = some v) ∧
    (∀ path key rest v (new : Members Value), follow? (.obj additions) path = some (.obj new) →
      new.get? key = none → follow? (.obj target) (path ++ key :: rest) = some v →
      merge.follow? (path ++ key :: rest) = some v) ∧
    (∀ path (old new : Members Value), follow? (.obj target) path = some (.obj old) →
      follow? (.obj additions) path = some (.obj new) →
      ∃ both : Members Value, merge.follow? path = some (.obj both) ∧
        both.keys = old.keys ++ new.keys.filter fun key => key ∉ old.keys) ∧
    deepMerge (deepMerge target additions) additions = deepMerge target additions ∧
    deepMerge target [] = target := by
  intro merge
  refine ⟨?_, ?_, ?_, ?_, deepMerge_again h target, rfl⟩
  · exact transform_eq_ok_iff.mpr ⟨target, _, hstored, rfl, rfl⟩
  · exact fun path v hv hnot => follow?_merged h hv hnot (some (.obj target))
  · exact fun path key rest v new hnew hlacks hv => follow?_deepMerge_of_lacking h hnew hlacks hv
  · intro path old new hold hnew
    obtain ⟨hmerge, hformed⟩ := follow?_deepMerge h hold hnew
    cases hformed with
    | obj hd => exact ⟨_, hmerge, keys_deepMerge hd⟩

/-- Objects under one name are merged, an array is overwritten. -/
theorem transform_merge_nested :
    let target : Members Value :=
      [("a", .obj [("x", .int 1), ("y", .int 2)]), ("b", .arr [.int 1])]
    let additions : Members Value :=
      [("c", .bool true), ("b", .arr [.int 2]), ("a", .obj [("z", .int 30), ("y", .null)])]
    ∃ merge : Value,
      Object.merge.transform (some (.obj target)) (.value (.obj additions)) = .ok merge ∧
      merge.follow? ["b"] = some (.arr [.int 2]) ∧ merge.follow? ["a", "y"] = some .null ∧
      merge.follow? ["a", "x"] = some (.int 1) ∧
      (∃ both : Members Value, merge.follow? ["a"] = some (.obj both) ∧
        both.keys = ["x", "y", "z"]) ∧
      Object.merge.transform (some merge) (.value (.obj additions)) = .ok merge := by
  intro target additions
  have hinner : (Value.obj [("z", .int 30), ("y", .null)]).WellFormed :=
    .obj (show ["z", "y"].Nodup by decide)
      (List.forall_mem_cons.mpr ⟨.num _, List.forall_mem_cons.mpr ⟨.null, nofun⟩⟩)
  have hitems : (Value.arr [.int 2]).WellFormed :=
    .arr (List.forall_mem_cons.mpr ⟨.num _, nofun⟩)
  have hformed : (Value.obj additions).WellFormed :=
    .obj (show ["c", "b", "a"].Nodup by decide) (List.forall_mem_cons.mpr ⟨.bool true,
      List.forall_mem_cons.mpr ⟨hitems, List.forall_mem_cons.mpr ⟨hinner, nofun⟩⟩⟩)
  have hstored : stored? (some (.obj target)) = .ok target := rfl
  obtain ⟨hmerge, hadded, hkept, hlevel, hagain, -⟩ := transform_merge hstored hformed
  refine ⟨_, hmerge, hadded ["b"] _ rfl nofun, hadded ["a", "y"] _ rfl nofun,
    hkept ["a"] "x" [] _ _ rfl rfl rfl, hlevel ["a"] _ _ rfl rfl, ?_⟩
  have hsecond : stored? (some (.obj (deepMerge target additions))) =
      .ok (deepMerge target additions) := rfl
  obtain ⟨hmerge, -⟩ := transform_merge hsecond hformed
  rw [hmerge, hagain]

end Object
end Operator
end Amend
