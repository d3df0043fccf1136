/-
Values up to the order of members.  Two objects are the same up to order when they have the same
names and under each name values that are the same up to order; arrays are compared place by place
and everything else exactly.  Writing one value to two such objects, or two such values, leaves
them the same up to order, and so does writing to two names in either order.
-/
import Amend.Json.Value
import Amend.Proofs.Json.Members
import Amend.Proofs.Outcome

namespace Amend

/-- Equality of values up to the order of members, at every depth. -/
inductive Reordered : Value → Value → Prop where
  | refl (v : Value) : Reordered v v
  | arr {items items' : List Value} (hlength : items.length = items'.length)
    (h : ∀ (i : Nat) (v w : Value), items[i]? = some v → items'[i]? = some w → Reordered v w) :
    Reordered (.arr items) (.arr items')
  | obj {members members' : Members Value} (hkeys : members.keys.Perm members'.keys)
    (h : ∀ (key : String) (v w : Value),
      members.get? key = some v → members'.get? key = some w → Reordered v w) :
    Reordered (.obj members) (.obj members')

namespace Reordered

theorem symm {v w : Value} (h : Reordered v w) : Reordered w v := by
  induction h with
  | refl v => exact .refl v
  | arr hlength _ ih => exact .arr hlength.symm fun i v w hv hw => ih i w v hw hv
  | obj hkeys _ ih => exact .obj hkeys.symm fun key v w hv hw => ih key w v hw hv

theorem trans {u v w : Value} (huv : Reordered u v) (hvw : Reordered v w) : Reordered u w := by
  induction huv generalizing w with
  | refl v => exact hvw
  | @arr items items' hlength h ih =>
    cases hvw with
    | refl => exact .arr hlength h
    | arr hlength' h' =>
      refine .arr (hlength.trans hlength') fun i a c ha hc => ?_
      have hi : i < items'.length := hlength ▸ (List.getElem?_eq_some_iff.mp ha).1
      have hb : items'[i]? = some items'[i] := List.getElem?_eq_getElem hi
      exact ih i a _ ha hb (h' i _ c hb hc)
  | @obj members members' hkeys h ih =>
    cases hvw with
    | refl => exact .obj hkeys h
    | obj hkeys' h' =>
      refine .obj (hkeys.trans hkeys') fun key a c ha hc => ?_
      obtain ⟨b, hb⟩ := Members.mem_keys_iff.mp
        (hkeys.mem_iff.mp (Members.mem_keys_iff.mpr ⟨a, ha⟩))
      exact ih key a b ha hb (h' key b c hb hc)

theorem equivalence : Equivalence Reordered := ⟨refl, symm, trans⟩

/-! ## Looking up and writing -/

/-- Values that are the same up to order have the same members up to order. -/
theorem get? {members members' : Members Value} (h : Reordered (.obj members) (.obj members'))
    (key : String) : Option.Rel Reordered (members.get? key) (members'.get? key) := by
  cases h with
  | refl => exact rel_self .refl _
  | obj hkeys h => exact Members.rel_get? hkeys h key

theorem getElem? {items items' : List Value} (h : Reordered (.arr items) (.arr items')) (i : Nat) :
    Option.Rel Reordered items[i]? items'[i]? := by
  cases h with
  | refl => exact rel_self .refl _
  | arr hlength h =>
    by_cases hi : i < items.length
    · have hi' : i < items'.length := hlength ▸ hi
      have hv := List.getElem?_eq_getElem hi
      have hw := List.getElem?_eq_getElem hi'
      rw [hv, hw]
      exact .some (h i _ _ hv hw)
    · rw [List.getElem?_eq_none (Nat.le_of_not_lt hi),
        List.getElem?_eq_none (hlength ▸ Nat.le_of_not_lt hi)]
      exact .none

theorem keys_perm {members members' : Members Value}
    (h : Reordered (.obj members) (.obj members')) : members.keys.Perm members'.keys := by
  cases h with
  | refl => exact .refl _
  | obj hkeys _ => exact hkeys

theorem length_eq {items items' : List Value} (h : Reordered (.arr items) (.arr items')) :
    items.length = items'.length := by
  cases h with
  | refl => rfl
  | arr hlength _ => exact hlength

theorem of_rel {v w : Value} {a b : Option Value} (h : Option.Rel Reordered a b)
    (hv : a = some v) (hw : b = some w) : Reordered v w := by
  subst hv hw
  cases h with
  | some h => exact h

theorem set {members members' : Members Value} {v w : Value}
    (h : Reordered (.obj members) (.obj members')) (hvw : Reordered v w) (key : String) :
    Reordered (.obj (members.set key v)) (.obj (members'.set key w)) := by
  refine .obj ?_ fun name a b ha hb => ?_
  · rw [Members.keys_set, Members.keys_set]
    by_cases hkey : key ∈ members.keys
    · rw [if_pos hkey, if_pos (h.keys_perm.mem_iff.mp hkey)]
      exact h.keys_perm
    · rw [if_neg hkey, if_neg (fun hmem => hkey (h.keys_perm.mem_iff.mpr hmem))]
      exact h.keys_perm.append_right [key]
  · by_cases hname : key = name
    · subst hname
      rw [Members.get?_set_self, Option.some.injEq] at ha hb
      rw [← ha, ← hb]
      exact hvw
    · rw [Members.get?_set_of_ne _ _ hname] at ha hb
      exact of_rel (h.get? name) ha hb

/-- New names come in the order in which they are written, and that is all that the order of two
writes decides. -/
theorem set_comm (members : Members Value) {key other : String} (hne : key ≠ other)
    (v w : Value) :
    Reordered (.obj ((members.set key v).set other w))
      (.obj ((members.set other w).set key v)) := by
  refine .obj ?_ fun name a b ha hb => ?_
  · simp only [Members.keys_set]
    by_cases hkey : key ∈ members.keys <;> by_cases hother : other ∈ members.keys <;>
      simp only [hkey, hother, if_true, if_false, List.mem_append, List.mem_singleton, hne,
        Ne.symm hne, or_false, List.append_assoc, List.Perm.refl]
    exact (List.Perm.swap other key []).append_left members.keys
  · by_cases hkey : key = name
    · subst hkey
      rw [Members.get?_set_of_ne _ _ (Ne.symm hne), Members.get?_set_self] at ha
      rw [Members.get?_set_self] at hb
      rw [Option.some.inj (ha.symm.trans hb)]
      exact .refl b
    · have hsame : ((members.set key v).set other w).get? name =
          ((members.set other w).set key v).get? name := by
        by_cases hother : other = name
        · subst hother
          rw [Members.get?_set_self, Members.get?_set_of_ne _ _ hkey, Members.get?_set_self]
        · rw [Members.get?_set_of_ne _ _ hother, Members.get?_set_of_ne _ _ hkey,
            Members.get?_set_of_ne _ _ hkey, Members.get?_set_of_ne _ _ hother]
      rw [hsame] at ha
      rw [Option.some.inj (ha.symm.trans hb)]
      exact .refl b

theorem listSet {items items' : List Value} {v w : Value}
    (h : Reordered (.arr items) (.arr items')) (hvw : Reordered v w) (i : Nat) :
    Reordered (.arr (items.set i v)) (.arr (items'.set i w)) := by
  refine .arr (by rw [List.length_set, List.length_set, h.length_eq]) fun j a b ha hb => ?_
  by_cases hij : i = j
  · subst hij
    rw [List.getElem?_set_self'] at ha hb
    obtain ⟨-, -, rfl⟩ := Option.map_eq_some_iff.mp ha
    obtain ⟨-, -, rfl⟩ := Option.map_eq_some_iff.mp hb
    exact hvw
  · rw [List.getElem?_set_ne hij] at ha hb
    exact of_rel (h.getElem? j) ha hb

end Reordered
end Amend
