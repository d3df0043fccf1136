/-
Equality of values as a relation, and the order beside it.  Objects are equal where they have the
same names and equal values under each of them, so equality is an equivalence as far as the
equality of numbers is one.  The order compares kinds first, and then numbers by their places,
strings and truth values.  It ties exactly where equality holds, but for containers, which it does
not look into.
-/
import Mathlib.Data.List.Perm.Subperm
import Amend.Proofs.Json.Comparison
import Amend.Proofs.Json.Related

namespace Amend
namespace Value

variable {numbers : Number → Number → Bool} {u v w : Value} {items items' items'' : List Value}
  {members members' : Members Value}

/-! ## Equality -/

/-- Objects are equal where they have the same names, and equal values under each. -/
theorem equalBy_obj_iff (hd : members.Distinct) :
    (Value.obj members).equalBy numbers (.obj members') = true ↔
      members.keys.Perm members'.keys ∧
        ∀ (key : String) (v w : Value), members.get? key = some v → members'.get? key = some w →
          v.equalBy numbers w = true := by
  rw [equalBy, Bool.and_eq_true, beq_iff_eq, equalMembers_iff]
  constructor
  · rintro ⟨hlength, h⟩
    have hsubset : members.keys ⊆ members'.keys := by
      intro key hkey
      obtain ⟨v, hv⟩ := Members.mem_keys_iff.mp hkey
      obtain ⟨w, hw, -⟩ := h _ (Members.mem_of_get? hv)
      exact Members.mem_keys_iff.mpr ⟨w, hw⟩
    have hle : members'.keys.length ≤ members.keys.length := by
      rw [Members.keys, Members.keys, List.length_map, List.length_map]
      exact Nat.le_of_eq hlength.symm
    refine ⟨(List.subperm_of_subset hd hsubset).perm_of_length_le hle, ?_⟩
    intro key v w hv hw
    obtain ⟨w', hw', hequal⟩ := h _ (Members.mem_of_get? hv)
    rwa [Option.some.inj (hw'.symm.trans hw)] at hequal
  · rintro ⟨hkeys, h⟩
    have hlength := hkeys.length_eq
    rw [Members.keys, Members.keys, List.length_map, List.length_map] at hlength
    refine ⟨hlength, fun m hm => ?_⟩
    have hv := Members.get?_of_mem hd hm
    obtain ⟨w, hw⟩ := Members.mem_keys_iff.mp
      (hkeys.mem_iff.mp (Members.mem_keys_iff.mpr ⟨m.2, hv⟩))
    exact ⟨w, hw, h m.1 m.2 w hv hw⟩

theorem equalItems_symm
    (h : ∀ v ∈ items, ∀ w ∈ items', v.equalBy numbers w = true → w.equalBy numbers v = true)
    (hitems : equalItems numbers items items' = true) :
    equalItems numbers items' items = true := by
  induction items generalizing items' with
  | nil =>
    cases items' with
    | nil => rfl
    | cons w rest' => nomatch hitems
  | cons v rest ih =>
    cases items' with
    | nil => nomatch hitems
    | cons w rest' =>
      obtain ⟨hfirst, hrest⟩ := Bool.and_eq_true_iff.mp hitems
      refine Bool.and_eq_true_iff.mpr
        ⟨h v List.mem_cons_self w List.mem_cons_self hfirst, ih (fun a ha b hb => ?_) hrest⟩
      exact h a (List.mem_cons_of_mem v ha) b (List.mem_cons_of_mem w hb)

theorem equalItems_trans
    (h : ∀ u ∈ items, ∀ v w, u.equalBy numbers v = true → v.equalBy numbers w = true →
      u.equalBy numbers w = true)
    (hitems : equalItems numbers items items' = true)
    (hitems' : equalItems numbers items' items'' = true) :
    equalItems numbers items items'' = true := by
  induction items generalizing items' items'' with
  | nil =>
    cases items' with
    | nil => exact hitems'
    | cons v rest' => nomatch hitems
  | cons u rest ih =>
    cases items' with
    | nil => nomatch hitems
    | cons v rest' =>
      cases items'' with
      | nil => nomatch hitems'
      | cons w rest'' =>
        obtain ⟨hfirst, hrest⟩ := Bool.and_eq_true_iff.mp hitems
        obtain ⟨hfirst', hrest'⟩ := Bool.and_eq_true_iff.mp hitems'
        refine Bool.and_eq_true_iff.mpr
          ⟨h u List.mem_cons_self v w hfirst hfirst', ih (fun a ha => ?_) hrest hrest'⟩
        exact h a (List.mem_cons_of_mem u ha)

theorem WellFormed.equalBy_symm
    (hnumbers : ∀ a b, numbers a b = true → numbers b a = true) (hv : v.WellFormed)
    (hw : w.WellFormed) (h : v.equalBy numbers w = true) : w.equalBy numbers v = true := by
  induction hv generalizing w with
  | null =>
    cases w with
    | null => rfl
    | bool | num | str | arr | obj => nomatch h
  | bool b =>
    cases w with
    | bool b' => exact BEq.symm h
    | null | num | str | arr | obj => nomatch h
  | num a =>
    cases w with
    | num b => exact hnumbers a b h
    | null | bool | str | arr | obj => nomatch h
  | str s =>
    cases w with
    | str t => exact BEq.symm h
    | null | bool | num | arr | obj => nomatch h
  | @arr items _ ih =>
    cases hw with
    | arr hitems' => exact equalItems_symm (fun v hv w hw => ih v hv (hitems' w hw)) h
    | null | bool | num | str | obj => nomatch h
  | @obj members hd _ ih =>
    cases hw with
    | obj hd' hmembers' =>
      obtain ⟨hkeys, hvalues⟩ := (equalBy_obj_iff hd).mp h
      refine (equalBy_obj_iff hd').mpr ⟨hkeys.symm, fun key w v hw hv => ?_⟩
      exact ih _ (Members.mem_of_get? hv) (hmembers' _ (Members.mem_of_get? hw))
        (hvalues key v w hv hw)
    | null | bool | num | str | arr => nomatch h

/-- The names of the first object are those of the second, so only the first need be known to have
each name once. -/
theorem WellFormed.equalBy_trans
    (hnumbers : ∀ a b c, numbers a b = true → numbers b c = true → numbers a c = true)
    (hu : u.WellFormed) (huv : u.equalBy numbers v = true) (hvw : v.equalBy numbers w = true) :
    u.equalBy numbers w = true := by
  induction hu generalizing v w with
  | null =>
    cases v with
    | null => exact hvw
    | bool | num | str | arr | obj => nomatch huv
  | bool b =>
    cases v with
    | bool b' => exact eq_of_beq huv ▸ hvw
    | null | num | str | arr | obj => nomatch huv
  | num a =>
    cases v with
    | num b =>
      cases w with
      | num c => exact hnumbers a b c huv hvw
      | null | bool | str | arr | obj => nomatch hvw
    | null | bool | str | arr | obj => nomatch huv
  | str s =>
    cases v with
    | str t => exact eq_of_beq huv ▸ hvw
    | null | bool | num | arr | obj => nomatch huv
  | @arr items _ ih =>
    cases v with
    | arr items' =>
      cases w with
      | arr items'' => exact equalItems_trans (fun u hu v w => ih u hu) huv hvw
      | null | bool | num | str | obj => nomatch hvw
    | null | bool | num | str | obj => nomatch huv
  | @obj members hd _ ih =>
    cases v with
    | obj members' =>
      cases w with
      | obj members'' =>
        obtain ⟨hkeys, hvalues⟩ := (equalBy_obj_iff hd).mp huv
        obtain ⟨hkeys', hvalues'⟩ := (equalBy_obj_iff (hkeys.nodup_iff.mp hd)).mp hvw
        refine (equalBy_obj_iff hd).mpr ⟨hkeys.trans hkeys', fun key a c ha hc => ?_⟩
        obtain ⟨b, hb⟩ := Members.mem_keys_iff.mp
          (hkeys.mem_iff.mp (Members.mem_keys_iff.mpr ⟨a, ha⟩))
        exact ih _ (Members.mem_of_get? ha) (hvalues key a b ha hb) (hvalues' key b c hb hc)
      | null | bool | num | str | arr => nomatch hvw
    | null | bool | num | str | arr => nomatch huv

open Number (Coincide)

theorem WellFormed.equal_symm (hv : v.WellFormed) (hw : w.WellFormed) (h : v.equal w = true) :
    w.equal v = true := by
  refine hv.equalBy_symm (fun a b (hab : Coincide a b) => ?_) hw h
  exact Number.coincide_iff.mpr (Number.coincide_iff.mp hab).symm

theorem WellFormed.equal_trans (hu : u.WellFormed) (huv : u.equal v = true)
    (hvw : v.equal w = true) : u.equal w = true := by
  refine hu.equalBy_trans (fun a b c (hab : Coincide a b) (hbc : Coincide b c) => ?_) huv hvw
  exact Number.coincide_iff.mpr ((Number.coincide_iff.mp hab).trans (Number.coincide_iff.mp hbc))

/-! ## Order -/

open Binary64 (place)

/-- The place of a number; all other values share one. -/
def numberKey : Value → Int
  | .num a => place a.units
  | _ => 0

def textKey : Value → String
  | .str s => s
  | _ => ""

def truthKey : Value → Bool
  | .bool b => b
  | _ => false

theorem compareNumbers_eq (a b : Number) :
    compareNumbers a.toBinary64 b.toBinary64 = Ord.compare (place a.units) (place b.units) :=
  compareNumbers_of_lt (Number.compareWith_toBinary64 a b) (Number.compareWith_toBinary64 b a)

/-- The order is lexicographic.  Values of one kind differ at most in the key of their kind. -/
theorem compare_eq_compareLex :
    compare = compareLex (compareOn rank)
      (compareLex (compareOn numberKey) (compareLex (compareOn textKey) (compareOn truthKey))) := by
  funext v w
  cases v with
  | null => cases w <;> rfl
  | bool b =>
    cases w with
    | bool b' => rfl
    | null | num | str | arr | obj => rfl
  | num a =>
    cases w with
    | num b =>
      show compareNumbers a.toBinary64 b.toBinary64 = _
      rw [compareNumbers_eq]
      exact Ordering.then_eq.symm
    | null | bool | str | arr | obj => rfl
  | str s =>
    cases w with
    | str t => exact Ordering.then_eq.symm
    | null | bool | num | arr | obj => rfl
  | arr items => cases w <;> rfl
  | obj members => cases w <;> rfl

/-- The order is a total preorder. -/
theorem transCmp_compare : Std.TransCmp compare := by
  rw [compare_eq_compareLex]
  infer_instance

theorem compare_of_equal (h : v.equal w = true) : v.compare w = .eq := by
  cases v with
  | null =>
    cases w with
    | null => rfl
    | bool | num | str | arr | obj => nomatch h
  | bool b =>
    cases w with
    | bool b' =>
      rw [show b = b' from eq_of_beq h]
      exact Std.ReflOrd.compare_self
    | null | num | str | arr | obj => nomatch h
  | num a =>
    cases w with
    | num b =>
      show compareNumbers a.toBinary64 b.toBinary64 = .eq
      rw [compareNumbers_eq, Int.compare_eq_eq]
      exact Number.coincide_iff.mp h
    | null | bool | str | arr | obj => nomatch h
  | str s =>
    cases w with
    | str t =>
      rw [show s = t from eq_of_beq h]
      exact Std.ReflOrd.compare_self
    | null | bool | num | arr | obj => nomatch h
  | arr items =>
    cases w with
    | arr items' => rfl
    | null | bool | num | str | obj => nomatch h
  | obj members =>
    cases w with
    | obj members' => rfl
    | null | bool | num | str | arr => nomatch h

/-- Two arrays or two objects. -/
def BothContainers (v w : Value) : Prop :=
  (∃ items items', v = .arr items ∧ w = .arr items') ∨
    ∃ members members', v = .obj members ∧ w = .obj members'

/-- Values of different kinds do not tie, and scalars tie only with their equals. -/
theorem equal_of_compare (hne : ¬ BothContainers v w) (h : v.compare w = .eq) :
    v.equal w = true := by
  cases v with
  | null =>
    cases w with
    | null => rfl
    | bool | num | str | arr | obj => nomatch h
  | bool b =>
    cases w with
    | bool b' => exact beq_iff_eq.mpr (Std.LawfulEqOrd.eq_of_compare h)
    | null | num | str | arr | obj => nomatch h
  | num a =>
    cases w with
    | num b =>
      rw [show compare (.num a) (.num b) = _ from compareNumbers_eq a b, Int.compare_eq_eq] at h
      exact Number.coincide_iff.mpr h
    | null | bool | str | arr | obj => nomatch h
  | str s =>
    cases w with
    | str t => exact beq_iff_eq.mpr (Std.LawfulEqOrd.eq_of_compare h)
    | null | bool | num | arr | obj => nomatch h
  | arr items =>
    cases w with
    | arr items' => exact absurd (.inl ⟨items, items', rfl, rfl⟩) hne
    | null | bool | num | str | obj => nomatch h
  | obj members =>
    cases w with
    | obj members' => exact absurd (.inr ⟨members, members', rfl, rfl⟩) hne
    | null | bool | num | str | arr => nomatch h

/-! ## Both together -/

/-- Equality is an equivalence of the values in which no object has a name twice.  The order is a
total preorder of all values.  Equal values tie, and values that tie are equal unless both are
arrays or both are objects. -/
theorem equal_and_compare_lawful :
    Equivalence (fun v w : { v : Value // v.WellFormed } => v.1.equal w.1 = true) ∧
    (∀ v w : Value, w.compare v = (v.compare w).swap) ∧
    (∀ v w : Value, (v.compare w).isLE = true ∨ (w.compare v).isLE = true) ∧
    (∀ u v w : Value, (u.compare v).isLE = true → (v.compare w).isLE = true →
      (u.compare w).isLE = true) ∧
    (∀ v w : Value, v.equal w = true → v.compare w = .eq) ∧
    (∀ v w : Value, ¬ BothContainers v w → v.compare w = .eq → v.equal w = true) := by
  have horder := transCmp_compare
  have hswap : ∀ v w : Value, w.compare v = (v.compare w).swap :=
    fun v w => horder.eq_swap
  refine ⟨⟨fun v => v.2.equal_self, fun {v w} => v.2.equal_symm w.2,
    fun {u v w} => u.2.equal_trans⟩,
    hswap, fun v w => ?_, fun u v w => horder.isLE_trans, fun v w => compare_of_equal,
    fun v w => equal_of_compare⟩
  rw [hswap v w, Ordering.isLE_swap]
  cases v.compare w with
  | lt | eq => exact .inl rfl
  | gt => exact .inr rfl

/-- Two spellings of one object, one of them with a negative zero. -/
theorem equal_and_compare_lawful_spellings :
    let v : Value := .obj [("a", .int 0), ("b", .arr [.bool true, .str "x"])]
    let w : Value := .obj [("b", .arr [.bool true, .str "x"]),
      ("a", .num (.float Binary64.Finite.zero.negate))]
    v.WellFormed ∧ w.WellFormed ∧ v.equal w = true ∧ w.equal v = true ∧ v.compare w = .eq := by
  intro v w
  have hitems : (Value.arr [.bool true, .str "x"]).WellFormed := by
    refine .arr fun item hitem => ?_
    simp only [List.mem_cons, List.not_mem_nil, or_false] at hitem
    rcases hitem with rfl | rfl
    · exact .bool true
    · exact .str "x"
  have hv : v.WellFormed := by
    refine .obj (show ["a", "b"].Nodup by decide) fun m hm => ?_
    simp only [List.mem_cons, List.not_mem_nil, or_false] at hm
    rcases hm with rfl | rfl
    · exact .num _
    · exact hitems
  have hw : w.WellFormed := by
    refine .obj (show ["b", "a"].Nodup by decide) fun m hm => ?_
    simp only [List.mem_cons, List.not_mem_nil, or_false] at hm
    rcases hm with rfl | rfl
    · exact hitems
    · exact .num _
  have hequal : v.equal w = true := by decide +kernel
  obtain ⟨hequivalence, -, -, -, hties, -⟩ := equal_and_compare_lawful
  exact ⟨hv, hw, hequal, hequivalence.symm (x := ⟨v, hv⟩) (y := ⟨w, hw⟩) hequal, hties v w hequal⟩

/-- Two arrays tie, whatever they hold. -/
example :
    (Value.arr [.int 1]).compare (.arr []) = .eq ∧ (Value.arr [.int 1]).equal (.arr []) = false :=
  ⟨rfl, rfl⟩

end Value
end Amend
