/-
Paths that are apart do not see each other's writes.  Two paths are apart when they part at some
position for good: by two segments that spell neither one name nor one number.
-/
import Amend.Proofs.Path.Lens

namespace Amend
namespace Path

/-- Two different segments that do not spell one number either. -/
def SegmentsApart (s t : String) : Prop :=
  s ≠ t ∧ ¬ ∃ n, index? s = some n ∧ index? t = some n

/-- Some position that both walks have holds segments that are apart. -/
def WalksApart (p q : List String) : Prop :=
  ∃ (i : Nat) (s t : String), p[i]? = some s ∧ q[i]? = some t ∧ SegmentsApart s t

/-- Two paths that lead to different places of every record. -/
def Apart (p q : String) : Prop := WalksApart (segments p) (segments q)

theorem walksApart_cons_cons {s t : String} {p q : List String} :
    WalksApart (s :: p) (t :: q) ↔ SegmentsApart s t ∨ WalksApart p q := by
  constructor
  · rintro ⟨i, a, b, ha, hb, hab⟩
    cases i with
    | zero =>
      rw [List.getElem?_cons_zero, Option.some.injEq] at ha hb
      subst ha hb
      exact Or.inl hab
    | succ i => exact Or.inr ⟨i, a, b, ha, hb, hab⟩
  · rintro (h | ⟨i, a, b, ha, hb, hab⟩)
    · exact ⟨0, s, t, rfl, rfl, h⟩
    · exact ⟨i + 1, a, b, ha, hb, hab⟩

theorem WalksApart.ne_nil {p q : List String} (h : WalksApart p q) : p ≠ [] ∧ q ≠ [] := by
  obtain ⟨i, s, t, hs, ht, -⟩ := h
  constructor
  · rintro rfl
    nomatch hs
  · rintro rfl
    nomatch ht

/-- Segments that are apart spell different steps of every container. -/
theorem SegmentsApart.stepOf?_ne {s t : String} (h : SegmentsApart s t) {v : Value}
    (hv : HasSlot v s) : stepOf? v s ≠ stepOf? v t := by
  intro he
  rcases hv.obj_or_arr with ⟨members, rfl⟩ | ⟨items, i, rfl, hi, -⟩
  · rw [stepOf?, stepOf?, Option.some.injEq, Step.member.injEq] at he
    exact h.1 he
  · rw [stepOf?_arr hi] at he
    obtain ⟨j, hj, hij⟩ := Option.map_eq_some_iff.mp he.symm
    rw [Step.element.injEq] at hij
    subst hij
    exact h.2 ⟨j, hi, hj⟩

/-- A write is not seen by a walk that is apart from it. -/
theorem walk?_store_of_apart {v : Value} {p q : List String} (h : obstacle? v p = none)
    (ha : WalksApart p q) (w : Value) : walk? (store v p w) q = walk? v q := by
  induction p generalizing v q with
  | nil => exact absurd rfl ha.ne_nil.1
  | cons s p ih =>
    cases q with
    | nil => exact absurd rfl ha.ne_nil.2
    | cons t q =>
      have hslot : HasSlot v s := hasSlot_of_obstacle?_eq_none h
      rw [store_cons, walk?_cons]
      by_cases hs : stepOf? v s = stepOf? v t
      · -- The walks take the same step, so they part later.
        have hpq : WalksApart p q := by
          rcases walksApart_cons_cons.mp ha with hst | hpq
          · exact absurd hs (hst.stepOf?_ne hslot)
          · exact hpq
        rw [child?_putChild_of_stepOf?_eq hslot hs, Option.bind_some]
        cases p with
        | nil => exact absurd rfl hpq.ne_nil.1
        | cons s' p =>
          cases q with
          | nil => exact absurd rfl hpq.ne_nil.2
          | cons t' q =>
            rw [ih (obstacle?_entered h) hpq, walk?_entered hslot, walk?_cons, walk?_cons,
              child?_eq_of_stepOf?_eq hs]
      · rw [child?_putChild_of_stepOf?_ne hslot hs, walk?_cons]

theorem get?_stored_of_apart {maxDepth : Nat} {record : Record} {p q : String}
    (h : obstruction? maxDepth record p = none) (ha : Apart p q) (v : Value) :
    get? (stored record p v) q = get? record q := by
  rw [get?, obj_stored, walk?_store_of_apart (obstacle?_of_obstruction? h) ha, get?]

/-- A write keeps the fields of a record in their places. -/
theorem keys_prefix_keys_stored (record : Record) (path : String) (v : Value) :
    record.keys <+: (stored record path v).keys := by
  unfold stored
  cases hs : segments path with
  | nil => exact absurd hs (segments_ne_nil path)
  | cons s rest => exact Members.keys_prefix_keys_set record s _

end Path
end Amend
