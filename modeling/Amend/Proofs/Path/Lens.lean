/-
Reading and writing at a path obey the laws of a lens.  The reading walk and the writing walk are
two recursions; what ties them together is that a path which can be written to is read at the
place where it is written, and that `update` is `set` after one look at that place.
-/
import Amend.Proofs.Path.Update

namespace Amend
namespace Path

variable {maxDepth : Nat} {record : Record} {path : String}

theorem set_eq (maxDepth : Nat) (record : Record) (path : String) (v : Value) :
    set maxDepth record path v =
      match obstruction? maxDepth record path with
      | some fault => (record, some (.walk fault))
      | none => (stored record path v, none) := by
  refine (update_eq maxDepth record path fun _ => .ok v).trans ?_
  cases obstruction? maxDepth record path <;> rfl

theorem set_eq_of_obstruction {fault : Fault}
    (h : obstruction? maxDepth record path = some fault) (v : Value) :
    set maxDepth record path v = (record, some (.walk fault)) := by
  rw [set_eq, h]

theorem set_eq_stored (h : obstruction? maxDepth record path = none) (v : Value) :
    set maxDepth record path v = (stored record path v, none) := by
  rw [set_eq, h]

theorem obstruction?_of_set {v : Value} {after : Record}
    (h : set maxDepth record path v = (after, none)) :
    obstruction? maxDepth record path = none ∧ after = stored record path v := by
  cases ho : obstruction? maxDepth record path with
  | some fault =>
    rw [set_eq_of_obstruction ho] at h
    nomatch (Prod.mk.inj h).2
  | none =>
    rw [set_eq_stored ho] at h
    exact ⟨rfl, (Prod.mk.inj h).1.symm⟩

theorem obstacle?_of_obstruction? (h : obstruction? maxDepth record path = none) :
    obstacle? (.obj record) (segments path) = none :=
  (Option.or_eq_none_iff.mp h).2

/-- A value stored in a record leaves it a record. -/
theorem obj_stored (record : Record) (path : String) (v : Value) :
    .obj (stored record path v) = store (.obj record) (segments path) v := by
  unfold stored
  cases hs : segments path with
  | nil => exact absurd hs (segments_ne_nil path)
  | cons segment rest => rfl

theorem get?_stored (h : obstruction? maxDepth record path = none) (v : Value) :
    get? (stored record path v) path = some v := by
  rw [get?, obj_stored, walk?_store (obstacle?_of_obstruction? h)]

theorem obstruction?_stored (h : obstruction? maxDepth record path = none) (v : Value) :
    obstruction? maxDepth (stored record path v) path = none := by
  rw [obstruction?, obj_stored, obstacle?_store (obstacle?_of_obstruction? h), Option.or_none]
  exact (Option.or_eq_none_iff.mp h).1

theorem stored_stored (h : obstruction? maxDepth record path = none) (v w : Value) :
    stored (stored record path v) path w = stored record path w := by
  rw [stored, obj_stored, store_store (obstacle?_of_obstruction? h), stored]

theorem stored_of_get?_eq {v : Value} (h : get? record path = some v) :
    stored record path v = record := by
  rw [stored, store_of_walk?_eq h, membersOf]

/-- The laws that tie reading, writing and updating at one path of a record together. -/
structure Lawful (maxDepth : Nat) (record : Record) (path : String) : Prop where
  /-- Whether a write succeeds, and why not, has nothing to do with the value. -/
  failure_eq : ∀ v w, (set maxDepth record path v).2 = (set maxDepth record path w).2
  /-- A written value is read back. -/
  get?_set : ∀ v after, set maxDepth record path v = (after, none) → get? after path = some v
  /-- The second of two writes wins. -/
  set_set : ∀ v w,
    set maxDepth (set maxDepth record path v).1 path w = set maxDepth record path w
  /-- Writing what is there changes nothing. -/
  set_get? : ∀ v after, get? record path = some v →
    set maxDepth record path v = (after, none) → after = record
  /-- Where a write fails every update fails in the same way, whatever its function would do. -/
  update_failed : ∀ (ε : Type) (f : Option Value → Except ε Value) (v : Value) after fault,
    set maxDepth record path v = (after, some (.walk fault)) →
      update maxDepth record path f = (after, some (.walk fault))
  /-- An update asks its function about the value at the path and about nothing else. -/
  update_congr : ∀ (ε : Type) (f g : Option Value → Except ε Value),
    f (get? record path) = g (get? record path) →
      update maxDepth record path f = update maxDepth record path g
  /-- Where a write succeeds an update writes what its function answers. -/
  update_ok : ∀ (ε : Type) (f : Option Value → Except ε Value) (v w : Value) after,
    set maxDepth record path v = (after, none) → f (get? record path) = .ok w →
      update maxDepth record path f = ((set maxDepth record path w).1, none)
  /-- Where a write succeeds an update fails only as its function does. -/
  update_refused : ∀ (ε : Type) (f : Option Value → Except ε Value) (v : Value) (e : ε) after,
    set maxDepth record path v = (after, none) → f (get? record path) = .error e →
      (update maxDepth record path f).2 = some (.refused e)

/-- Every path of every record is a lawful lens. -/
theorem lawful (maxDepth : Nat) (record : Record) (path : String) :
    Lawful maxDepth record path where
  failure_eq v w := by
    rw [set_eq, set_eq]
    cases obstruction? maxDepth record path <;> rfl
  get?_set v after h := by
    obtain ⟨ho, rfl⟩ := obstruction?_of_set h
    exact get?_stored ho v
  set_set v w := by
    cases ho : obstruction? maxDepth record path with
    | some fault => rw [set_eq_of_obstruction ho]
    | none =>
      rw [set_eq_stored ho, set_eq_stored (obstruction?_stored ho v), set_eq_stored ho,
        stored_stored ho]
  set_get? v after hget h := by
    obtain ⟨-, rfl⟩ := obstruction?_of_set h
    exact stored_of_get?_eq hget
  update_failed ε f v after fault h := by
    cases ho : obstruction? maxDepth record path with
    | some found =>
      rw [set_eq_of_obstruction ho, Prod.mk.injEq, Option.some.injEq, Failure.walk.injEq] at h
      rw [update_eq, ho, h.1, h.2]
    | none =>
      rw [set_eq_stored ho] at h
      nomatch (Prod.mk.inj h).2
  update_congr ε f g h := by
    rw [update_eq, update_eq, h]
  update_ok ε f v w after h hf := by
    have ho := (obstruction?_of_set h).1
    rw [update_eq, ho, hf, set_eq_stored ho]
  update_refused ε f v e after h hf := by
    have ho := (obstruction?_of_set h).1
    rw [update_eq, ho, hf]

end Path
end Amend
