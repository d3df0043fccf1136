/-
Writes to paths that are apart can be made in any order.  A write neither opens nor obstructs a
path that is apart from it, and two such writes give the same record up to the order of members,
whichever is made first.  So a list of writes to paths that are apart from one another may be
permuted.
-/
import Mathlib.Data.List.Pairwise
import Amend.Proofs.Json.Reordered
import Amend.Proofs.Path.Frame

namespace Amend
namespace Path

theorem SegmentsApart.symm {s t : String} (h : SegmentsApart s t) : SegmentsApart t s :=
  ⟨Ne.symm h.1, fun ⟨n, ht, hs⟩ => h.2 ⟨n, hs, ht⟩⟩

theorem Apart.symm {p q : String} (h : Apart p q) : Apart q p := by
  obtain ⟨i, s, t, hs, ht, hst⟩ := h
  exact ⟨i, t, s, ht, hs, hst.symm⟩

instance : Std.Symm Apart := ⟨fun _ _ => Apart.symm⟩

/-! ## Two steps in one container -/

theorem stepOf?_putChild {v : Value} {segment : String} (h : HasSlot v segment) (w : Value)
    (other : String) : stepOf? (putChild v segment w) other = stepOf? v other := by
  rcases h.obj_or_arr with ⟨members, rfl⟩ | ⟨items, i, rfl, hi, -⟩
  · rfl
  · rw [putChild_arr w hi]
    rfl

theorem entered_eq_of_stepOf?_eq {v : Value} {segment other : String}
    (h : stepOf? v segment = stepOf? v other) : entered v segment = entered v other := by
  cases v with
  | obj members =>
    rw [stepOf?, stepOf?, Option.some.injEq, Step.member.injEq] at h
    rw [h]
  | arr items =>
    show (child? (.arr items) segment).getD .null = (child? (.arr items) other).getD .null
    rw [child?_eq_of_stepOf?_eq h]
  | null | bool | num | str => rfl

theorem putChild_eq_of_stepOf?_eq {v : Value} {segment other : String}
    (h : stepOf? v segment = stepOf? v other) (w : Value) :
    putChild v segment w = putChild v other w := by
  cases v with
  | obj members =>
    rw [stepOf?, stepOf?, Option.some.injEq, Step.member.injEq] at h
    rw [h]
  | arr items =>
    have hi : index? segment = index? other :=
      Option.map_injective (fun i j hij => Step.element.inj hij) h
    rw [putChild, putChild, hi]
  | null | bool | num | str => rfl

theorem entered_putChild_of_stepOf?_ne {v : Value} {segment other : String}
    (h : HasSlot v segment) (hs : stepOf? v segment ≠ stepOf? v other) (w : Value) :
    entered (putChild v segment w) other = entered v other := by
  have hchild := child?_putChild_of_stepOf?_ne h hs w
  rcases h.obj_or_arr with ⟨members, rfl⟩ | ⟨items, i, rfl, hi, -⟩
  · exact congrArg orEmptyObject hchild
  · rw [putChild_arr w hi] at hchild ⊢
    exact congrArg (fun found => found.getD Value.null) hchild

theorem putChild_comm {v : Value} {segment other : String} (h : HasSlot v segment)
    (h' : HasSlot v other) (hs : stepOf? v segment ≠ stepOf? v other) (w x : Value) :
    Reordered (putChild (putChild v segment w) other x)
      (putChild (putChild v other x) segment w) := by
  rcases h.obj_or_arr with ⟨members, rfl⟩ | ⟨items, i, rfl, hi, -⟩
  · exact .set_comm members (fun he => hs (by rw [he])) w x
  · obtain ⟨j, hj, -⟩ := h'
    have hij : i ≠ j := by
      rintro rfl
      rw [stepOf?_arr hi, stepOf?_arr hj] at hs
      exact hs rfl
    rw [putChild_arr w hi, putChild_arr x hj, putChild_arr x hj, putChild_arr w hi,
      List.set_comm w x hij]
    exact .refl _

/-! ## Containers that are the same up to order -/

theorem orEmptyObject_congr {found found' : Option Value}
    (h : Option.Rel Reordered found found') :
    Reordered (orEmptyObject found) (orEmptyObject found') := by
  cases h with
  | none => exact .refl _
  | some h =>
    cases h with
    | refl => exact .refl _
    | arr hlength h => exact .arr hlength h
    | obj hkeys h => exact .obj hkeys h

theorem entered_congr {v v' : Value} (h : Reordered v v') (segment : String) :
    Reordered (entered v segment) (entered v' segment) := by
  have hv := h
  cases h with
  | refl => exact .refl _
  | obj => exact orEmptyObject_congr (hv.get? segment)
  | @arr items items' =>
    show Reordered (((index? segment).bind fun i => items[i]?).getD .null)
      (((index? segment).bind fun i => items'[i]?).getD .null)
    cases index? segment with
    | none => exact .refl _
    | some i =>
      have hrel := hv.getElem? i
      rw [Option.bind_some, Option.bind_some]
      generalize items[i]? = found at hrel ⊢
      generalize items'[i]? = found' at hrel ⊢
      cases hrel with
      | none => exact .refl _
      | some h => exact h

theorem putChild_congr {v v' w w' : Value} (h : Reordered v v') (hw : Reordered w w')
    (segment : String) : Reordered (putChild v segment w) (putChild v' segment w') := by
  have hv := h
  cases v with
  | obj members =>
    cases v' with
    | obj members' => exact h.set hw segment
    | null | bool | num | str | arr => cases h
  | arr items =>
    cases v' with
    | arr items' =>
      rw [putChild, putChild]
      cases index? segment with
      | none => exact h
      | some i => exact h.listSet hw i
    | null | bool | num | str | obj => cases h
  | null | bool | num | str =>
    cases h
    exact .refl _

theorem store_congr {v v' : Value} (h : Reordered v v') (walk : List String) (w : Value) :
    Reordered (store v walk w) (store v' walk w) := by
  induction walk generalizing v v' with
  | nil => exact .refl w
  | cons segment rest ih => exact putChild_congr h (ih (entered_congr h segment)) segment

/-! ## Two walks that are apart -/

/-- Walks that are apart and take their first step together part later. -/
theorem WalksApart.of_stepOf?_eq {v : Value} {s t : String} {p q : List String}
    (ha : WalksApart (s :: p) (t :: q)) (h : HasSlot v s) (hs : stepOf? v s = stepOf? v t) :
    WalksApart p q := by
  rcases walksApart_cons_cons.mp ha with hst | hpq
  · exact absurd hs (hst.stepOf?_ne h)
  · exact hpq

/-- A walk that takes the first step of a write enters what the write has made below it. -/
theorem entered_store_of_stepOf?_eq {v : Value} {s t : String} {p : List String}
    (h : obstacle? v (s :: p) = none) (hne : p ≠ []) (hs : stepOf? v s = stepOf? v t)
    (w : Value) : entered (store v (s :: p) w) t = store (entered v s) p w := by
  cases p with
  | nil => exact absurd rfl hne
  | cons s' p =>
    have hslot : HasSlot v s := hasSlot_of_obstacle?_eq_none h
    have hs' : stepOf? (store v (s :: s' :: p) w) s = stepOf? (store v (s :: s' :: p) w) t := by
      rw [store_cons, stepOf?_putChild hslot, stepOf?_putChild hslot, hs]
    rw [← entered_eq_of_stepOf?_eq hs', entered_store h]

/-- A write neither opens nor obstructs a walk that is apart from it. -/
theorem obstacle?_store_of_apart {v : Value} {p q : List String} (h : obstacle? v p = none)
    (ha : WalksApart p q) (w : Value) :
    obstacle? (store v p w) q = none ↔ obstacle? v q = none := by
  induction p generalizing v q with
  | nil => exact absurd rfl ha.ne_nil.1
  | cons s p ih =>
    have hslot : HasSlot v s := hasSlot_of_obstacle?_eq_none h
    cases q with
    | nil => exact absurd rfl ha.ne_nil.2
    | cons t q =>
      have ht : HasSlot (store v (s :: p) w) t ↔ HasSlot v t := hasSlot_putChild hslot _
      cases q with
      | nil =>
        rw [obstacle?_singleton, obstacle?_singleton, slotFault?_eq_none_iff,
          slotFault?_eq_none_iff, ht]
      | cons t' q =>
        rw [obstacle?_cons_cons, obstacle?_cons_cons, Option.or_eq_none_iff,
          Option.or_eq_none_iff, slotFault?_eq_none_iff, slotFault?_eq_none_iff, ht]
        refine and_congr_right fun _ => ?_
        by_cases hs : stepOf? v s = stepOf? v t
        · have hpq := ha.of_stepOf?_eq hslot hs
          cases p with
          | nil => exact absurd rfl hpq.ne_nil.1
          | cons s' p =>
            rw [entered_store_of_stepOf?_eq h (List.cons_ne_nil s' p) hs,
              ih (obstacle?_entered h) hpq, entered_eq_of_stepOf?_eq hs]
        · rw [store_cons, entered_putChild_of_stepOf?_ne hslot hs]

/-- Two writes that are apart can be made in either order. -/
theorem store_comm {v : Value} {p q : List String} (hp : obstacle? v p = none)
    (hq : obstacle? v q = none) (ha : WalksApart p q) (w x : Value) :
    Reordered (store (store v p w) q x) (store (store v q x) p w) := by
  induction p generalizing v q with
  | nil => exact absurd rfl ha.ne_nil.1
  | cons s p ih =>
    cases q with
    | nil => exact absurd rfl ha.ne_nil.2
    | cons t q =>
      have hslot : HasSlot v s := hasSlot_of_obstacle?_eq_none hp
      have hslot' : HasSlot v t := hasSlot_of_obstacle?_eq_none hq
      rw [store_cons (store v (s :: p) w), store_cons (store v (t :: q) x)]
      by_cases hs : stepOf? v s = stepOf? v t
      · -- Both writes go on in the same container.
        have hpq := ha.of_stepOf?_eq hslot hs
        rw [entered_store_of_stepOf?_eq hp hpq.ne_nil.1 hs,
          entered_store_of_stepOf?_eq hq hpq.ne_nil.2 hs.symm, store_cons v s, store_cons v t,
          ← putChild_eq_of_stepOf?_eq hs, ← entered_eq_of_stepOf?_eq hs]
        have hs' : stepOf? (putChild v s (store (entered v s) p w)) s =
            stepOf? (putChild v s (store (entered v s) p w)) t := by
          rw [stepOf?_putChild hslot, stepOf?_putChild hslot, hs]
        rw [← putChild_eq_of_stepOf?_eq hs', putChild_putChild hslot, putChild_putChild hslot]
        cases p with
        | nil => exact absurd rfl hpq.ne_nil.1
        | cons s' p =>
          cases q with
          | nil => exact absurd rfl hpq.ne_nil.2
          | cons t' q =>
            have hq' := obstacle?_entered hq
            rw [← entered_eq_of_stepOf?_eq hs] at hq'
            exact putChild_congr (.refl v) (ih (obstacle?_entered hp) hq' hpq) s
      · rw [store_cons v s, store_cons v t, entered_putChild_of_stepOf?_ne hslot hs,
          entered_putChild_of_stepOf?_ne hslot' (Ne.symm hs)]
        exact putChild_comm hslot hslot' hs _ _

/-! ## Writes to records -/

variable {maxDepth : Nat} {record : Record} {p q : String}

theorem obstruction?_stored_of_apart (h : obstruction? maxDepth record p = none)
    (ha : Apart p q) (v : Value) :
    obstruction? maxDepth (stored record p v) q = none ↔
      obstruction? maxDepth record q = none := by
  rw [obstruction?, obstruction?, obj_stored, Option.or_eq_none_iff, Option.or_eq_none_iff,
    obstacle?_store_of_apart (obstacle?_of_obstruction? h) ha]

theorem stored_congr {record' : Record} (h : Reordered (.obj record) (.obj record'))
    (path : String) (v : Value) :
    Reordered (.obj (stored record path v)) (.obj (stored record' path v)) := by
  rw [obj_stored, obj_stored]
  exact store_congr h (segments path) v

theorem stored_comm (hp : obstruction? maxDepth record p = none)
    (hq : obstruction? maxDepth record q = none) (ha : Apart p q) (v w : Value) :
    Reordered (.obj (stored (stored record p v) q w)) (.obj (stored (stored record q w) p v)) := by
  rw [obj_stored, obj_stored, obj_stored, obj_stored]
  exact store_comm (obstacle?_of_obstruction? hp) (obstacle?_of_obstruction? hq) ha v w

/-- The record after several writes, each a path with a value. -/
def storedAll (record : Record) (writes : List (String × Value)) : Record :=
  writes.foldl (fun record write => stored record write.1 write.2) record

/-- Paths of which each two are apart. -/
def AllApart (paths : List String) : Prop := paths.Pairwise Apart

theorem storedAll_congr {record' : Record} (h : Reordered (.obj record) (.obj record'))
    (writes : List (String × Value)) :
    Reordered (.obj (storedAll record writes)) (.obj (storedAll record' writes)) := by
  induction writes generalizing record record' with
  | nil => exact h
  | cons write writes ih => exact ih (stored_congr h write.1 write.2)

theorem obstruction?_stored_of_forall_apart {path : String} {paths : List String}
    (h : obstruction? maxDepth record path = none) (ha : ∀ q ∈ paths, Apart path q)
    (hall : ∀ q ∈ paths, obstruction? maxDepth record q = none) (v : Value) :
    ∀ q ∈ paths, obstruction? maxDepth (stored record path v) q = none :=
  fun q hq => (obstruction?_stored_of_apart h (ha q hq) v).mpr (hall q hq)

/-- Writes to paths that are apart from one another may be permuted. -/
theorem storedAll_perm {writes writes' : List (String × Value)} (hperm : writes.Perm writes')
    (ha : AllApart (writes.map Prod.fst))
    (h : ∀ q ∈ writes.map Prod.fst, obstruction? maxDepth record q = none) :
    Reordered (.obj (storedAll record writes)) (.obj (storedAll record writes')) := by
  induction hperm generalizing record with
  | nil => exact .refl _
  | cons write hperm ih =>
    obtain ⟨hhead, htail⟩ := List.pairwise_cons.mp ha
    have hwrite := h write.1 List.mem_cons_self
    exact ih htail (obstruction?_stored_of_forall_apart hwrite hhead
      (fun q hq => h q (List.mem_cons_of_mem _ hq)) write.2)
  | swap first second rest =>
    have hapart : Apart second.1 first.1 := (List.pairwise_cons.mp ha).1 _ List.mem_cons_self
    exact storedAll_congr (stored_comm (h _ List.mem_cons_self)
      (h _ (List.mem_cons_of_mem _ List.mem_cons_self)) hapart second.2 first.2) rest
  | trans hperm _ ih ih' =>
    have hpaths := hperm.map Prod.fst
    exact (ih ha h).trans (ih' (hpaths.pairwise ha Apart.symm)
      fun q hq => h q (hpaths.mem_iff.mpr hq))

/-! ## What several writes leave -/

variable {writes : List (String × Value)}

theorem get?_storedAll_of_apart {path : String} (ha : AllApart (writes.map Prod.fst))
    (h : ∀ q ∈ writes.map Prod.fst, obstruction? maxDepth record q = none)
    (hpath : ∀ q ∈ writes.map Prod.fst, Apart q path) :
    get? (storedAll record writes) path = get? record path := by
  induction writes generalizing record with
  | nil => rfl
  | cons write rest ih =>
    obtain ⟨hhead, htail⟩ := List.pairwise_cons.mp ha
    have hwrite := h write.1 List.mem_cons_self
    have hrest := obstruction?_stored_of_forall_apart hwrite hhead
      (fun q hq => h q (List.mem_cons_of_mem _ hq)) write.2
    exact (ih htail hrest fun q hq => hpath q (List.mem_cons_of_mem _ hq)).trans
      (get?_stored_of_apart hwrite (hpath write.1 List.mem_cons_self) write.2)

/-- After writes to paths that are apart from one another, each path holds what was written to
it. -/
theorem get?_storedAll_of_mem {path : String} {v : Value} (ha : AllApart (writes.map Prod.fst))
    (h : ∀ q ∈ writes.map Prod.fst, obstruction? maxDepth record q = none)
    (hmem : (path, v) ∈ writes) : get? (storedAll record writes) path = some v := by
  induction writes generalizing record with
  | nil => exact absurd hmem List.not_mem_nil
  | cons write rest ih =>
    obtain ⟨hhead, htail⟩ := List.pairwise_cons.mp ha
    have hwrite := h write.1 List.mem_cons_self
    have hrest := obstruction?_stored_of_forall_apart hwrite hhead
      (fun q hq => h q (List.mem_cons_of_mem _ hq)) write.2
    rcases List.mem_cons.mp hmem with rfl | hmem
    · exact (get?_storedAll_of_apart htail hrest fun q hq => (hhead q hq).symm).trans
        (get?_stored hwrite v)
    · exact ih htail hrest hmem

/-- The paths of writes that are apart from one another can be written to again. -/
theorem obstruction?_storedAll {paths : List String} (ha : AllApart paths)
    (h : ∀ q ∈ paths, obstruction? maxDepth record q = none)
    (hwrites : ∀ write ∈ writes, write.1 ∈ paths) :
    ∀ q ∈ paths, obstruction? maxDepth (storedAll record writes) q = none := by
  induction writes generalizing record with
  | nil => exact h
  | cons write rest ih =>
    have hwrite := hwrites write List.mem_cons_self
    refine ih (fun q hq => ?_) fun other hother => hwrites other (List.mem_cons_of_mem write hother)
    by_cases hq' : write.1 = q
    · rw [← hq']
      exact obstruction?_stored (h write.1 hwrite) write.2
    · have hapart := List.Pairwise.forall ha hwrite hq hq'
      exact (obstruction?_stored_of_apart (h write.1 hwrite) hapart write.2).mpr (h q hq)

theorem storedAll_of_get?_eq (h : ∀ write ∈ writes, get? record write.1 = some write.2) :
    storedAll record writes = record := by
  induction writes with
  | nil => rfl
  | cons write rest ih =>
    show storedAll (stored record write.1 write.2) rest = record
    rw [stored_of_get?_eq (h write List.mem_cons_self)]
    exact ih fun other hother => h other (List.mem_cons_of_mem write hother)

end Path
end Amend
