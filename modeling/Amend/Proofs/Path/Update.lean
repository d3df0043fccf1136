/-
What an update of a path does.  Whether a writing walk arrives is decided by the container and
the path alone, before the function is asked, and a walk that has made an object cannot fail any
more.  So an update leaves everything as it was, or asks the function for the value that a
reading walk finds, and then stores its answer or leaves behind the objects made on the way.
-/
import Amend.Proofs.Path.Slot
import Amend.Proofs.Path.Segments

namespace Amend
namespace Path

/-- Why a writing walk does not arrive. -/
def obstacle? : Value → List String → Option Fault
  | _, [] => none
  | v, [leaf] => slotFault? .parent v leaf
  | v, segment :: rest => (slotFault? .inside v segment).or (obstacle? (entered v segment) rest)

/-- A container with a value at the end of a walk. -/
def store : Value → List String → Value → Value
  | _, [], w => w
  | v, segment :: rest, w => putChild v segment (store (entered v segment) rest w)

/-- A container with every object on the way to the end of a walk. -/
def opened : Value → List String → Value
  | v, [] => v
  | v, [_] => v
  | v, segment :: rest => putChild v segment (opened (entered v segment) rest)

theorem obstacle?_singleton (v : Value) (leaf : String) :
    obstacle? v [leaf] = slotFault? .parent v leaf := rfl

theorem obstacle?_cons_cons (v : Value) (segment next : String) (rest : List String) :
    obstacle? v (segment :: next :: rest) =
      (slotFault? .inside v segment).or (obstacle? (entered v segment) (next :: rest)) := rfl

theorem store_cons (v : Value) (segment : String) (rest : List String) (w : Value) :
    store v (segment :: rest) w = putChild v segment (store (entered v segment) rest w) := rfl

theorem opened_cons_cons (v : Value) (segment next : String) (rest : List String) :
    opened v (segment :: next :: rest) =
      putChild v segment (opened (entered v segment) (next :: rest)) := rfl

theorem hasSlot_of_obstacle?_eq_none {v : Value} {segment : String} {rest : List String}
    (h : obstacle? v (segment :: rest) = none) : HasSlot v segment := by
  cases rest with
  | nil => exact slotFault?_eq_none_iff.mp h
  | cons next rest =>
    rw [obstacle?_cons_cons, Option.or_eq_none_iff] at h
    exact slotFault?_eq_none_iff.mp h.1

theorem obstacle?_entered {v : Value} {segment next : String} {rest : List String}
    (h : obstacle? v (segment :: next :: rest) = none) :
    obstacle? (entered v segment) (next :: rest) = none := by
  rw [obstacle?_cons_cons, Option.or_eq_none_iff] at h
  exact h.2

/-- Nothing is in the way of a walk through an empty object. -/
theorem obstacle?_empty (walk : List String) : obstacle? (.obj []) walk = none := by
  induction walk with
  | nil => rfl
  | cons segment rest ih =>
    cases rest with
    | nil => rfl
    | cons next rest =>
      rw [obstacle?_cons_cons]
      exact ih

/-- What a walk meets is met in containers that were there before it, so that putting them back
restores the whole. -/
theorem putChild_entered_of_obstacle? {v : Value} {segment : String} {rest : List String}
    {fault : Fault} (h : HasSlot v segment)
    (hf : obstacle? (entered v segment) rest = some fault) :
    putChild v segment (entered v segment) = v := by
  rcases entered_eq_or h with hc | ⟨hc, -⟩
  · exact putChild_of_child?_eq hc
  · rw [hc, obstacle?_empty] at hf
    nomatch hf

/-- The outcome of a writing walk. -/
theorem write_eq {ε : Type} (f : Option Value → Except ε Value) (v : Value) {walk : List String}
    (hne : walk ≠ []) :
    write f v walk =
      match obstacle? v walk with
      | some fault => (v, some (.walk fault))
      | none =>
        match f (walk? v walk) with
        | .ok w => (store v walk w, none)
        | .error e => (opened v walk, some (.refused e)) := by
  induction walk generalizing v with
  | nil => exact absurd rfl hne
  | cons segment rest ih =>
    cases rest with
    | nil =>
      have hw : walk? v [segment] = child? v segment := Option.bind_fun_some _
      rw [write_leaf, obstacle?_singleton, hw]
      rfl
    | cons next rest =>
      rw [write_cons_cons, obstacle?_cons_cons]
      cases hs : slotFault? .inside v segment with
      | some fault => rfl
      | none =>
        have hslot : HasSlot v segment := slotFault?_eq_none_iff.mp hs
        rw [ih (entered v segment) (List.cons_ne_nil next rest), Option.none_or]
        cases ho : obstacle? (entered v segment) (next :: rest) with
        | some fault => simp only [putChild_entered_of_obstacle? hslot ho]
        | none =>
          rw [walk?_entered hslot]
          cases f (walk? v (segment :: next :: rest)) <;> rfl

/-! ## Stored values -/

theorem store_ne_null {v : Value} {segment : String} {rest : List String}
    (h : obstacle? v (segment :: rest) = none) (w : Value) :
    store v (segment :: rest) w ≠ .null := by
  rw [store_cons]
  rcases (hasSlot_of_obstacle?_eq_none h).obj_or_arr with
    ⟨members, rfl⟩ | ⟨items, i, rfl, hi, -⟩
  · exact fun hn => nomatch hn
  · rw [putChild_arr _ hi]
    exact fun hn => nomatch hn

/-- The walk through a container that has been written to enters what was written. -/
theorem entered_store {v : Value} {segment next : String} {rest : List String}
    (h : obstacle? v (segment :: next :: rest) = none) (w : Value) :
    entered (store v (segment :: next :: rest) w) segment =
      store (entered v segment) (next :: rest) w := by
  rw [store_cons v]
  exact entered_putChild (hasSlot_of_obstacle?_eq_none h) (store_ne_null (obstacle?_entered h) w)

theorem obstacle?_store {v : Value} {walk : List String} (h : obstacle? v walk = none)
    (w : Value) : obstacle? (store v walk w) walk = none := by
  induction walk generalizing v with
  | nil => rfl
  | cons segment rest ih =>
    have hslot : HasSlot v segment := hasSlot_of_obstacle?_eq_none h
    have hslot' : HasSlot (store v (segment :: rest) w) segment :=
      (hasSlot_putChild hslot _).mpr hslot
    cases rest with
    | nil => exact slotFault?_eq_none_iff.mpr hslot'
    | cons next rest =>
      rw [obstacle?_cons_cons, entered_store h, ih (obstacle?_entered h), Option.or_none]
      exact slotFault?_eq_none_iff.mpr hslot'

theorem walk?_store {v : Value} {walk : List String} (h : obstacle? v walk = none) (w : Value) :
    walk? (store v walk w) walk = some w := by
  induction walk generalizing v with
  | nil => rfl
  | cons segment rest ih =>
    have hslot : HasSlot v segment := hasSlot_of_obstacle?_eq_none h
    rw [walk?_cons, store_cons, child?_putChild hslot, Option.bind_some]
    cases rest with
    | nil => rfl
    | cons next rest => exact ih (obstacle?_entered h)

theorem store_store {v : Value} {walk : List String} (h : obstacle? v walk = none)
    (w x : Value) : store (store v walk w) walk x = store v walk x := by
  induction walk generalizing v with
  | nil => rfl
  | cons segment rest ih =>
    have hslot : HasSlot v segment := hasSlot_of_obstacle?_eq_none h
    cases rest with
    | nil => exact putChild_putChild hslot w x
    | cons next rest =>
      rw [store_cons, entered_store h, ih (obstacle?_entered h), store_cons v, store_cons v,
        putChild_putChild hslot]

/-- A reading walk that goes on below a segment finds there what a writing walk enters. -/
theorem child?_eq_entered {v w : Value} {segment next : String} {rest : List String}
    (h : walk? v (segment :: next :: rest) = some w) :
    child? v segment = some (entered v segment) := by
  rw [walk?_cons] at h
  obtain ⟨u, hu, hw⟩ := Option.bind_eq_some_iff.mp h
  rcases entered_eq_or (hasSlot_of_child?_eq hu) with he | ⟨-, he | he⟩
  · exact he
  · rw [hu] at he
    nomatch he
  · rw [hu, Option.some.injEq] at he
    rw [he] at hw
    nomatch hw

theorem store_of_walk?_eq {v w : Value} {walk : List String} (h : walk? v walk = some w) :
    store v walk w = v := by
  induction walk generalizing v with
  | nil => exact (Option.some.inj h).symm
  | cons segment rest ih =>
    rw [store_cons]
    cases rest with
    | nil =>
      obtain ⟨u, hu, hw⟩ := Option.bind_eq_some_iff.mp h
      have huw : u = w := Option.some.inj hw
      subst huw
      exact putChild_of_child?_eq hu
    | cons next rest =>
      have hc : child? v segment = some (entered v segment) := child?_eq_entered h
      rw [← walk?_entered (hasSlot_of_child?_eq hc)] at h
      rw [ih h, putChild_of_child?_eq hc]

/-! ## Records -/

/-- Why a path is not in a form that can be written to.  Only a path with a dot can be wrong. -/
def formFault? (maxDepth : Nat) (path : String) : Option Fault :=
  match isDotted path, checkedSegments maxDepth path with
  | true, .error fault => some fault
  | _, _ => none

/-- Why an update of a record does not reach its path. -/
def obstruction? (maxDepth : Nat) (record : Record) (path : String) : Option Fault :=
  (formFault? maxDepth path).or (obstacle? (.obj record) (segments path))

/-- The record with a value at a path. -/
def stored (record : Record) (path : String) (v : Value) : Record :=
  membersOf (store (.obj record) (segments path) v)

/-- The record with every object on the way to a path. -/
def prepared (record : Record) (path : String) : Record :=
  membersOf (opened (.obj record) (segments path))

theorem checkedSegments_eq_ok {maxDepth : Nat} {path : String} {parts : List String}
    (h : checkedSegments maxDepth path = .ok parts) : parts = segments path := by
  unfold checkedSegments at h
  simp only at h
  split at h
  · nomatch h
  · split at h
    · nomatch h
    · exact (Except.ok.inj h).symm

theorem formFault?_eq_none_iff {maxDepth : Nat} {path : String} :
    formFault? maxDepth path = none ↔
      (isDotted path = true → "" ∉ segments path ∧ (segments path).length ≤ maxDepth) := by
  unfold formFault? checkedSegments
  cases isDotted path with
  | false => simp
  | true =>
    by_cases hempty : "" ∈ segments path
    · simp [hempty]
    · by_cases hdepth : maxDepth < (segments path).length
      · simp [hempty, hdepth]
      · simp [hempty, hdepth, Nat.le_of_not_lt hdepth]

/-- The outcome of an update: an obstruction leaves the record as it was, whatever the function
does, and otherwise the function's answer to the value at the path decides. -/
theorem update_eq {ε : Type} (maxDepth : Nat) (record : Record) (path : String)
    (f : Option Value → Except ε Value) :
    update maxDepth record path f =
      match obstruction? maxDepth record path with
      | some fault => (record, some (.walk fault))
      | none =>
        match f (get? record path) with
        | .ok v => (stored record path v, none)
        | .error e => (prepared record path, some (.refused e)) := by
  have hwrite := write_eq f (.obj record) (segments_ne_nil path)
  have houtcome : (membersOf (write f (.obj record) (segments path)).1,
      (write f (.obj record) (segments path)).2) =
      match obstacle? (.obj record) (segments path) with
      | some fault => (record, some (.walk fault))
      | none =>
        match f (get? record path) with
        | .ok v => (stored record path v, none)
        | .error e => (prepared record path, some (.refused e)) := by
    rw [hwrite, get?]
    cases obstacle? (.obj record) (segments path) with
    | some fault => rfl
    | none => cases f (walk? (.obj record) (segments path)) <;> rfl
  unfold update obstruction? formFault?
  cases hd : isDotted path with
  | false =>
    rw [segments_of_not_dotted hd] at houtcome ⊢
    exact houtcome
  | true =>
    cases hc : checkedSegments maxDepth path with
    | error fault => rfl
    | ok parts =>
      rw [checkedSegments_eq_ok hc]
      exact houtcome

end Path
end Amend
