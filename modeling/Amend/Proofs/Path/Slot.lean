/-
One step of a walk as a lens.  A segment names a slot of a container: any member of an object, or
an element that an array has.  What a walk reads below a segment, what a writing walk enters
there and what it puts back obey the laws of a lens, and `write` is the repetition of this step.
-/
import Amend.Path.Resolver
import Amend.Proofs.Json.Members

namespace Amend
namespace Path

/-- One step down: to a member by its name, or to an element by its place. -/
inductive Step where
  | member (name : String)
  | element (index : Nat)
deriving DecidableEq

/-- The step that a segment spells in a container. -/
def stepOf? : Value → String → Option Step
  | .obj _, segment => some (.member segment)
  | .arr _, segment => (index? segment).map .element
  | _, _ => none

/-- Whether a value has a place for a segment. -/
def HasSlot : Value → String → Prop
  | .obj _, _ => True
  | .arr items, segment => ∃ i, index? segment = some i ∧ i < items.length
  | _, _ => False

/-- Why there is no place for a segment; `scalar` tells it for a value that is no container. -/
def slotFault? (scalar : String → String → Fault) : Value → String → Option Fault
  | .obj _, _ => none
  | .arr items, segment =>
    match position segment items.length with
    | .ok _ => none
    | .error fault => some fault
  | v, segment => some (scalar segment v.kind)

/-- The value that a writing walk enters below a segment. -/
def entered : Value → String → Value
  | .obj members, segment => orEmptyObject (Members.get? members segment)
  | v, segment => (child? v segment).getD .null

/-- Puts a value below a segment. -/
def putChild : Value → String → Value → Value
  | .obj members, segment, w => .obj (Members.set members segment w)
  | .arr items, segment, w =>
    match index? segment with
    | some i => .arr (items.set i w)
    | none => .arr items
  | v, _, _ => v

theorem position_eq_ok_iff {segment : String} {length i : Nat} :
    position segment length = .ok i ↔ index? segment = some i ∧ i < length := by
  unfold position
  cases hi : index? segment with
  | none => simp
  | some j =>
    by_cases hj : j < length
    · simp only [hj, if_true, Except.ok.injEq, Option.some.injEq]
      constructor
      · rintro rfl
        exact ⟨rfl, hj⟩
      · exact And.left
    · simp only [hj, if_false, reduceCtorEq, Option.some.injEq, false_iff, not_and]
      rintro rfl
      exact hj

theorem slotFault?_eq_none_iff {scalar : String → String → Fault} {v : Value} {segment : String} :
    slotFault? scalar v segment = none ↔ HasSlot v segment := by
  cases v with
  | obj members => exact ⟨fun _ => trivial, fun _ => rfl⟩
  | arr items =>
    simp only [slotFault?, HasSlot]
    cases hp : position segment items.length with
    | ok i => exact ⟨fun _ => ⟨i, position_eq_ok_iff.mp hp⟩, fun _ => rfl⟩
    | error fault =>
      refine ⟨fun h => (nomatch h), fun ⟨i, hi⟩ => ?_⟩
      rw [position_eq_ok_iff.mpr hi] at hp
      nomatch hp
  | null | bool | num | str => exact ⟨fun h => (nomatch h), False.elim⟩

/-- A value with a slot is an object, or an array that is long enough. -/
theorem HasSlot.obj_or_arr {v : Value} {segment : String} (h : HasSlot v segment) :
    (∃ members, v = .obj members) ∨
      ∃ items i, v = .arr items ∧ index? segment = some i ∧ i < items.length := by
  cases v with
  | obj members => exact Or.inl ⟨members, rfl⟩
  | arr items =>
    obtain ⟨i, hi, hlt⟩ := h
    exact Or.inr ⟨items, i, rfl, hi, hlt⟩
  | null | bool | num | str => exact h.elim

/-! ## The laws of one step -/

theorem child?_arr {items : List Value} {segment : String} {i : Nat}
    (h : index? segment = some i) : child? (.arr items) segment = items[i]? := by
  rw [child?, h, Option.bind_some]

theorem putChild_arr {items : List Value} {segment : String} {i : Nat} (w : Value)
    (h : index? segment = some i) : putChild (.arr items) segment w = .arr (items.set i w) := by
  rw [putChild, h]

theorem hasSlot_of_child?_eq {v w : Value} {segment : String} (h : child? v segment = some w) :
    HasSlot v segment := by
  cases v with
  | obj members => trivial
  | arr items =>
    obtain ⟨i, hi, hw⟩ := Option.bind_eq_some_iff.mp h
    exact ⟨i, hi, (List.getElem?_eq_some_iff.mp hw).1⟩
  | null | bool | num | str => nomatch h

theorem child?_putChild {v : Value} {segment : String} (h : HasSlot v segment) (w : Value) :
    child? (putChild v segment w) segment = some w := by
  rcases h.obj_or_arr with ⟨members, rfl⟩ | ⟨items, i, rfl, hi, hlt⟩
  · exact Members.get?_set_self members segment w
  · rw [putChild_arr w hi, child?_arr hi, List.getElem?_set_self hlt]

theorem putChild_putChild {v : Value} {segment : String} (h : HasSlot v segment) (w x : Value) :
    putChild (putChild v segment w) segment x = putChild v segment x := by
  rcases h.obj_or_arr with ⟨members, rfl⟩ | ⟨items, i, rfl, hi, -⟩
  · simp only [putChild, Members.set_set]
  · rw [putChild_arr w hi, putChild_arr x hi, putChild_arr x hi, List.set_set]

/-- Putting back what is there changes nothing. -/
theorem putChild_of_child?_eq {v w : Value} {segment : String} (h : child? v segment = some w) :
    putChild v segment w = v := by
  rcases (hasSlot_of_child?_eq h).obj_or_arr with ⟨members, rfl⟩ | ⟨items, i, rfl, hi, hlt⟩
  · rw [putChild, Members.set_of_get?_eq h]
  · rw [child?_arr hi, List.getElem?_eq_getElem hlt, Option.some.injEq] at h
    rw [putChild_arr w hi, ← h, List.set_getElem_self]

theorem hasSlot_putChild {v : Value} {segment other : String} (h : HasSlot v segment)
    (w : Value) : HasSlot (putChild v segment w) other ↔ HasSlot v other := by
  rcases h.obj_or_arr with ⟨members, rfl⟩ | ⟨items, i, rfl, hi, -⟩
  · exact Iff.rfl
  · rw [putChild_arr w hi]
    simp only [HasSlot, List.length_set]

/-! Two segments may spell the same step, in an array by one number.  A write through a segment is
seen through those that spell its step, and through no others. -/

theorem stepOf?_arr {items : List Value} {segment : String} {i : Nat}
    (h : index? segment = some i) : stepOf? (.arr items) segment = some (.element i) := by
  rw [stepOf?, h, Option.map_some]

theorem child?_eq_of_stepOf?_eq {v : Value} {segment other : String}
    (h : stepOf? v segment = stepOf? v other) : child? v segment = child? v other := by
  cases v with
  | obj members =>
    rw [stepOf?, stepOf?, Option.some.injEq, Step.member.injEq] at h
    rw [h]
  | arr items =>
    have hi : index? segment = index? other :=
      Option.map_injective (fun i j hij => Step.element.inj hij) h
    rw [child?, child?, hi]
  | null | bool | num | str => rfl

theorem child?_putChild_of_stepOf?_eq {v : Value} {segment other : String}
    (h : HasSlot v segment) (hs : stepOf? v segment = stepOf? v other) (w : Value) :
    child? (putChild v segment w) other = some w := by
  rw [← child?_putChild h w]
  apply child?_eq_of_stepOf?_eq
  rcases h.obj_or_arr with ⟨members, rfl⟩ | ⟨items, i, rfl, hi, -⟩
  · exact hs.symm
  · rw [putChild_arr w hi]
    exact hs.symm

theorem child?_putChild_of_stepOf?_ne {v : Value} {segment other : String}
    (h : HasSlot v segment) (hs : stepOf? v segment ≠ stepOf? v other) (w : Value) :
    child? (putChild v segment w) other = child? v other := by
  rcases h.obj_or_arr with ⟨members, rfl⟩ | ⟨items, i, rfl, hi, -⟩
  · exact Members.get?_set_of_ne members w (fun he => hs (by rw [he]))
  · rw [putChild_arr w hi]
    cases hj : index? other with
    | none => simp only [child?, hj, Option.bind_none]
    | some j =>
      rw [child?_arr hj, child?_arr hj]
      apply List.getElem?_set_ne
      rintro rfl
      rw [stepOf?_arr hi, stepOf?_arr hj] at hs
      exact hs rfl

/-! ## What a writing walk enters -/

/-- A writing walk enters what a reading walk finds, or an empty object where that finds nothing
or null. -/
theorem entered_eq_or {v : Value} {segment : String} (h : HasSlot v segment) :
    child? v segment = some (entered v segment) ∨
      (entered v segment = .obj [] ∧
        (child? v segment = none ∨ child? v segment = some .null)) := by
  rcases h.obj_or_arr with ⟨members, rfl⟩ | ⟨items, i, rfl, hi, hlt⟩
  · rw [child?, entered]
    cases Members.get? members segment with
    | none => exact Or.inr ⟨rfl, Or.inl rfl⟩
    | some w =>
      cases w with
      | null => exact Or.inr ⟨rfl, Or.inr rfl⟩
      | bool | num | str | arr | obj => exact Or.inl rfl
  · left
    rw [entered, child?_arr hi, List.getElem?_eq_getElem hlt, Option.getD_some]
    exact fun members hm => nomatch hm

theorem entered_putChild {v w : Value} {segment : String} (h : HasSlot v segment)
    (hw : w ≠ .null) : entered (putChild v segment w) segment = w := by
  have hchild := child?_putChild h w
  rcases entered_eq_or ((hasSlot_putChild h w).mpr h) with he | ⟨-, he | he⟩
  · rw [hchild, Option.some.injEq] at he
    exact he.symm
  · rw [hchild] at he
    nomatch he
  · rw [hchild, Option.some.injEq] at he
    exact absurd he hw

theorem walk?_cons (v : Value) (segment : String) (rest : List String) :
    walk? v (segment :: rest) = (child? v segment).bind fun w => walk? w rest := rfl

/-- Below the first step a reading walk sees the same in the container that is there and in the
one that a writing walk enters. -/
theorem walk?_entered {v : Value} {segment : String} (h : HasSlot v segment) (next : String)
    (rest : List String) :
    walk? (entered v segment) (next :: rest) = walk? v (segment :: next :: rest) := by
  rw [walk?_cons v]
  rcases entered_eq_or h with he | ⟨he, hc | hc⟩
  · rw [he, Option.bind_some]
  · rw [he, hc]
    rfl
  · rw [he, hc]
    rfl

/-! ## Writing step by step -/

variable {ε : Type} (f : Option Value → Except ε Value)

theorem write_leaf (v : Value) (leaf : String) :
    write f v [leaf] =
      match slotFault? .parent v leaf with
      | some fault => (v, some (.walk fault))
      | none =>
        match f (child? v leaf) with
        | .ok w => (putChild v leaf w, none)
        | .error e => (v, some (.refused e)) := by
  cases v with
  | obj members =>
    rw [write, slotFault?, child?]
    cases f (Members.get? members leaf) <;> rfl
  | arr items =>
    rw [write, slotFault?]
    cases hp : position leaf items.length with
    | error fault => rfl
    | ok i =>
      have hi := (position_eq_ok_iff.mp hp).1
      rw [child?_arr hi]
      cases hf : f items[i]? with
      | error e => simp only [hf]
      | ok w => simp only [hf, putChild_arr w hi]
  | null | bool | num | str => rfl

theorem write_cons_cons (v : Value) (segment next : String) (rest : List String) :
    write f v (segment :: next :: rest) =
      match slotFault? .inside v segment with
      | some fault => (v, some (.walk fault))
      | none =>
        (putChild v segment (write f (entered v segment) (next :: rest)).1,
          (write f (entered v segment) (next :: rest)).2) := by
  cases v with
  | obj members => rfl
  | arr items =>
    rw [write, slotFault?]
    · cases hp : position segment items.length with
      | error fault => rfl
      | ok i =>
        have hi := (position_eq_ok_iff.mp hp).1
        have he : entered (.arr items) segment = items[i]?.getD .null := by
          rw [entered, child?_arr hi]
          exact fun members hm => nomatch hm
        simp only [he, putChild_arr _ hi]
    · exact List.cons_ne_nil next rest
  | null | bool | num | str => rfl

end Path
end Amend
