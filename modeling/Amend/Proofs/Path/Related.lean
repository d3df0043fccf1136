/-
Writing related values.  Two values that differ only in related numbers, written to one place of a
record in which no object has a name twice, leave two records that differ only in those numbers.
-/
import Amend.Proofs.Json.Related
import Amend.Proofs.Path.Update

namespace Amend
namespace Path

open Value (Related RelatedItems WellFormed)

variable {numbers : Number → Number → Prop} {v w w' : Value}

/-! ## What is found -/

theorem wellFormed_child? {segment : String} (h : v.WellFormed)
    (hchild : child? v segment = some w) : w.WellFormed := by
  cases h with
  | obj _ hmembers => exact hmembers _ (Members.mem_of_get? hchild)
  | arr hitems =>
    obtain ⟨i, -, hi⟩ := Option.bind_eq_some_iff.mp hchild
    exact hitems w (List.mem_of_getElem? hi)
  | null | bool | num | str => nomatch hchild

theorem wellFormed_walk? {walk : List String} (h : v.WellFormed)
    (hwalk : walk? v walk = some w) : w.WellFormed := by
  induction walk generalizing v with
  | nil => exact Option.some.inj hwalk ▸ h
  | cons segment rest ih =>
    rw [walk?_cons] at hwalk
    obtain ⟨child, hchild, hrest⟩ := Option.bind_eq_some_iff.mp hwalk
    exact ih (wellFormed_child? h hchild) hrest

theorem wellFormed_getD {found : Option Value} {default : Value} (hdefault : default.WellFormed)
    (h : ∀ w, found = some w → w.WellFormed) : (found.getD default).WellFormed := by
  cases found with
  | none => exact hdefault
  | some w => exact h w rfl

theorem wellFormed_orEmptyObject {found : Option Value}
    (h : ∀ w, found = some w → w.WellFormed) : (orEmptyObject found).WellFormed := by
  have hempty : (Value.obj []).WellFormed := .obj .nil nofun
  cases found with
  | none => exact hempty
  | some w =>
    cases w with
    | null => exact hempty
    | bool | num | str | arr | obj => exact h _ rfl

theorem wellFormed_entered (h : v.WellFormed) (segment : String) :
    (entered v segment).WellFormed := by
  have hchild : ∀ w, child? v segment = some w → w.WellFormed := fun _ => wellFormed_child? h
  cases v with
  | obj members => exact wellFormed_orEmptyObject hchild
  | null | bool | num | str | arr => exact wellFormed_getD .null hchild

/-! ## What is written -/

theorem relatedItems_set {items items' : List Value} (h : RelatedItems numbers items items')
    (i : Nat) (hw : Related numbers w w') :
    RelatedItems numbers (items.set i w) (items'.set i w') := by
  induction h generalizing i with
  | nil => exact .nil
  | cons hv hrest ih =>
    cases i with
    | zero => exact .cons hw hrest
    | succ i => exact .cons hv (ih i)

theorem related_putChild (hself : ∀ a, numbers a a) (h : v.WellFormed) (segment : String)
    (hw : Related numbers w w') :
    Related numbers (putChild v segment w) (putChild v segment w') := by
  have hv : Related numbers v v := h.related_self hself
  cases v with
  | obj members => exact hv.set segment hw
  | arr items =>
    rw [putChild, putChild]
    cases index? segment with
    | none => exact hv
    | some i =>
      exact Value.related_arr_iff.mpr (relatedItems_set (Value.related_arr_iff.mp hv) i hw)
  | null | bool | num | str => exact hv

theorem related_store (hself : ∀ a, numbers a a) (h : v.WellFormed) (walk : List String)
    (hw : Related numbers w w') : Related numbers (store v walk w) (store v walk w') := by
  induction walk generalizing v with
  | nil => exact hw
  | cons segment rest ih =>
    rw [store_cons, store_cons]
    exact related_putChild hself h segment (ih (wellFormed_entered h segment))

theorem wellFormed_opened (h : v.WellFormed) (walk : List String) :
    (opened v walk).WellFormed := by
  induction walk generalizing v with
  | nil => exact h
  | cons segment rest ih =>
    cases rest with
    | nil => exact h
    | cons next rest =>
      have hbelow := ih (wellFormed_entered h segment)
      rw [opened_cons_cons]
      have hput : Related Eq (putChild v segment (opened (entered v segment) (next :: rest)))
          (putChild v segment (opened (entered v segment) (next :: rest))) :=
        related_putChild (fun _ => rfl) h segment (hbelow.related_self fun _ => rfl)
      exact hput.wellFormed

theorem related_membersOf (h : Related numbers w w') :
    Related numbers (.obj (membersOf w)) (.obj (membersOf w')) := by
  cases h with
  | obj hdistinct hlength hnames h => exact .obj hdistinct hlength hnames h
  | null | bool | num | str | arr => exact Value.related_obj_iff.mpr ⟨.nil, .nil⟩

variable {record : Record} (path : String)

/-- Two records with related values stored in one place. -/
theorem related_stored (hself : ∀ a, numbers a a) (h : (Value.obj record).WellFormed)
    (hw : Related numbers w w') :
    Related numbers (.obj (stored record path w)) (.obj (stored record path w')) :=
  related_membersOf (related_store hself h (segments path) hw)

theorem wellFormed_prepared (h : (Value.obj record).WellFormed) :
    (Value.obj (prepared record path)).WellFormed := by
  have hopened : Related Eq (opened (.obj record) (segments path))
      (opened (.obj record) (segments path)) :=
    (wellFormed_opened h (segments path)).related_self fun _ => rfl
  exact (related_membersOf hopened).wellFormed

end Path
end Amend
