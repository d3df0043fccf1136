/-
What a refused update leaves behind.  The walk has made the objects above the last segment that
were missing or null, and nothing else: the record is what it was, or what setting the parent
path to an empty object makes of it.
-/
import Amend.Proofs.Path.Lens

namespace Amend

/- One value has become another by growth when nulls have turned into objects and objects have
got new members after their old ones.  Everything else is as it was, in its old order. -/
mutual

inductive Grows : Value → Value → Prop where
  | refl (v : Value) : Grows v v
  | null (members : List (String × Value)) : Grows .null (.obj members)
  | arr {items items' : List Value} : GrowsItems items items' → Grows (.arr items) (.arr items')
  | obj {members members' : List (String × Value)} :
    GrowsMembers members members' → Grows (.obj members) (.obj members')

inductive GrowsItems : List Value → List Value → Prop where
  | nil : GrowsItems [] []
  | cons {v w : Value} {items items' : List Value} :
    Grows v w → GrowsItems items items' → GrowsItems (v :: items) (w :: items')

inductive GrowsMembers : List (String × Value) → List (String × Value) → Prop where
  | nil (added : List (String × Value)) : GrowsMembers [] added
  | cons (name : String) {v w : Value} {members members' : List (String × Value)} :
    Grows v w → GrowsMembers members members' →
      GrowsMembers ((name, v) :: members) ((name, w) :: members')

end

theorem GrowsItems.refl (items : List Value) : GrowsItems items items := by
  induction items with
  | nil => exact .nil
  | cons v items ih => exact .cons (.refl v) ih

theorem GrowsMembers.refl (members : List (String × Value)) : GrowsMembers members members := by
  induction members with
  | nil => exact .nil []
  | cons m members ih => exact .cons m.1 (.refl m.2) ih

theorem GrowsItems.set {items : List Value} {i : Nat} {w : Value}
    (h : ∀ v, items[i]? = some v → Grows v w) : GrowsItems items (items.set i w) := by
  induction items generalizing i with
  | nil => exact .nil
  | cons v items ih =>
    cases i with
    | zero => exact .cons (h v rfl) (.refl items)
    | succ i => exact .cons (.refl v) (ih h)

theorem GrowsMembers.set {members : Members Value} {key : String} {w : Value}
    (h : ∀ v, members.get? key = some v → Grows v w) :
    GrowsMembers members (members.set key w) := by
  induction members with
  | nil => exact .nil _
  | cons m members ih =>
    obtain ⟨k, v⟩ := m
    by_cases hk : k = key
    · subst hk
      simp only [Members.set, if_true]
      exact .cons k (h v (Members.get?_cons_self k v members)) (.refl members)
    · simp only [Members.set, hk, if_false]
      refine .cons k (.refl v) (ih fun u hu => h u ?_)
      simp only [Members.get?, hk, if_false, hu]

namespace Path

theorem grows_putChild {v w : Value} {segment : String} (h : HasSlot v segment)
    (hw : ∀ u, child? v segment = some u → Grows u w) : Grows v (putChild v segment w) := by
  rcases h.obj_or_arr with ⟨members, rfl⟩ | ⟨items, i, rfl, hi, -⟩
  · exact .obj (.set hw)
  · rw [putChild_arr w hi]
    rw [child?_arr hi] at hw
    exact .arr (.set hw)

/-- Making the objects on the way of a walk only lets a value grow. -/
theorem grows_opened {v : Value} {walk : List String} (h : obstacle? v walk = none) :
    Grows v (opened v walk) := by
  induction walk generalizing v with
  | nil => exact .refl v
  | cons segment rest ih =>
    cases rest with
    | nil => exact .refl v
    | cons next rest =>
      have hslot : HasSlot v segment := hasSlot_of_obstacle?_eq_none h
      have hbelow := ih (obstacle?_entered h)
      rw [opened_cons_cons]
      apply grows_putChild hslot
      intro u hu
      rcases entered_eq_or hslot with he | ⟨he, hc | hc⟩
      · rw [hu, Option.some.injEq] at he
        rw [he]
        exact hbelow
      · rw [hu] at hc
        nomatch hc
      · rw [hu, Option.some.injEq] at hc
        rw [he] at hbelow ⊢
        rw [hc]
        cases rest <;> exact .null _

/-- Making the objects on the way of a walk changes nothing at its end. -/
theorem walk?_opened {v : Value} {walk : List String} (h : obstacle? v walk = none) :
    walk? (opened v walk) walk = walk? v walk := by
  induction walk generalizing v with
  | nil => rfl
  | cons segment rest ih =>
    cases rest with
    | nil => rfl
    | cons next rest =>
      have hslot : HasSlot v segment := hasSlot_of_obstacle?_eq_none h
      rw [opened_cons_cons, walk?_cons, child?_putChild hslot, Option.bind_some,
        ih (obstacle?_entered h), walk?_entered hslot]

/-! ## The parent path -/

theorem obstacle?_of_append {v : Value} {walk : List String} {leaf : String} (hne : walk ≠ [])
    (h : obstacle? v (walk ++ [leaf]) = none) : obstacle? v walk = none := by
  induction walk generalizing v with
  | nil => exact absurd rfl hne
  | cons segment rest ih =>
    cases rest with
    | nil => exact slotFault?_eq_none_iff.mpr (hasSlot_of_obstacle?_eq_none h)
    | cons next rest =>
      rw [List.cons_append, List.cons_append, obstacle?_cons_cons, Option.or_eq_none_iff] at h
      rw [obstacle?_cons_cons, h.1, Option.none_or]
      exact ih (List.cons_ne_nil next rest) h.2

theorem orEmptyObject_of_ne_null {v : Value} (h : v ≠ .null) : orEmptyObject (some v) = v := by
  cases v with
  | null => exact absurd rfl h
  | bool | num | str | arr | obj => rfl

theorem HasSlot.ne_null {v : Value} {segment : String} (h : HasSlot v segment) : v ≠ .null := by
  rintro rfl
  exact h

/-- Where a walk can go on, it enters an empty object for what is missing or null and anything
else as it is. -/
theorem entered_eq_orEmptyObject {v : Value} {segment next : String} (h : HasSlot v segment)
    (hnext : HasSlot (entered v segment) next) :
    entered v segment = orEmptyObject (child? v segment) := by
  rcases entered_eq_or h with he | ⟨he, hc | hc⟩
  · rw [he, orEmptyObject_of_ne_null hnext.ne_null]
  · rw [he, hc]
    rfl
  · rw [he, hc]
    rfl

/-- Making the objects on the way of a walk is writing an empty object above its end, if nothing
or null is there, and else nothing. -/
theorem opened_append {v : Value} {walk : List String} {leaf : String} (hne : walk ≠ [])
    (h : obstacle? v (walk ++ [leaf]) = none) :
    opened v (walk ++ [leaf]) = store v walk (orEmptyObject (walk? v walk)) := by
  induction walk generalizing v with
  | nil => exact absurd rfl hne
  | cons segment rest ih =>
    have hslot : HasSlot v segment := hasSlot_of_obstacle?_eq_none h
    cases rest with
    | nil =>
      have hleaf := hasSlot_of_obstacle?_eq_none (obstacle?_entered h)
      have hwalk : walk? v [segment] = child? v segment := Option.bind_fun_some _
      rw [hwalk, ← entered_eq_orEmptyObject hslot hleaf]
      rfl
    | cons next rest =>
      rw [List.cons_append, List.cons_append, opened_cons_cons, store_cons,
        ← walk?_entered hslot]
      rw [← List.cons_append, ih (List.cons_ne_nil next rest) (obstacle?_entered h)]

variable {maxDepth : Nat} {record : Record} {path : String}

theorem segments_eq_append (h : isDotted path = true) :
    ∃ leaf, segments path = segments (parent path) ++ [leaf] := by
  refine ⟨(segments path).getLast (segments_ne_nil path), ?_⟩
  rw [segments_parent h, List.dropLast_concat_getLast]

theorem formFault?_parent (hd : isDotted path = true) (h : formFault? maxDepth path = none) :
    formFault? maxDepth (parent path) = none := by
  obtain ⟨leaf, hs⟩ := segments_eq_append hd
  rw [formFault?_eq_none_iff] at h ⊢
  intro _
  obtain ⟨hempty, hdepth⟩ := h hd
  rw [hs] at hempty hdepth
  rw [List.length_append] at hdepth
  exact ⟨fun hmem => hempty (List.mem_append_left _ hmem), by omega⟩

/-- A path below which a value can be put can be written to. -/
theorem obstruction?_parent (hd : isDotted path = true)
    (h : obstruction? maxDepth record path = none) :
    obstruction? maxDepth record (parent path) = none := by
  obtain ⟨leaf, hs⟩ := segments_eq_append hd
  have ho := obstacle?_of_obstruction? h
  rw [hs] at ho
  rw [obstruction?, formFault?_parent hd (Option.or_eq_none_iff.mp h).1,
    obstacle?_of_append (segments_ne_nil _) ho, Option.none_or]

/-- Whether nothing has to be made above the last segment of a path: it has no parent, or there
is something at its parent. -/
def ParentPresent (record : Record) (path : String) : Prop :=
  isDotted path = false ∨ ∃ v, get? record (parent path) = some v ∧ v ≠ .null

theorem prepared_of_not_dotted (hd : isDotted path = false) : prepared record path = record := by
  rw [prepared, segments_of_not_dotted hd]
  rfl

theorem prepared_of_dotted (hd : isDotted path = true)
    (h : obstruction? maxDepth record path = none) :
    prepared record path =
      stored record (parent path) (orEmptyObject (get? record (parent path))) := by
  obtain ⟨leaf, hs⟩ := segments_eq_append hd
  have ho := obstacle?_of_obstruction? h
  rw [hs] at ho
  rw [prepared, hs, opened_append (segments_ne_nil _) ho, stored, get?]

theorem prepared_of_parentPresent (h : obstruction? maxDepth record path = none)
    (hp : ParentPresent record path) : prepared record path = record := by
  cases hd : isDotted path with
  | false => exact prepared_of_not_dotted hd
  | true =>
    rcases hp with hp | ⟨v, hv, hne⟩
    · rw [hd] at hp
      nomatch hp
    · rw [prepared_of_dotted hd h, hv, orEmptyObject_of_ne_null hne, stored_of_get?_eq hv]

/-- Where the parent is missing or null, what is left behind is what setting it to an empty object
makes of the record. -/
theorem set_parent_of_not_parentPresent (h : obstruction? maxDepth record path = none)
    (hp : ¬ ParentPresent record path) :
    set maxDepth record (parent path) (.obj []) = (prepared record path, none) := by
  cases hd : isDotted path with
  | false => exact absurd (Or.inl hd) hp
  | true =>
    have hnull : orEmptyObject (get? record (parent path)) = .obj [] := by
      cases hg : get? record (parent path) with
      | none => rfl
      | some v =>
        by_cases hv : v = .null
        · rw [hv]
          rfl
        · exact absurd (Or.inr ⟨v, hg, hv⟩) hp
    rw [set_eq_stored (obstruction?_parent hd h), prepared_of_dotted hd h, hnull]

theorem obj_prepared (record : Record) (path : String) :
    .obj (prepared record path) = opened (.obj record) (segments path) := by
  rw [prepared]
  rcases hs : segments path with _ | ⟨s, _ | ⟨t, rest⟩⟩ <;> rfl

/-- A refused update only lets the record grow. -/
theorem grows_prepared (h : obstruction? maxDepth record path = none) :
    Grows (.obj record) (.obj (prepared record path)) := by
  rw [obj_prepared]
  exact grows_opened (obstacle?_of_obstruction? h)

/-- A refused update leaves what stands at its path. -/
theorem get?_prepared (h : obstruction? maxDepth record path = none) :
    get? (prepared record path) path = get? record path := by
  rw [get?, obj_prepared, walk?_opened (obstacle?_of_obstruction? h), get?]

end Path
end Amend
