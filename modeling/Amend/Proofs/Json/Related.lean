/-
Values that differ only in their numbers.  Two such values have the same shape and the same names
in the same order, and their numbers are related place by place.  Where the related numbers have
equal doubles, the values are equal, and neither equality nor order tells them apart.
-/
import Mathlib.Data.List.Forall2
import Amend.Proofs.Json.Magnitude
import Amend.Proofs.Json.WellFormed

namespace Amend

namespace Number

/-- Numbers with equal doubles. -/
def Coincide (a b : Number) : Prop := a.toBinary64.eq b.toBinary64 = true

theorem Coincide.refl (a : Number) : Coincide a a := a.eq_self

theorem coincide_iff {a b : Number} :
    Coincide a b ↔ Binary64.place a.units = Binary64.place b.units := by
  rw [Coincide, Binary64.eq, compareWith_toBinary64, decide_eq_true_iff]

theorem coincide_of_toBinary64 {a b : Number} (h : a.toBinary64 = b.toBinary64) :
    Coincide a b := by
  rw [Coincide, ← h]
  exact a.eq_self

end Number

namespace Value

/-- Values with related numbers in the same places and no other difference.  No object in them has
a name twice.  The items stand in pairs of a zip, and not in `List.Forall₂`, so that induction
on the relation gives a hypothesis for each pair. -/
inductive Related (numbers : Number → Number → Prop) : Value → Value → Prop where
  | null : Related numbers .null .null
  | bool (b : Bool) : Related numbers (.bool b) (.bool b)
  | num {a b : Number} (h : numbers a b) : Related numbers (.num a) (.num b)
  | str (s : String) : Related numbers (.str s) (.str s)
  | arr {items items' : List Value} (hlength : items.length = items'.length)
    (h : ∀ v w, (v, w) ∈ items.zip items' → Related numbers v w) :
    Related numbers (.arr items) (.arr items')
  | obj {members members' : Members Value} (hdistinct : members.Distinct)
    (hlength : members.length = members'.length)
    (hnames : ∀ m m', (m, m') ∈ members.zip members' → m.1 = m'.1)
    (h : ∀ m m', (m, m') ∈ members.zip members' → Related numbers m.2 m'.2) :
    Related numbers (.obj members) (.obj members')

/-- Lists of related values. -/
abbrev RelatedItems (numbers : Number → Number → Prop) : List Value → List Value → Prop :=
  List.Forall₂ (Related numbers)

/-- Lists of members of the same names and related values. -/
abbrev RelatedMembers (numbers : Number → Number → Prop) :
    Members Value → Members Value → Prop :=
  List.Forall₂ fun m m' => m.1 = m'.1 ∧ Related numbers m.2 m'.2

variable {numbers numbers' : Number → Number → Prop} {v v' w w' : Value}
  {items items' : List Value} {members members' : Members Value}

theorem related_arr_iff :
    Related numbers (.arr items) (.arr items') ↔ RelatedItems numbers items items' := by
  rw [RelatedItems, List.forall₂_iff_zip]
  constructor
  · intro h
    cases h with
    | arr hlength h => exact ⟨hlength, fun {v w} => h v w⟩
  · rintro ⟨hlength, h⟩
    exact .arr hlength fun v w => h

theorem related_obj_iff :
    Related numbers (.obj members) (.obj members') ↔
      members.Distinct ∧ RelatedMembers numbers members members' := by
  rw [RelatedMembers, List.forall₂_iff_zip]
  constructor
  · intro h
    cases h with
    | obj hdistinct hlength hnames h =>
      exact ⟨hdistinct, hlength, fun {m m'} hm => ⟨hnames m m' hm, h m m' hm⟩⟩
  · rintro ⟨hdistinct, hlength, h⟩
    exact .obj hdistinct hlength (fun m m' hm => (h hm).1) fun m m' hm => (h hm).2

theorem Related.mono (hmono : ∀ a b, numbers a b → numbers' a b) (h : Related numbers v w) :
    Related numbers' v w := by
  induction h with
  | null => exact .null
  | bool b => exact .bool b
  | num h => exact .num (hmono _ _ h)
  | str s => exact .str s
  | arr hlength _ ih => exact .arr hlength ih
  | obj hdistinct hlength hnames _ ih => exact .obj hdistinct hlength hnames ih

/-- A value in which no object has a name twice is related to itself. -/
theorem WellFormed.related_self (hself : ∀ a, numbers a a) (h : v.WellFormed) :
    Related numbers v v := by
  induction h with
  | null => exact .null
  | bool b => exact .bool b
  | num n => exact .num (hself n)
  | str s => exact .str s
  | arr _ ih => exact related_arr_iff.mpr (List.forall₂_same.mpr ih)
  | obj hdistinct _ ih =>
    exact related_obj_iff.mpr ⟨hdistinct, List.forall₂_same.mpr fun m hm => ⟨rfl, ih m hm⟩⟩

/-- Only values in which no object has a name twice are related to others. -/
theorem Related.wellFormed (h : Related numbers v w) : v.WellFormed := by
  induction h with
  | null => exact .null
  | bool b => exact .bool b
  | num h => exact .num _
  | str s => exact .str s
  | @arr items items' hlength h ih =>
    have hboth : List.Forall₂ (fun v w => v.WellFormed ∧ Related numbers v w) items items' :=
      List.forall₂_iff_zip.mpr ⟨hlength, fun hm => ⟨ih _ _ hm, h _ _ hm⟩⟩
    exact .arr ((List.forall₂_and_left _ _).mp hboth).1
  | @obj members members' hdistinct hlength hnames h ih =>
    have hboth : List.Forall₂ (fun m m' => m.2.WellFormed ∧ Related numbers m.2 m'.2)
        members members' :=
      List.forall₂_iff_zip.mpr ⟨hlength, fun hm => ⟨ih _ _ hm, h _ _ hm⟩⟩
    exact .obj hdistinct ((List.forall₂_and_left _ _).mp hboth).1

/-! ## Members -/

theorem RelatedMembers.get? (h : RelatedMembers numbers members members') (key : String) :
    Option.Rel (Related numbers) (members.get? key) (members'.get? key) := by
  induction h with
  | nil => exact .none
  | @cons m m' rest rest' hm _ ih =>
    obtain ⟨k, v⟩ := m
    obtain ⟨k', v'⟩ := m'
    obtain ⟨rfl, hv⟩ : k = k' ∧ Related numbers v v' := hm
    unfold Members.get?
    split
    · exact .some hv
    · exact ih

theorem RelatedMembers.set (h : RelatedMembers numbers members members') (key : String)
    (hv : Related numbers v v') :
    RelatedMembers numbers (members.set key v) (members'.set key v') := by
  induction h with
  | nil => exact .cons ⟨rfl, hv⟩ .nil
  | @cons m m' rest rest' hm hrest ih =>
    obtain ⟨k, u⟩ := m
    obtain ⟨k', u'⟩ := m'
    obtain ⟨rfl, hu⟩ : k = k' ∧ Related numbers u u' := hm
    unfold Members.set
    split
    · exact .cons ⟨rfl, hv⟩ hrest
    · exact .cons ⟨rfl, hu⟩ ih

theorem Related.set (h : Related numbers (.obj members) (.obj members')) (key : String)
    (hv : Related numbers v v') :
    Related numbers (.obj (members.set key v)) (.obj (members'.set key v')) := by
  obtain ⟨hdistinct, hmembers⟩ := related_obj_iff.mp h
  exact related_obj_iff.mpr ⟨hdistinct.set key v, hmembers.set key hv⟩

theorem Related.get? (h : Related numbers (.obj members) (.obj members')) (key : String) :
    Option.Rel (Related numbers) (members.get? key) (members'.get? key) :=
  (related_obj_iff.mp h).2.get? key

/-! ## Equality and order -/

open Number (Coincide)

/-- Whether two values compare alike with every pair of related values. -/
def ComparesAs (v v' : Value) : Prop :=
  ∀ {w w' : Value}, Related Coincide w w' → v.equal w = v'.equal w'

theorem equalItems_congr {others others' : List Value} (h : List.Forall₂ ComparesAs items items')
    (hothers : RelatedItems Coincide others others') :
    equalItems (fun a b => a.toBinary64.eq b.toBinary64) items others =
      equalItems (fun a b => a.toBinary64.eq b.toBinary64) items' others' := by
  induction h generalizing others others' with
  | nil => cases hothers <;> rfl
  | cons hv _ ih =>
    cases hothers with
    | nil => rfl
    | cons hw hrest =>
      have hfirst := hv hw
      unfold equal at hfirst
      rw [equalItems, equalItems, hfirst, ih hrest]

theorem equalMembers_congr {others others' : Members Value}
    (h : List.Forall₂ (fun m m' => m.1 = m'.1 ∧ ComparesAs m.2 m'.2) members members')
    (hothers : RelatedMembers Coincide others others') :
    equalMembers (fun a b => a.toBinary64.eq b.toBinary64) members others =
      equalMembers (fun a b => a.toBinary64.eq b.toBinary64) members' others' := by
  induction h with
  | nil => rfl
  | @cons m m' _ _ hm _ ih =>
    obtain ⟨key, v⟩ := m
    obtain ⟨key', v'⟩ := m'
    obtain ⟨rfl, hv⟩ : key = key' ∧ ComparesAs v v' := hm
    have hget := hothers.get? key
    unfold equalMembers
    rw [ih]
    generalize Members.get? others key = first, Members.get? others' key = second at hget ⊢
    cases hget with
    | none => rfl
    | some hget =>
      have hfirst := hv hget
      unfold equal at hfirst
      simp only [hfirst]

/-- Equality does not tell values apart whose numbers have equal doubles. -/
theorem Related.comparesAs (h : Related Coincide v v') : ComparesAs v v' := by
  induction h with
  | null | bool | str =>
    intro w w' hw
    cases hw <;> rfl
  | @num a b h =>
    intro w w' hw
    cases hw with
    | num hw =>
      have hplace := Number.coincide_iff.mp h
      have hplace' := Number.coincide_iff.mp hw
      show Binary64.eq _ _ = Binary64.eq _ _
      rw [Binary64.eq, Binary64.eq, Number.compareWith_toBinary64, Number.compareWith_toBinary64,
        hplace, hplace']
    | null | bool | str | arr | obj => rfl
  | @arr items items' hlength h ih =>
    intro w w' hw
    have hitems : List.Forall₂ ComparesAs items items' :=
      List.forall₂_iff_zip.mpr ⟨hlength, fun hm => ih _ _ hm⟩
    cases hw with
    | arr hlength' h' =>
      exact equalItems_congr hitems (related_arr_iff.mp (.arr hlength' h'))
    | null | bool | num | str | obj => rfl
  | @obj members members' hdistinct hlength hnames h ih =>
    intro w w' hw
    have hmembers : List.Forall₂ (fun m m' => m.1 = m'.1 ∧ ComparesAs m.2 m'.2)
        members members' :=
      List.forall₂_iff_zip.mpr ⟨hlength, fun hm => ⟨hnames _ _ hm, ih _ _ hm⟩⟩
    cases hw with
    | obj hdistinct' hlength' hnames' h' =>
      have hothers := (related_obj_iff.mp (.obj hdistinct' hlength' hnames' h')).2
      show (_ && _) = (_ && _)
      rw [hlength, hlength', equalMembers_congr hmembers hothers]
    | null | bool | num | str | arr => rfl

theorem equal_congr (hv : Related Coincide v v') (hw : Related Coincide w w') :
    v.equal w = v'.equal w' := hv.comparesAs hw

/-- Values whose numbers have equal doubles are equal. -/
theorem Related.equal (h : Related Coincide v w) : v.equal w = true := by
  have hself := h.wellFormed.related_self Coincide.refl
  rw [← equal_congr hself h]
  exact h.wellFormed.equal_self

theorem compareNumbers_congr {a a' b b' : Number} (ha : Coincide a a') (hb : Coincide b b') :
    compareNumbers a.toBinary64 b.toBinary64 = compareNumbers a'.toBinary64 b'.toBinary64 := by
  have hplace := Number.coincide_iff.mp ha
  have hplace' := Number.coincide_iff.mp hb
  unfold compareNumbers Binary64.lt
  rw [Number.compareWith_toBinary64, Number.compareWith_toBinary64, Number.compareWith_toBinary64,
    Number.compareWith_toBinary64, hplace, hplace']

/-- The order does not tell values apart whose numbers have equal doubles. -/
theorem compare_congr (hv : Related Coincide v v') (hw : Related Coincide w w') :
    v.compare w = v'.compare w' := by
  cases hv with
  | num hv =>
    cases hw with
    | num hw => exact compareNumbers_congr hv hw
    | null | bool | str | arr | obj => rfl
  | null | bool | str | arr | obj => cases hw <;> rfl

end Value
end Amend
