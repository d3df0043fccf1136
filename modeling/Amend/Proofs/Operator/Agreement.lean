/-
Operands whose integers are written as floats.  What an operator reads of such an operand by its
double is the same, and by its shape too, so that two attempts fail together or store values that
are equal.  The few readers that ask for the sort of a number agree where that number is written
alike.
-/
import Amend.Proofs.Json.Related
import Amend.Proofs.Json.Reader
import Amend.Proofs.Operator.Settled
import Amend.Proofs.Outcome

namespace Amend

namespace Number

/-- A number, or the float in place of an integer with at most 53 bits. -/
inductive Respelled : Number → Number → Prop where
  | refl (a : Number) : Respelled a a
  | float {n : Int} {x : Binary64.Finite} (hbits : n.natAbs ≤ 0x20000000000000)
    (h : Binary64.ofInt n = .finite x) : Respelled (.int n) (.float x)

theorem Respelled.toBinary64 {a b : Number} (h : Respelled a b) :
    a.toBinary64 = b.toBinary64 := by
  cases h with
  | refl => rfl
  | float _ h => exact h

theorem Respelled.coincide {a b : Number} (h : Respelled a b) : Coincide a b :=
  coincide_of_toBinary64 h.toBinary64

theorem toSigned?_of_bits {n : Int} (hbits : n.natAbs ≤ 0x20000000000000) :
    (Number.int n).toSigned? = some n := by
  refine if_pos ?_
  unfold minSigned maxSigned
  omega

end Number

open Number (Coincide Respelled)
open Value (Related RelatedItems RelatedMembers)

namespace Value

variable {v v' : Value}

theorem Related.coincide (h : Related Respelled v v') : Related Coincide v v' :=
  h.mono fun _ _ => Number.Respelled.coincide

theorem Related.toBinary64? (h : Related Respelled v v') : v.toBinary64? = v'.toBinary64? := by
  cases h with
  | num h => exact congrArg some h.toBinary64
  | null | bool | str | arr | obj => rfl

end Value

namespace Operator

variable {operand operand' : Value} {members members' : Members Value}

/-! ## Slices -/

namespace Slice

theorem agree_bound (h : Related Respelled (.obj members) (.obj members')) (name : String) :
    Agree Eq (bound members name) (bound members' name) := by
  have hget := h.get? name
  unfold bound
  generalize Members.get? members name = first, Members.get? members' name = second at hget ⊢
  cases hget with
  | none => exact .ok rfl
  | some hv =>
    cases hv with
    | null => exact .ok rfl
    | num hn => exact .ok (congrArg (fun d => some d.toInt64) hn.toBinary64)
    | bool | str | arr | obj => exact .error _ _

theorem agree_range (h : Related Respelled operand operand') (length : Nat) :
    Agree Eq (range operand length) (range operand' length) := by
  cases h with
  | obj hdistinct hlength hnames h =>
    have hmembers := Related.obj hdistinct hlength hnames h
    refine (agree_bound hmembers _).bind_eq fun first => ?_
    exact (agree_bound hmembers _).bind_eq fun last => .refl (fun _ => rfl) _
  | null | bool | num | str | arr => exact .error _ _

end Slice

/-! ## Strings -/

namespace Text

theorem agree_operandText (h : Related Respelled operand operand') :
    Agree Eq (operandText operand) (operandText operand') := by
  cases h with
  | str => exact .ok rfl
  | null | bool | num | arr | obj => exact .error _ _

theorem agree_requiredText (h : Related Respelled (.obj members) (.obj members'))
    (name : String) : Agree Eq (requiredText members name) (requiredText members' name) := by
  have hget := h.get? name
  unfold requiredText
  generalize Members.get? members name = first, Members.get? members' name = second at hget ⊢
  cases hget with
  | none => exact .error _ _
  | some hv =>
    cases hv with
    | str => exact .ok rfl
    | null | bool | num | arr | obj => exact .error _ _

theorem agree_replaced (text : List Char) (h : Related Respelled operand operand') :
    Agree Eq (replaced text operand) (replaced text operand') := by
  cases h with
  | obj hdistinct hlength hnames h =>
    have hmembers := Related.obj hdistinct hlength hnames h
    refine (agree_requiredText hmembers _).bind_eq fun search => ?_
    exact (agree_requiredText hmembers _).bind_eq fun replacement => .ok rfl
  | null | bool | num | str | arr => exact .error _ _

theorem agree_fromOffset (text : List Char) (h : Related Respelled operand operand') :
    Agree Eq (fromOffset text operand) (fromOffset text operand') := by
  unfold fromOffset
  rw [h.toBinary64?]
  cases operand'.toBinary64? with
  | none => exact .error _ _
  | some n =>
    cases hintegral : n.isIntegral with
    | true => simp only [hintegral, if_true]; exact .ok rfl
    | false => simp only [hintegral]; exact .error _ _

theorem agree_change (op : Text) (text : List Char) (h : Related Respelled operand operand') :
    Agree Eq (change op text operand) (change op text operand') := by
  cases op with
  | append | prepend => exact (agree_operandText h).bind_eq fun _ => .ok rfl
  | replace => exact agree_replaced text h
  | substr => exact agree_fromOffset text h
  | slice => exact (Slice.agree_range h text.length).bind_eq fun _ => .ok rfl
  | trim | capitalize | reverse | lowercase | uppercase | camelcase | kebabcase | snakecase
  | titlecase => exact .ok rfl

theorem agree_transform (op : Text) (stored : Option Value)
    (h : Related Respelled operand operand') :
    Agree (Related Coincide) (transform op stored operand) (transform op stored operand') := by
  refine (Agree.refl (fun _ => rfl) _).bind_eq fun text => ?_
  exact (agree_change op text h).bind_eq fun changed => .ok (.str _)

end Text

/-! ## Arrays -/

namespace Array

variable {items items' kept kept' : List Value}

/-- A list with its modifiers in two spellings of an operand. -/
structure RelatedForm (operand operand' : Value) (form form' : List Value × Members Value) :
    Prop where
  additions : RelatedItems Coincide form.1 form'.1
  eq_obj : operand = .obj form.2
  eq_obj' : operand' = .obj form'.2
  has_each : form.2.get? "$each" ≠ none

theorem agree_each? (h : Related Respelled operand operand') :
    Agree (Option.Rel (RelatedForm operand operand')) (each? operand) (each? operand') := by
  cases h with
  | @obj modifiers modifiers' hdistinct hlength hnames h =>
    have hget := (Related.obj hdistinct hlength hnames h).get? "$each"
    rw [each?, each?]
    cases heach : Members.get? modifiers "$each" with
    | none =>
      rw [heach] at hget
      generalize Members.get? modifiers' "$each" = second at hget ⊢
      cases hget
      exact .ok .none
    | some v =>
      rw [heach] at hget
      generalize Members.get? modifiers' "$each" = second at hget ⊢
      cases hget with
      | some hv =>
        cases hv with
        | arr hlength h =>
          have hadditions := Value.related_arr_iff.mp (Related.coincide (.arr hlength h))
          exact .ok (.some ⟨hadditions, rfl, rfl, heach ▸ Option.some_ne_none _⟩)
        | null | bool | num | str | obj => exact .error _ _
  | null | bool | num | str | arr => exact .ok .none

/-- The direction in which a list of items is to be sorted, if it is an integer, is spelled as an
integer. -/
def SortAlike (operand operand' : Value) : Prop :=
  operand.member? "$each" ≠ none → ∀ d : Int, operand.member? "$sort" = some (.int d) →
    d = -1 ∨ d = 0 ∨ d = 1 → operand'.member? "$sort" = some (.int d)

theorem agree_direction (h : Related Respelled (.obj members) (.obj members'))
    (hsort : ∀ d : Int, members.get? "$sort" = some (.int d) → d = -1 ∨ d = 0 ∨ d = 1 →
      members'.get? "$sort" = some (.int d)) :
    Agree Eq (direction members) (direction members') := by
  have hget := h.get? "$sort"
  unfold direction
  generalize Members.get? members "$sort" = first, Members.get? members' "$sort" = second
    at hget hsort ⊢
  cases hget with
  | none => exact .ok rfl
  | some hv =>
    cases hv with
    | null => exact .ok rfl
    | bool b => cases b <;> exact .ok rfl
    | num hn =>
      cases hn with
      | refl a => exact .refl (fun _ => rfl) _
      | @float n x hbits hx =>
        have hother : ¬(n = -1 ∨ n = 0 ∨ n = 1) := fun hn => nomatch hsort n rfl hn
        simp only [Number.toSigned?_of_bits hbits]
        split
        · next h => exact absurd (.inr (.inr (Option.some.inj h))) hother
        · next h => exact absurd (.inl (Option.some.inj h)) hother
        · next h => exact absurd (.inr (.inl (Option.some.inj h))) hother
        · exact .error _ _
    | str | arr | obj => exact .error _ _

theorem agree_insertionIndex (h : Related Respelled (.obj members) (.obj members'))
    (length : Nat) :
    Agree Eq (insertionIndex members length) (insertionIndex members' length) := by
  have hget := h.get? "$position"
  unfold insertionIndex
  generalize Members.get? members "$position" = first, Members.get? members' "$position" = second
    at hget ⊢
  cases hget with
  | none => exact .ok rfl
  | some hv =>
    cases hv with
    | null => exact .ok rfl
    | num hn =>
      simp only [Value.toBinary64?, hn.toBinary64]
      split
      · exact .ok rfl
      · exact .error _ _
    | bool | str | arr | obj => exact .error _ _

/-- Related lists that are sorted by what does not tell related items apart stay related. -/
theorem forall₂_mergeSort {α : Type} {rel : α → α → Prop} {le : α → α → Bool} {as bs : List α}
    (hle : ∀ a a' b b', rel a a' → rel b b' → le a b = le a' b') (h : List.Forall₂ rel as bs) :
    List.Forall₂ rel (as.mergeSort le) (bs.mergeSort le) := by
  obtain ⟨hlength, hzip⟩ := List.forall₂_iff_zip.mp h
  -- The pairs are sorted by their first items, and so by their second ones.
  have hfirst : (as.zip bs).map Prod.fst = as := List.map_fst_zip (Nat.le_of_eq hlength)
  have hsecond : (as.zip bs).map Prod.snd = bs := List.map_snd_zip (Nat.le_of_eq hlength.symm)
  have hsort := List.map_mergeSort (l := as.zip bs) (f := Prod.fst) (s := le)
    (r := fun p q => le p.1 q.1) fun _ _ _ _ => rfl
  have hsort' := List.map_mergeSort (l := as.zip bs) (f := Prod.snd) (s := le)
    (r := fun p q => le p.1 q.1) fun p hp q hq => hle _ _ _ _ (hzip hp) (hzip hq)
  rw [hfirst] at hsort
  rw [hsecond] at hsort'
  rw [← hsort, ← hsort', List.forall₂_map_left_iff, List.forall₂_map_right_iff, List.forall₂_same]
  intro p hp
  exact hzip ((List.mergeSort_perm _ _).mem_iff.mp hp)

theorem related_sort (order : Direction) (h : RelatedItems Coincide items items') :
    RelatedItems Coincide (order.sort items) (order.sort items') := by
  cases order with
  | asGiven => exact h
  | ascending =>
    exact forall₂_mergeSort
      (fun _ _ _ _ hv hw => congrArg Ordering.isLE (Value.compare_congr hv hw)) h
  | descending =>
    exact forall₂_mergeSort
      (fun _ _ _ _ hv hw => congrArg Ordering.isLE (Value.compare_congr hw hv)) h

/-- One end of the array is dropped for an integer that is spelled as an integer. -/
def PopAlike (operand operand' : Value) : Prop :=
  ∀ d : Int, operand = .int d → d = 1 ∨ d = -1 → operand' = operand

theorem popped_eq (items : List Value) (h : Related Respelled operand operand')
    (hpop : PopAlike operand operand') : popped items operand = popped items operand' := by
  cases h with
  | num hn =>
    cases hn with
    | refl a => rfl
    | @float n x hbits hx =>
      have hother : ¬(n = 1 ∨ n = -1) := fun hn => nomatch hpop n rfl hn
      have hsigned : (Value.num (.int n)).toSigned? = some n := Number.toSigned?_of_bits hbits
      have hfloat : popped items (.num (.float x)) = items := rfl
      rw [hfloat]
      unfold popped
      rw [hsigned]
      split
      · next h => exact absurd (.inl (Option.some.inj h)) hother
      · next h => exact absurd (.inr (Option.some.inj h)) hother
      · rfl
  | null | bool | str | arr | obj => rfl

/-! ### Removal -/

/-- A comparator with its argument in two spellings. -/
def RelatedComparator (c c' : String × Value) : Prop :=
  c.1 ∈ comparators ∧ c.1 = c'.1 ∧ Related Respelled c.2 c'.2

theorem related_findSome? (h : Related Respelled (.obj members) (.obj members'))
    {names : List String} (hnames : ∀ name ∈ names, name ∈ comparators) :
    Option.Rel RelatedComparator
      (names.findSome? fun key => (Members.get? members key).map (key, ·))
      (names.findSome? fun key => (Members.get? members' key).map (key, ·)) := by
  induction names with
  | nil => exact .none
  | cons key rest ih =>
    have hget := h.get? key
    have hrest := ih fun name hname => hnames name (List.mem_cons_of_mem key hname)
    rw [List.findSome?_cons, List.findSome?_cons]
    generalize Members.get? members key = first, Members.get? members' key = second at hget ⊢
    cases hget with
    | none => exact hrest
    | some hv => exact .some ⟨hnames key List.mem_cons_self, rfl, hv⟩

theorem related_comparator? (h : Related Respelled operand operand') :
    Option.Rel RelatedComparator (comparator? operand) (comparator? operand') := by
  cases h with
  | obj hdistinct hlength hnames h =>
    exact related_findSome? (.obj hdistinct hlength hnames h) fun _ => id
  | null | bool | num | str | arr => exact .none

/-- A position that is asked for by an integer is spelled as an integer. -/
def PositionAlike (operand operand' : Value) : Prop :=
  ∀ d : Int, 0 ≤ d → comparator? operand = some ("$position", .int d) →
    comparator? operand' = some ("$position", .int d)

/-- Two selectors that take the same out of every array of well-formed items. -/
def RemoveAlike (s s' : Selector) : Prop :=
  ∀ items : List Value, (∀ item ∈ items, item.WellFormed) → s.remove items = s'.remove items

theorem removeAlike_of_selects {s s' : Selector} (hat : ∀ index, s ≠ .at index)
    (hat' : ∀ index, s' ≠ .at index)
    (h : ∀ item, Related Coincide item item → s.selects item = s'.selects item) :
    RemoveAlike s s' := by
  intro items hitems
  rw [remove_eq_filter hat, remove_eq_filter hat']
  refine List.filter_congr fun item hitem => ?_
  rw [h item ((hitems item hitem).related_self Coincide.refl)]

theorem agree_listArgument (key : String) (h : Related Respelled operand operand') :
    Agree (RelatedItems Coincide) (listArgument key operand) (listArgument key operand') := by
  cases h with
  | arr hlength h =>
    exact .ok (Value.related_arr_iff.mp (Related.coincide (.arr hlength h)))
  | null | bool | num | str | obj => exact .error _ _

theorem any_congr {list list' : List Value} {item item' : Value}
    (hitem : Related Coincide item item') (h : RelatedItems Coincide list list') :
    list.any (·.equal item) = list'.any (·.equal item') := by
  induction h with
  | nil => rfl
  | cons hv _ ih => rw [List.any_cons, List.any_cons, ih, Value.equal_congr hv hitem]

theorem ordered_congr {item : Value} (hitem : Related Coincide item item)
    (h : Related Coincide operand operand') : ordered item operand = ordered item operand' := by
  have hcompare := Value.compare_congr hitem h
  cases h with
  | num => cases item <;> first | rfl | exact congrArg some hcompare
  | str => rfl
  | null | bool | arr | obj => cases item <;> rfl

theorem agree_position {v v' : Value} (h : Related Respelled v v')
    (hv : ∀ d : Int, 0 ≤ d → v = .int d → v' = .int d) :
    Agree RemoveAlike
      (match v.toUnsigned? with
        | some index => .ok (.at index)
        | none => .error (Fault.argument "$position" "a non-negative integer" v.text))
      (match v'.toUnsigned? with
        | some index => .ok (.at index)
        | none => .error (Fault.argument "$position" "a non-negative integer" v'.text)) := by
  cases h with
  | num hn =>
    cases hn with
    | refl a => exact .refl (fun _ _ _ => rfl) _
    | @float n x hbits hx =>
      have hnegative : ¬(0 ≤ n ∧ n ≤ Number.maxUnsigned) := fun hn => nomatch hv n hn.1 rfl
      have hunsigned : (Value.num (.int n)).toUnsigned? = none := if_neg hnegative
      rw [hunsigned]
      exact .error _ _
  | null | bool | str | arr | obj => exact .error _ _

theorem agree_selector (h : Related Respelled operand operand')
    (hposition : PositionAlike operand operand') :
    Agree RemoveAlike (selector operand) (selector operand') := by
  have hcomparator := related_comparator? h
  unfold PositionAlike at hposition
  unfold selector
  generalize comparator? operand = first, comparator? operand' = second
    at hcomparator hposition ⊢
  cases hcomparator with
  | none =>
    refine .ok (removeAlike_of_selects nofun nofun fun item hitem => ?_)
    exact Value.equal_congr hitem h.coincide
  | @some c c' hc =>
    obtain ⟨key, v⟩ := c
    obtain ⟨key', v'⟩ := c'
    obtain ⟨hkey, rfl, hv⟩ : key ∈ comparators ∧ key = key' ∧ Related Respelled v v' := hc
    simp only [comparators, List.mem_cons, List.not_mem_nil, or_false] at hkey
    rcases hkey with rfl | rfl | rfl | rfl | rfl | rfl | rfl | rfl | rfl
    · refine (agree_listArgument "$in" hv).map fun list list' hlist => ?_
      exact removeAlike_of_selects nofun nofun fun item hitem => any_congr hitem hlist
    · refine (agree_listArgument "$nin" hv).map fun list list' hlist => ?_
      exact removeAlike_of_selects nofun nofun fun item hitem =>
        congrArg not (any_congr hitem hlist)
    · exact agree_position hv fun d hd heq => by
        cases heq
        exact congrArg Prod.snd (Option.some.inj (hposition d hd rfl))
    · exact .ok (removeAlike_of_selects nofun nofun fun item hitem =>
        Value.equal_congr hitem hv.coincide)
    · exact .ok (removeAlike_of_selects nofun nofun fun item hitem =>
        congrArg not (Value.equal_congr hitem hv.coincide))
    -- What is left are the four comparisons by order.
    all_goals
      refine .ok (removeAlike_of_selects nofun nofun fun item hitem => ?_)
      simp only [Selector.selects, ordered_congr hitem hv.coincide]

/-! ### Addition -/

theorem related_unique (hkept : RelatedItems Coincide kept kept')
    (h : RelatedItems Coincide items items') :
    RelatedItems Coincide (unique kept items) (unique kept' items') := by
  induction h generalizing kept kept' with
  | nil => exact hkept
  | cons hitem _ ih =>
    have hany := any_congr hitem hkept
    unfold unique
    rw [hany]
    split
    · exact ih hkept
    · exact ih (List.rel_append hkept (.cons hitem .nil))

theorem agree_united (hitems : RelatedItems Coincide items items)
    (h : Related Respelled operand operand') :
    Agree (RelatedItems Coincide) (united items operand) (united items operand') := by
  refine (agree_each? h).bind fun form form' hform => ?_
  cases hform with
  | none => exact .ok (related_unique .nil (List.rel_append hitems (.cons h.coincide .nil)))
  | some hform => exact .ok (related_unique .nil (List.rel_append hitems hform.additions))

theorem agree_pushed (hitems : RelatedItems Coincide items items)
    (h : Related Respelled operand operand') (hsort : SortAlike operand operand') :
    Agree (RelatedItems Coincide) (pushed items operand) (pushed items operand') := by
  refine (agree_each? h).bind fun form form' hform => ?_
  cases hform with
  | none => exact .ok (List.rel_append hitems (.cons h.coincide .nil))
  | @some form form' hform =>
    obtain ⟨additions, modifiers⟩ := form
    obtain ⟨additions', modifiers'⟩ := form'
    obtain ⟨hadditions, rfl, rfl, heach⟩ := hform
    refine (agree_direction h (hsort heach)).bind_eq fun order => ?_
    refine (agree_insertionIndex h items.length).bind_eq fun index => .ok ?_
    exact List.rel_append (List.rel_append (List.forall₂_take index hitems)
      (related_sort order hadditions)) (List.forall₂_drop index hitems)

/-! ### Every operator -/

/-- Where an array operator asks for the sort of a number, the number is spelled alike. -/
def SpelledAlike : Array → Value → Value → Prop
  | .push => SortAlike
  | .pop => PopAlike
  | .pull => PositionAlike
  | _ => fun _ _ => True

theorem related_of_subset {part : List Value} (hitems : ∀ item ∈ items, item.WellFormed)
    (h : part ⊆ items) : RelatedItems Coincide part part :=
  List.forall₂_same.mpr fun item hitem =>
    (hitems item (h hitem)).related_self Coincide.refl

theorem popped_subset (items : List Value) (operand : Value) : popped items operand ⊆ items := by
  unfold popped
  split
  · exact List.dropLast_subset items
  · exact List.drop_subset 1 items
  · exact List.Subset.refl items

theorem remove_subset (s : Selector) (items : List Value) : s.remove items ⊆ items := by
  cases s with
  | «at» index => exact List.eraseIdx_subset
  | equalTo | oneOf | noneOf | notEqualTo | less | greater | lessOrEqual | greaterOrEqual =>
    exact List.filter_sublist.subset

theorem agree_change (op : Array) (hitems : ∀ item ∈ items, item.WellFormed)
    (h : Related Respelled operand operand') (halike : op.SpelledAlike operand operand') :
    Agree (RelatedItems Coincide) (change op items operand) (change op items operand') := by
  have hself : RelatedItems Coincide items items := related_of_subset hitems (List.Subset.refl _)
  cases op with
  | push => exact agree_pushed hself h halike
  | pop =>
    refine .ok ?_
    rw [popped_eq items h halike]
    exact related_of_subset hitems (popped_subset items operand')
  | pull =>
    refine (agree_selector h halike).bind fun s s' hs => .ok ?_
    rw [hs items hitems]
    exact related_of_subset hitems (remove_subset s' items)
  | addToSet => exact agree_united hself h
  | slice =>
    refine (Slice.agree_range h items.length).bind_eq fun range => .ok ?_
    exact List.forall₂_drop range.1 (List.forall₂_take range.2 hself)
  | concat =>
    cases h with
    | arr hlength h =>
      have hmore := Value.related_arr_iff.mp (Related.coincide (.arr hlength h))
      exact .ok (List.rel_append hself hmore)
    | null | bool | num | str | obj => exact .error _ _

theorem agree_transform (op : Array) {stored : Option Value}
    (hstored : ∀ v, stored = some v → v.WellFormed) (h : Related Respelled operand operand')
    (halike : op.SpelledAlike operand operand') :
    Agree (Related Coincide) (transform op stored operand) (transform op stored operand') := by
  have hitems : Agree (fun as bs => as = bs ∧ ∀ item ∈ as, item.WellFormed)
      (stored? stored) (stored? stored) := by
    cases stored with
    | none => exact .ok ⟨rfl, nofun⟩
    | some v =>
      cases hstored v rfl with
      | null => exact .ok ⟨rfl, nofun⟩
      | arr h => exact .ok ⟨rfl, h⟩
      | bool | num | str | obj => exact .error _ _
  refine hitems.bind ?_
  rintro items _ ⟨rfl, hitems⟩
  exact (agree_change op hitems h halike).bind fun changed changed' hchanged =>
    .ok (Value.related_arr_iff.mpr hchanged)

end Array

/-! ## Objects -/

namespace Object

variable {target target' : Members Value}

theorem agree_keysToOmit (h : Related Respelled operand operand') :
    Agree Eq (keysToOmit operand) (keysToOmit operand') := by
  cases h with
  | str => exact .ok rfl
  | arr hlength h =>
    rw [keysToOmit, keysToOmit, ← List.forall₂_eq_eq_eq]
    refine .mapM (Value.related_arr_iff.mp (.arr hlength h)) fun v v' hv => ?_
    cases hv with
    | str => exact .ok rfl
    | null | bool | num | arr | obj => exact .error _ _
  | null | bool | num | obj => exact .error _ _

theorem wellFormed_without (h : (Value.obj members).WellFormed) (keys : List String) :
    (Value.obj (without members keys)).WellFormed := by
  cases h with
  | obj hdistinct h =>
    rw [without_eq_filter]
    refine .obj ?_ fun m hm => h m (List.mem_of_mem_filter hm)
    exact List.Nodup.sublist (List.Sublist.map Prod.fst List.filter_sublist) hdistinct

/-- A value that merges alike into related members. -/
def MergesAs (v v' : Value) : Prop :=
  ∀ {current current' : Option Value}, Option.Rel (Related Coincide) current current' →
    Related Coincide (merged current v) (merged current' v')

theorem related_deepMerge_of {additions additions' : Members Value}
    (h : List.Forall₂ (fun m m' => m.1 = m'.1 ∧ MergesAs m.2 m'.2) additions additions')
    (htarget : Related Coincide (.obj target) (.obj target')) :
    Related Coincide (.obj (deepMerge target additions)) (.obj (deepMerge target' additions')) := by
  induction h generalizing target target' with
  | nil => exact htarget
  | @cons m m' _ _ hm _ ih =>
    obtain ⟨key, v⟩ := m
    obtain ⟨key', v'⟩ := m'
    obtain ⟨rfl, hv⟩ : key = key' ∧ MergesAs v v' := hm
    rw [deepMerge_cons, deepMerge_cons]
    exact ih (htarget.set key (hv (htarget.get? key)))

theorem mergesAs {v v' : Value} (h : Related Coincide v v') : MergesAs v v' := by
  induction h with
  | null => exact fun _ => .null
  | bool b => exact fun _ => .bool b
  | num h => exact fun _ => .num h
  | str s => exact fun _ => .str s
  | arr hlength h => exact fun _ => .arr hlength h
  | @obj nested nested' hdistinct hlength hnames h ih =>
    intro current current' hcurrent
    have hself := Related.obj hdistinct hlength hnames h
    have hmembers : List.Forall₂ (fun m m' => m.1 = m'.1 ∧ MergesAs m.2 m'.2) nested nested' :=
      List.forall₂_iff_zip.mpr ⟨hlength, fun hm => ⟨hnames _ _ hm, ih _ _ hm⟩⟩
    cases hcurrent with
    | none => exact hself
    | some hv =>
      cases hv with
      | obj hdistinct hlength hnames h =>
        exact related_deepMerge_of hmembers (.obj hdistinct hlength hnames h)
      | null | bool | num | str | arr => exact hself

theorem related_deepMerge {additions additions' : Members Value}
    (htarget : Related Coincide (.obj target) (.obj target'))
    (h : Related Coincide (.obj additions) (.obj additions')) :
    Related Coincide (.obj (deepMerge target additions)) (.obj (deepMerge target' additions')) :=
  mergesAs h (.some htarget)

theorem agree_tableName (h : Related Respelled (.obj members) (.obj members')) (key : String) :
    Agree Eq (tableName members key) (tableName members' key) := by
  have hget := h.get? key
  unfold tableName
  generalize Members.get? members key = first, Members.get? members' key = second at hget ⊢
  cases hget with
  | none => exact .ok rfl
  | some hv =>
    cases hv with
    | str => exact .ok rfl
    | null | bool | num | arr | obj => exact .error _ _

/-- Two results that are one member with a well-formed value. -/
def SameMember (m m' : String × Value) : Prop := m = m' ∧ m.2.WellFormed

/-- Two results that are the members of one well-formed object. -/
def SameMembers (changed changed' : Members Value) : Prop :=
  changed = changed' ∧ (Value.obj changed).WellFormed

theorem sameMembers_ofList {named named' : List (String × Value)}
    (h : List.Forall₂ SameMember named named') :
    SameMembers (Members.ofList named) (Members.ofList named') := by
  have heq : named = named' := by
    rw [← List.forall₂_eq_eq_eq]
    exact h.imp fun _ _ => And.left
  have hvalues : ∀ m ∈ named, m.2.WellFormed := by
    have hboth : List.Forall₂ (fun m m' => m.2.WellFormed ∧ m = m') named named' :=
      h.imp fun _ _ => And.symm
    exact ((List.forall₂_and_left _ _).mp hboth).1
  exact ⟨congrArg _ heq, .ofList hvalues⟩

theorem agree_renamed (hmembers : (Value.obj members).WellFormed)
    (h : Related Respelled operand operand') :
    Agree SameMembers (renamed members (.value operand)) (renamed members (.value operand')) := by
  cases h with
  | @obj table table' hdistinct hlength hnames h =>
    have htable := Related.obj hdistinct hlength hnames h
    have hself : List.Forall₂ SameMember members members := by
      cases hmembers with
      | obj _ h => exact List.forall₂_same.mpr fun m hm => ⟨rfl, h m hm⟩
    have hname : ∀ m m', SameMember m m' →
        Agree SameMember (do .ok ((← tableName table m.1), m.2))
          (do .ok ((← tableName table' m'.1), m'.2)) := by
      rintro m _ ⟨rfl, hm⟩
      exact (agree_tableName htable m.1).bind_eq fun name => .ok ⟨rfl, hm⟩
    exact (Agree.mapM hself hname).bind fun named named' hnamed =>
      .ok (sameMembers_ofList hnamed)
  | null | bool | num | str | arr => exact .error _ _

theorem wellFormed_inverted_step {swapped changed : Members Value} {m : String × Value}
    (h : (Value.obj swapped).WellFormed) (hstep : inverted.step swapped m = .ok changed) :
    (Value.obj changed).WellFormed := by
  unfold inverted.step at hstep
  split at hstep
  · next key _ =>
    rw [← Except.ok.inj hstep]
    have herase : (Value.obj (Members.erase swapped key)).WellFormed := wellFormed_without h [key]
    have hkey : key ∉ Members.keys (Members.erase swapped key) := by
      intro hmem
      obtain ⟨m, hm, hname⟩ := List.mem_map.mp hmem
      exact absurd hname (of_decide_eq_true (List.mem_filter.mp hm).2)
    have hset := herase.set key (.str m.1)
    rwa [Members.set_of_not_mem hkey] at hset
  · nomatch hstep

theorem wellFormed_inverted {changed : Members Value} (h : inverted members = .ok changed) :
    (Value.obj changed).WellFormed := by
  unfold inverted at h
  have hstart : (Value.obj []).WellFormed := .obj .nil nofun
  generalize ([] : Members Value) = swapped at h hstart
  induction members generalizing swapped with
  | nil =>
    rw [← Except.ok.inj h]
    exact hstart
  | cons m rest ih =>
    rw [List.foldlM_cons] at h
    obtain ⟨next, hstep, h⟩ := bind_eq_ok_iff.mp h
    exact ih next h (wellFormed_inverted_step hstart hstep)

theorem agree_change (op : Object) (hmembers : (Value.obj members).WellFormed)
    (h : Related Respelled operand operand') :
    Agree (fun changed changed' => Related Coincide (.obj changed) (.obj changed'))
      (change op members (.value operand)) (change op members (.value operand')) := by
  have hsame : ∀ {changed changed' : Members Value}, SameMembers changed changed' →
      Related Coincide (.obj changed) (.obj changed') := by
    rintro changed _ ⟨rfl, hchanged⟩
    exact hchanged.related_self Coincide.refl
  cases op with
  | «omit» =>
    refine (agree_keysToOmit h).bind_eq fun keys => .ok ?_
    exact hsame ⟨rfl, wellFormed_without hmembers keys⟩
  | merge =>
    cases h with
    | obj hdistinct hlength hnames h =>
      have hadditions := Related.coincide (.obj hdistinct hlength hnames h)
      exact .ok (related_deepMerge (hmembers.related_self Coincide.refl) hadditions)
    | null | bool | num | str | arr => exact .error _ _
  | mapKeys => exact (agree_renamed hmembers h).mono hsame
  | mapValues => exact .error _ _
  | invert =>
    show Agree _ (inverted members) (inverted members)
    cases hchanged : inverted members with
    | ok changed => exact .ok (hsame ⟨rfl, wellFormed_inverted hchanged⟩)
    | error fault => exact .error _ _

theorem agree_transform (op : Object) {stored : Option Value}
    (hstored : ∀ v, stored = some v → v.WellFormed) (h : Related Respelled operand operand') :
    Agree (Related Coincide) (transform op stored (.value operand))
      (transform op stored (.value operand')) := by
  have hmembers : Agree SameMembers (stored? stored) (stored? stored) := by
    have hempty : (Value.obj []).WellFormed := .obj .nil nofun
    cases stored with
    | none => exact .ok ⟨rfl, hempty⟩
    | some v =>
      cases hstored v rfl with
      | null => exact .ok ⟨rfl, hempty⟩
      | obj hdistinct h => exact .ok ⟨rfl, .obj hdistinct h⟩
      | bool | num | str | arr => exact .error _ _
  refine hmembers.bind ?_
  rintro members _ ⟨rfl, hmembers⟩
  exact (agree_change op hmembers h).bind fun changed changed' hchanged => .ok hchanged

end Object

end Operator
end Amend
