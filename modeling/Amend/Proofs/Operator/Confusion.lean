/-
Integers that operators cannot tell apart.  `$min` and `$max` keep the stored one of two integers
with one double, `$addToSet` takes an integer for present where one with its double comes first,
and `$pull` takes out all integers with the double of its operand.
-/
import Amend.Operator.Array
import Amend.Operator.Numeric
import Amend.Proofs.Json.Comparison

namespace Amend
namespace Operator

open Binary64 (rounded)
open Number (InRange Confused)

variable {a b : Int} {items : List Int}

/-! ## The smaller and the larger one -/

theorem ok_int_inj : (.ok (.int a) : Except Fault Value) = .ok (.int b) ↔ a = b := by
  rw [Except.ok.injEq, Value.int, Value.int, Value.num.injEq, Number.int.injEq]

/-- Of two integers an extremum operator stores the one or the other. -/
theorem extremum_int (keeps : Binary64 → Binary64 → Bool) {kept : Bool}
    (h : keeps (Number.int a).toBinary64 (Number.int b).toBinary64 = kept) :
    Numeric.extremum keeps (some (.int a)) (.int b) = .ok (.int (if kept then a else b)) := by
  have hextremum : Numeric.extremum keeps (some (.int a)) (.int b) =
      .ok (.num (if keeps (Number.int a).toBinary64 (Number.int b).toBinary64 then .int a
        else .int b)) := rfl
  rw [hextremum, h]
  cases kept with
  | true => rfl
  | false => rfl

/-- Of two integers `$min` stores the smaller one, unless the stored one is larger and the two are
confused. -/
theorem min_integers_iff (ha : InRange a) (hb : InRange b) (stream : Random.Stream) :
    Numeric.min.transform stream (some (.int a)) (.int b) = .ok (.int (min a b)) ↔
      ¬ (b < a ∧ Confused a b) := by
  have hkeeps := Binary64.le_of_isWhole (Number.isWhole_toBinary64 ha)
    (Number.isWhole_toBinary64 hb)
  rw [Numeric.transform, extremum_int (fun a b => a.le b) hkeeps, ok_int_inj]
  simp only [decide_eq_true_iff, Number.rounded_le_iff]
  by_cases hconfused : Confused a b
  · have hne := hconfused.1
    simp only [hconfused, or_true, if_true, and_true]
    omega
  · simp only [hconfused, or_false, and_false, not_false_eq_true, iff_true]
    split <;> omega

/-- Of two integers `$max` stores the larger one, unless the stored one is smaller and the two are
confused. -/
theorem max_integers_iff (ha : InRange a) (hb : InRange b) (stream : Random.Stream) :
    Numeric.max.transform stream (some (.int a)) (.int b) = .ok (.int (max a b)) ↔
      ¬ (a < b ∧ Confused a b) := by
  have hkeeps := Binary64.le_of_isWhole (Number.isWhole_toBinary64 hb)
    (Number.isWhole_toBinary64 ha)
  rw [Numeric.transform, extremum_int (fun a b => b.le a) hkeeps, ok_int_inj]
  simp only [decide_eq_true_iff, Number.rounded_le_iff]
  by_cases hconfused : Confused a b
  · have hne := hconfused.1
    simp only [hconfused, hconfused.symm, or_true, if_true, and_true]
    omega
  · have hback : ¬ Confused b a := fun h => hconfused h.symm
    simp only [hconfused, hback, or_false, and_false, not_false_eq_true, iff_true]
    split <;> omega

/-! ## Arrays of integers -/

namespace Array

theorem takeWhile_ne_cons {x item : Int} {rest : List Int} (h : item ≠ x) :
    (item :: rest).takeWhile (· ≠ x) = item :: rest.takeWhile (· ≠ x) := by
  rw [List.takeWhile_cons, if_pos (decide_eq_true h)]

/-- An integer is kept, or comes among the items and before it none that has its double. -/
def Lasts (x : Int) (kept items : List Int) : Prop :=
  x ∈ kept ∨ x ∈ items ∧ ∀ y ∈ kept ++ items.takeWhile (· ≠ x), rounded y ≠ rounded x

theorem lasts_cons_of_present {x item : Int} {kept rest : List Int}
    (h : ∃ y ∈ kept, rounded y = rounded item) :
    Lasts x kept (item :: rest) ↔ Lasts x kept rest := by
  obtain ⟨y, hy, hrounded⟩ := h
  unfold Lasts
  by_cases hx : item = x
  · -- Neither the item nor a later one equal to it comes through.
    rw [hx] at hrounded
    have hno (more : List Int) : ¬ ∀ z ∈ kept ++ more, rounded z ≠ rounded x :=
      fun hall => hall y (List.mem_append_left _ hy) hrounded
    simp only [hno, and_false]
  · have hmem : x ∈ item :: rest ↔ x ∈ rest := by
      rw [List.mem_cons]
      exact or_iff_right (Ne.symm hx)
    rw [hmem, takeWhile_ne_cons hx]
    rw [List.forall_mem_append, List.forall_mem_append, List.forall_mem_cons]
    -- The item has the double of a kept integer.
    have hitem : (∀ z ∈ kept, rounded z ≠ rounded x) → rounded item ≠ rounded x :=
      fun hall => hrounded ▸ hall y hy
    exact or_congr_right (and_congr_right fun _ => and_congr_right fun hall =>
      and_iff_right (hitem hall))

theorem lasts_cons_of_absent {x item : Int} {kept rest : List Int}
    (h : ¬ ∃ y ∈ kept, rounded y = rounded item) :
    Lasts x kept (item :: rest) ↔ Lasts x (kept ++ [item]) rest := by
  unfold Lasts
  by_cases hx : item = x
  · have hfirst : ∀ y ∈ kept ++ (item :: rest).takeWhile (· ≠ x), rounded y ≠ rounded x := by
      intro y hy hrounded
      rw [List.takeWhile_cons, if_neg (by simp [hx]), List.append_nil] at hy
      exact h ⟨y, hy, hx ▸ hrounded⟩
    have hcomes : x ∈ item :: rest := hx ▸ List.mem_cons_self
    have hkept : x ∈ kept ++ [item] := List.mem_append_right _ (hx ▸ List.mem_cons_self)
    exact ⟨fun _ => .inl hkept, fun _ => .inr ⟨hcomes, hfirst⟩⟩
  · have hmem : x ∈ item :: rest ↔ x ∈ rest := by
      rw [List.mem_cons]
      exact or_iff_right (Ne.symm hx)
    have hkept : x ∈ kept ++ [item] ↔ x ∈ kept := by
      rw [List.mem_append, List.mem_singleton]
      exact or_iff_left (Ne.symm hx)
    rw [hmem, hkept, takeWhile_ne_cons hx, List.append_assoc, List.singleton_append]

theorem any_equal_int {kept : List Int} (hkept : ∀ y ∈ kept, InRange y) (ha : InRange a) :
    (kept.map Value.int).any (·.equal (.int a)) = true ↔ ∃ y ∈ kept, rounded y = rounded a := by
  rw [List.any_map, List.any_eq_true]
  refine exists_congr fun y => and_congr_right fun hy => ?_
  rw [Function.comp_apply, Value.equal_int (hkept y hy) ha, decide_eq_true_iff]

/-- A union of integers keeps exactly the integers that last. -/
theorem exists_unique_integers {kept : List Int} (hkept : ∀ y ∈ kept, InRange y)
    (hitems : ∀ y ∈ items, InRange y) :
    ∃ set : List Int, unique (kept.map .int) (items.map .int) = set.map .int ∧
      ∀ x, x ∈ set ↔ Lasts x kept items := by
  induction items generalizing kept with
  | nil =>
    refine ⟨kept, rfl, fun x => ?_⟩
    simp [Lasts]
  | cons item rest ih =>
    have hitem : InRange item := hitems item List.mem_cons_self
    have hrest : ∀ y ∈ rest, InRange y := fun y hy => hitems y (List.mem_cons_of_mem item hy)
    have hany := any_equal_int hkept hitem
    rw [List.map_cons, unique]
    by_cases hpresent : ∃ y ∈ kept, rounded y = rounded item
    · rw [if_pos (hany.mpr hpresent)]
      obtain ⟨set, hset, hmem⟩ := ih hkept hrest
      exact ⟨set, hset, fun x => (hmem x).trans (lasts_cons_of_present hpresent).symm⟩
    · have hmore : ∀ y ∈ kept ++ [item], InRange y := by
        intro y hy
        rcases List.mem_append.mp hy with hy | hy
        · exact hkept y hy
        · rw [List.mem_singleton.mp hy]
          exact hitem
      rw [if_neg (fun h => hpresent (hany.mp h))]
      obtain ⟨set, hset, hmem⟩ := ih hmore hrest
      rw [List.map_append] at hset
      exact ⟨set, hset, fun x => (hmem x).trans (lasts_cons_of_absent hpresent).symm⟩

theorem takeWhile_ne_append_self (items : List Int) (x : Int) :
    (items ++ [x]).takeWhile (· ≠ x) = items.takeWhile (· ≠ x) := by
  induction items with
  | nil => simp
  | cons item rest ih =>
    by_cases h : item = x
    · simp [h]
    · rw [List.cons_append, takeWhile_ne_cons h, takeWhile_ne_cons h, ih]

/-- An added integer is there afterwards unless one that it is confused with comes first. -/
theorem addToSet_integers (hitems : ∀ y ∈ items, InRange y) (hb : InRange b) :
    ∃ set : List Int,
      Array.addToSet.transform (some (.arr (items.map .int))) (.int b) = .ok (.arr (set.map .int)) ∧
        (b ∈ set ↔ ∀ y ∈ items.takeWhile (· ≠ b), ¬ Confused y b) := by
  have hall : ∀ y ∈ items ++ [b], InRange y := by
    intro y hy
    rcases List.mem_append.mp hy with hy | hy
    · exact hitems y hy
    · rw [List.mem_singleton.mp hy]
      exact hb
  have hnone : ∀ y ∈ ([] : List Int), InRange y := fun y hy => absurd hy List.not_mem_nil
  obtain ⟨set, hset, hmem⟩ := exists_unique_integers hnone hall
  refine ⟨set, ?_, ?_⟩
  · rw [← hset, List.map_append]
    rfl
  · rw [hmem b, Lasts, List.nil_append, takeWhile_ne_append_self]
    have hpresent : b ∈ items ++ [b] := List.mem_append_right _ List.mem_cons_self
    simp only [List.not_mem_nil, false_or, hpresent, true_and]
    refine forall_congr' fun y => forall_congr' fun hy => ?_
    have hne : y ≠ b := by
      have hall := List.all_eq_true.mp (List.all_takeWhile (p := (· ≠ b)) (l := items)) y hy
      exact of_decide_eq_true hall
    exact not_congr ⟨fun h => ⟨hne, h⟩, fun h => h.2⟩

/-- `$pull` takes out the integers that have the double of its operand. -/
theorem pull_integers (hitems : ∀ y ∈ items, InRange y) (hb : InRange b) :
    Array.pull.transform (some (.arr (items.map .int))) (.int b) =
      .ok (.arr ((items.filter fun y => decide (rounded y ≠ rounded b)).map .int)) := by
  have hpull : Array.pull.transform (some (.arr (items.map .int))) (.int b) =
      .ok (.arr ((items.map .int).filter fun item => !item.equal (.int b))) := rfl
  have hfilter : items.filter ((fun item => !item.equal (.int b)) ∘ Value.int) =
      items.filter fun y => decide (rounded y ≠ rounded b) := by
    refine List.filter_congr fun y hy => ?_
    rw [Function.comp_apply, Value.equal_int (hitems y hy) hb, decide_not]
  rw [hpull, List.filter_map, hfilter]

theorem map_int_inj {more : List Int} : items.map Value.int = more.map Value.int ↔ items = more :=
  List.map_inj_right fun _ _ h => Number.int.inj (Value.num.inj h)

/-- `$pull` takes out the integers equal to its operand and no others, unless it confuses some. -/
theorem pull_integers_iff (hitems : ∀ y ∈ items, InRange y) (hb : InRange b) :
    Array.pull.transform (some (.arr (items.map .int))) (.int b) =
        .ok (.arr ((items.filter (· ≠ b)).map .int)) ↔ ∀ y ∈ items, ¬ Confused y b := by
  rw [pull_integers hitems hb, Except.ok.injEq, Value.arr.injEq, map_int_inj]
  constructor
  · intro h y hy hconfused
    have hkept : y ∈ items.filter (· ≠ b) := List.mem_filter.mpr ⟨hy, decide_eq_true hconfused.1⟩
    rw [← h] at hkept
    exact of_decide_eq_true (List.mem_filter.mp hkept).2 hconfused.2
  · intro h
    refine List.filter_congr fun y hy => decide_eq_decide.mpr (not_congr ?_)
    exact Number.rounded_eq_iff_of_not_confused (h y hy)

end Array

/-- Integers are told apart, when they are compared and by the operators that compare, exactly
where they are not confused, which none up to `2 ^ 53` are.  `$min` and `$max` keep the stored one
of two confused integers, `$addToSet` takes the added one for present where one that it is confused
with comes before it, and `$pull` takes out all that are confused with its operand. -/
theorem integers_told_apart (hitems : ∀ y ∈ items, InRange y) (ha : InRange a) (hb : InRange b)
    (stream : Random.Stream) :
    ((Value.int a).equal (.int b) = decide (a = b) ↔ ¬ Confused a b) ∧
      ((Value.int a).compare (.int b) = Ord.compare a b ↔ ¬ Confused a b) ∧
      (Numeric.min.transform stream (some (.int a)) (.int b) = .ok (.int (min a b)) ↔
        ¬ (b < a ∧ Confused a b)) ∧
      (Numeric.max.transform stream (some (.int a)) (.int b) = .ok (.int (max a b)) ↔
        ¬ (a < b ∧ Confused a b)) ∧
      (∃ set : List Int, Array.addToSet.transform (some (.arr (items.map .int))) (.int b) =
          .ok (.arr (set.map .int)) ∧
        (b ∈ set ↔ ∀ y ∈ items.takeWhile (· ≠ b), ¬ Confused y b)) ∧
      (Array.pull.transform (some (.arr (items.map .int))) (.int b) =
          .ok (.arr ((items.filter (· ≠ b)).map .int)) ↔ ∀ y ∈ items, ¬ Confused y b) ∧
      (a.natAbs ≤ 0x20000000000000 → b.natAbs ≤ 0x20000000000000 → ¬ Confused a b) :=
  ⟨Value.equal_int_iff ha hb, Value.compare_int_iff ha hb, min_integers_iff ha hb stream,
    max_integers_iff ha hb stream, Array.addToSet_integers hitems hb,
    Array.pull_integers_iff hitems hb, Number.not_confused_of_le⟩

/-- Two neighbouring doubles beyond 53 bits are told apart. -/
theorem integers_told_apart_neighbours :
    let a : Int := 0x20000000000000
    let b : Int := 0x20000000000002
    (Value.int a).equal (.int b) = false ∧
      Numeric.min.transform (.ofSeed 0) (some (.int b)) (.int a) = .ok (.int a) ∧
      Array.pull.transform (some (.arr ([a, b, 7].map .int))) (.int b) =
        .ok (.arr ([a, 7].map .int)) := by
  intro a b
  have hitems : ∀ y ∈ [a, b, 7], InRange y := by decide
  have hab := integers_told_apart (a := a) (b := b) hitems (by decide) (by decide) (.ofSeed 0)
  have hba := integers_told_apart (a := b) (b := a) hitems (by decide) (by decide) (.ofSeed 0)
  exact ⟨hab.1.mpr (by decide), hba.2.2.1.mpr (by decide), hab.2.2.2.2.2.1.mpr (by decide)⟩

/-- The first integer that is no double is confused with the one before it, and takes it along. -/
theorem integers_confused :
    InRange 0x20000000000000 ∧ InRange 0x20000000000001 ∧
      (Value.int 0x20000000000000).equal (.int 0x20000000000001) = true ∧
      Array.pull.transform (some (.arr ([0x20000000000000].map .int))) (.int 0x20000000000001) =
        .ok (.arr []) := by
  have hone : InRange 0x20000000000000 := by decide
  have hother : InRange 0x20000000000001 := by decide
  have hitems : ∀ y ∈ [0x20000000000000], InRange y := by decide
  refine ⟨hone, hother, ?_, ?_⟩
  · rw [Value.equal_int hone hother]
    decide
  · rw [Array.pull_integers hitems hother]
    rfl

end Operator
end Amend
