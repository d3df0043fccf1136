/-
The union of an array with what an operand adds to it.  An item is compared with those kept so far
and not with all that came before.  Since equality is transitive this makes no difference: kept are
the items with no equal at an earlier position, so every item has one equal in the union and no two
of the union are equal.
-/
import Amend.Proofs.Json.Equality
import Amend.Proofs.Operator.Settled

namespace Amend
namespace Operator
namespace Array

variable {operand : Value} {additions items kept : List Value}

theorem Adds.transform_eq (h : Adds operand additions) {stored : Option Value}
    (hstored : stored? stored = .ok items) :
    Array.addToSet.transform stored operand = .ok (.arr (unique [] (items ++ additions))) :=
  transform_eq_ok_iff.mpr ⟨items, _, hstored, h.united_eq items, rfl⟩

/-! ## First occurrences -/

/-- The items that have no equal at an earlier position, in their order. -/
def firsts (items : List Value) : List Value :=
  (items.zipIdx.filter fun place => !(items.take place.2).any (·.equal place.1)).map Prod.fst

theorem firsts_sublist (items : List Value) : (firsts items).Sublist items := by
  have hsublist := (List.filter_sublist (l := items.zipIdx)
    (p := fun place => !(items.take place.2).any (·.equal place.1))).map Prod.fst
  rwa [List.zipIdx_map_fst] at hsublist

/-- One more item at the end changes nothing about the positions before it. -/
theorem firsts_append_singleton (items : List Value) (item : Value) :
    firsts (items ++ [item]) =
      if items.any (·.equal item) then firsts items else firsts items ++ [item] := by
  have hbefore : (items.zipIdx.filter fun place =>
        !((items ++ [item]).take place.2).any (·.equal place.1)) =
      items.zipIdx.filter fun place => !(items.take place.2).any (·.equal place.1) := by
    refine List.filter_congr fun place hplace => ?_
    have hlt := List.snd_lt_of_mem_zipIdx hplace
    rw [List.take_append_of_le_length (by omega)]
  have hlast : (items ++ [item]).take items.length = items := by simp
  unfold firsts
  rw [List.zipIdx_append, List.filter_append, List.map_append, hbefore]
  simp only [List.zipIdx_cons, List.zipIdx_nil, Nat.zero_add, List.filter_cons, hlast]
  cases hany : items.any (·.equal item) with
  | true => simp
  | false => simp

theorem mem_of_mem_unique {item : Value} (h : item ∈ unique kept items) :
    item ∈ kept ∨ item ∈ items := by
  induction items generalizing kept with
  | nil => exact .inl h
  | cons other rest ih =>
    rw [unique] at h
    split at h
    · exact (ih h).imp_right (List.mem_cons_of_mem other)
    · rcases ih h with hkept | hrest
      · rcases List.mem_append.mp hkept with hkept | hother
        · exact .inl hkept
        · exact .inr (List.mem_singleton.mp hother ▸ List.mem_cons_self)
      · exact .inr (List.mem_cons_of_mem other hrest)

/-- An item has an equal among the kept exactly where it has one among all that came before. -/
theorem any_unique (hitems : ∀ item ∈ items, item.WellFormed) (item : Value) :
    (unique [] items).any (·.equal item) = items.any (·.equal item) := by
  rw [Bool.eq_iff_iff, List.any_eq_true, List.any_eq_true]
  constructor
  · rintro ⟨first, hfirst, hequal⟩
    exact ⟨first, (mem_of_mem_unique hfirst).resolve_left List.not_mem_nil, hequal⟩
  · rintro ⟨earlier, hearlier, hequal⟩
    have hself := (hitems earlier hearlier).equal_self
    obtain ⟨first, hfirst, hbetween⟩ :=
      List.any_eq_true.mp (any_unique_of_mem hself hearlier [])
    have hmem := (mem_of_mem_unique hfirst).resolve_left List.not_mem_nil
    exact ⟨first, hfirst, (hitems first hmem).equal_trans hbetween hequal⟩

/-- The induction takes the items from the end, so that all before an item have been gone
through. -/
theorem unique_eq_firsts (hitems : ∀ item ∈ items, item.WellFormed) :
    unique [] items = firsts items := by
  induction items using List.reverseRecOn with
  | nil => rfl
  | append_singleton items item ih =>
    have hbefore : ∀ other ∈ items, other.WellFormed :=
      fun other hother => hitems other (List.mem_append_left [item] hother)
    rw [unique_append, unique, any_unique hbefore, unique, firsts_append_singleton, ih hbefore]
    rfl

/-! ## One of each -/

theorem pairwise_unique (h : kept.Pairwise fun v w => v.equal w = false) :
    (unique kept items).Pairwise fun v w => v.equal w = false := by
  induction items generalizing kept with
  | nil => exact h
  | cons item rest ih =>
    rw [unique]
    split
    · exact ih h
    · next hnone =>
      refine ih (List.pairwise_append.mpr ⟨h, List.pairwise_singleton _ item, ?_⟩)
      intro v hv w hw
      rw [List.mem_singleton.mp hw, ← Bool.not_eq_true]
      exact fun hequal => hnone (List.any_eq_true.mpr ⟨v, hv, hequal⟩)

/-- A union keeps of all items, the stored ones and the added, those with no equal at an earlier
position.  No two that it keeps are equal, every item has an equal among them, and a second union
with the same operand changes nothing. -/
theorem transform_addToSet {stored : Option Value} (hstored : stored? stored = .ok items)
    (hadds : Adds operand additions) (hitems : ∀ item ∈ items ++ additions, item.WellFormed) :
    let union := firsts (items ++ additions)
    Array.addToSet.transform stored operand = .ok (.arr union) ∧
    union.Sublist (items ++ additions) ∧
    union.Pairwise (fun v w => v.equal w = false ∧ w.equal v = false) ∧
    (∀ item ∈ items ++ additions, ∃ first ∈ union,
      first.equal item = true ∧ item.equal first = true) ∧
    Array.addToSet.transform (some (.arr union)) operand = .ok (.arr union) := by
  intro union
  have hunion : unique [] (items ++ additions) = union := unique_eq_firsts hitems
  have hformed : ∀ item ∈ union, item.WellFormed :=
    fun item hitem => hitems item ((firsts_sublist _).subset hitem)
  refine ⟨?_, firsts_sublist _, ?_, fun item hitem => ?_, ?_⟩
  · rw [← hunion]
    exact hadds.transform_eq hstored
  · have hpairwise : union.Pairwise fun v w => v.equal w = false := by
      rw [← hunion]
      exact pairwise_unique .nil
    refine hpairwise.imp_of_mem fun {v w} hv hw hne => ⟨hne, ?_⟩
    rw [← Bool.not_eq_true] at hne ⊢
    exact fun hequal => hne ((hformed w hw).equal_symm (hformed v hv) hequal)
  · have hself := (hitems item hitem).equal_self
    have hany := any_unique_of_mem hself hitem []
    rw [hunion] at hany
    obtain ⟨first, hfirst, hequal⟩ := List.any_eq_true.mp hany
    exact ⟨first, hfirst, hequal, (hformed first hfirst).equal_symm (hitems item hitem) hequal⟩
  · have hself : ∀ item ∈ additions, item.equal item = true :=
      fun item hitem => (hitems item (List.mem_append_right items hitem)).equal_self
    have hthere : stored? (some (.arr union)) = .ok union := rfl
    rw [hadds.transform_eq hthere, ← hunion, unique_append_again hself]

/-- A negative zero is taken for the stored zero, alone and inside an array. -/
theorem transform_addToSet_zeros :
    let zero : Value := .num (.float Binary64.Finite.zero.negate)
    let stored : Value := .arr [.int 0, zero, .arr [.int 0]]
    let operand : Value := .obj [("$each", .arr [.arr [zero], .str "x", .str "x"])]
    ∃ union, Array.addToSet.transform (some stored) operand = .ok (.arr union) ∧
      (Value.arr union).same (.arr [.int 0, .arr [.int 0], .str "x"]) = true ∧
      Array.addToSet.transform (some (.arr union)) operand = .ok (.arr union) := by
  intro zero stored operand
  have hnested : ∀ n : Number, (Value.arr [.num n]).WellFormed :=
    fun n => .arr fun item hitem => List.mem_singleton.mp hitem ▸ .num n
  have hitems : ∀ item ∈ [.int 0, zero, .arr [.int 0]] ++ [.arr [zero], .str "x", .str "x"],
      item.WellFormed := by
    intro item hitem
    simp only [List.cons_append, List.nil_append, List.mem_cons, List.not_mem_nil, or_false,
      or_self] at hitem
    rcases hitem with rfl | rfl | rfl | rfl | rfl
    · exact .num _
    · exact .num _
    · exact hnested _
    · exact hnested _
    · exact .str "x"
  have hstored : stored? (some stored) = .ok [.int 0, zero, .arr [.int 0]] := rfl
  have hadds : Adds operand [.arr [zero], .str "x", .str "x"] := .each rfl
  obtain ⟨hunion, -, -, -, hagain⟩ := transform_addToSet hstored hadds hitems
  exact ⟨_, hunion, by decide +kernel, hagain⟩

end Array
end Operator
end Amend
