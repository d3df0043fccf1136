/-
Taking items out of an array.  Every comparator of `$pull` but the one for positions decides about
each item on its own, so that what is left keeps its order and a second pull takes out nothing.
The comparators come in pairs that divide the items: a comparison of ranges divides those of the
kind of its argument, and both of its pair keep all others.
-/
import Amend.Proofs.Operator.Settled

namespace Amend
namespace Operator
namespace Array

variable {operand : Value} {s : Selector}

theorem pulled_of_selector (hs : selector operand = .ok s) (hpos : ∀ index, s ≠ .at index)
    (items : List Value) : pulled items operand = .ok (items.filter fun item => !s.selects item) :=
  bind_eq_ok_iff.mpr ⟨s, hs, congrArg Except.ok (remove_eq_filter hpos items)⟩

theorem comparator?_eq_none (h : ∀ key ∈ comparators, operand.member? key = none) :
    comparator? operand = none := by
  cases operand with
  | obj members =>
    refine List.findSome?_eq_none_iff.mpr fun key hkey => ?_
    rw [show Members.get? members key = none from h key hkey]
    rfl
  | null | bool | num | str | arr => rfl

/-! ## Dividing pairs -/

/-- Two numbers, or two strings. -/
def comparable : Value → Value → Bool
  | .num _, .num _ => true
  | .str _, .str _ => true
  | _, _ => false

theorem ordered_eq (v w : Value) :
    ordered v w = if comparable v w then some (v.compare w) else none := by
  cases v <;> cases w <;> rfl

/-- Two operands of `$pull` that divide the items of a scope: the first takes out those that are
selected and the second those that are not.  Items outside the scope stay under both. -/
def Divides (scope selected : Value → Bool) (one other : Value) : Prop :=
  ∀ stored items, stored? stored = .ok items →
    Array.pull.transform stored one =
      .ok (.arr (items.filter fun item => !(scope item && selected item))) ∧
    Array.pull.transform stored other =
      .ok (.arr (items.filter fun item => !(scope item && !selected item)))

theorem divides_of_selectors {scope selected : Value → Bool} {one other : Value} {s t : Selector}
    (hone : selector one = .ok s) (hs : ∀ index, s ≠ .at index)
    (hother : selector other = .ok t) (ht : ∀ index, t ≠ .at index)
    (hselects : ∀ item, s.selects item = (scope item && selected item) ∧
      t.selects item = (scope item && !selected item)) : Divides scope selected one other := by
  intro stored items hstored
  constructor
  · refine transform_eq_ok_iff.mpr ⟨items, _, hstored, pulled_of_selector hone hs items, ?_⟩
    simp only [(hselects _).1]
  · refine transform_eq_ok_iff.mpr ⟨items, _, hstored, pulled_of_selector hother ht items, ?_⟩
    simp only [(hselects _).2]

theorem divides_in_nin (list : List Value) :
    Divides (fun _ => true) (fun item => list.any (·.equal item))
      (.obj [("$in", .arr list)]) (.obj [("$nin", .arr list)]) :=
  divides_of_selectors (s := .oneOf list) (t := .noneOf list) rfl nofun rfl nofun
    fun _ => ⟨rfl, rfl⟩

theorem divides_eq_ne (v : Value) :
    Divides (fun _ => true) (fun item => item.equal v) (.obj [("$eq", v)]) (.obj [("$ne", v)]) :=
  divides_of_selectors (s := .equalTo v) (t := .notEqualTo v) rfl nofun rfl nofun
    fun _ => ⟨rfl, rfl⟩

theorem divides_lt_gte (v : Value) :
    Divides (fun item => comparable item v) (fun item => item.compare v == .lt)
      (.obj [("$lt", v)]) (.obj [("$gte", v)]) := by
  refine divides_of_selectors (s := .less v) (t := .greaterOrEqual v) rfl nofun rfl nofun
    fun item => ?_
  simp only [Selector.selects, ordered_eq]
  cases comparable item v with
  | false => exact ⟨rfl, rfl⟩
  | true => cases item.compare v <;> exact ⟨rfl, rfl⟩

theorem divides_gt_lte (v : Value) :
    Divides (fun item => comparable item v) (fun item => item.compare v == .gt)
      (.obj [("$gt", v)]) (.obj [("$lte", v)]) := by
  refine divides_of_selectors (s := .greater v) (t := .lessOrEqual v) rfl nofun rfl nofun
    fun item => ?_
  simp only [Selector.selects, ordered_eq]
  cases comparable item v with
  | false => exact ⟨rfl, rfl⟩
  | true => cases item.compare v <;> exact ⟨rfl, rfl⟩

/-! ## Pulling -/

/-- A pull by any comparator but the one for positions leaves the items that it leaves in their
order, and nothing to a second pull.  Both comparators of a list, and those of one value, divide all
items; `$lt` and `$gte`, and `$gt` and `$lte`, divide the items that compare with their argument and
leave the others.  A value without a comparator is pulled like one under `$eq`. -/
theorem transform_pull :
    (∀ stored items operand v, stored? stored = .ok items →
      (∀ argument, comparator? operand ≠ some ("$position", argument)) →
      Array.pull.transform stored operand = .ok v →
      ∃ kept : List Value, v = .arr kept ∧ kept.Sublist items ∧
        Array.pull.transform (some v) operand = .ok v) ∧
    (∀ list : List Value, Divides (fun _ => true) (fun item => list.any (·.equal item))
      (.obj [("$in", .arr list)]) (.obj [("$nin", .arr list)])) ∧
    (∀ v : Value, Divides (fun _ => true) (fun item => item.equal v)
      (.obj [("$eq", v)]) (.obj [("$ne", v)])) ∧
    (∀ v : Value, Divides (fun item => comparable item v) (fun item => item.compare v == .lt)
      (.obj [("$lt", v)]) (.obj [("$gte", v)])) ∧
    (∀ v : Value, Divides (fun item => comparable item v) (fun item => item.compare v == .gt)
      (.obj [("$gt", v)]) (.obj [("$lte", v)])) ∧
    (∀ v : Value, (∀ key ∈ comparators, v.member? key = none) → ∀ stored,
      Array.pull.transform stored v = Array.pull.transform stored (.obj [("$eq", v)])) := by
  refine ⟨?_, divides_in_nin, divides_eq_ne, divides_lt_gte, divides_gt_lte, ?_⟩
  · intro stored items operand v hstored hoperand h
    obtain ⟨found, kept, hfound, hkept, rfl⟩ := transform_eq_ok_iff.mp h
    obtain rfl : items = found := Except.ok.inj (hstored.symm.trans hfound)
    have hagain := pulled_again hoperand hkept
    refine ⟨kept, rfl, ?_, transform_eq_ok_iff.mpr ⟨kept, kept, rfl, hagain, rfl⟩⟩
    obtain ⟨s, hs, -⟩ := bind_eq_ok_iff.mp hkept
    have hfilter := pulled_of_selector hs (ne_at_of_selector hoperand hs) items
    rw [Except.ok.inj (hkept.symm.trans hfilter)]
    exact List.filter_sublist
  · intro v hv stored
    have hselector : selector v = selector (.obj [("$eq", v)]) := by
      rw [selector, comparator?_eq_none hv]
      rfl
    show (stored? stored >>= fun items => pulled items v >>= _) = _
    simp only [pulled, hselector]
    rfl

/-- A string is left by both comparators of a pair for numbers. -/
theorem transform_pull_mixed :
    let stored : Option Value := some (.arr [.int 1, .str "x", .int 5])
    Array.pull.transform stored (.obj [("$lt", .int 2)]) = .ok (.arr [.str "x", .int 5]) ∧
      Array.pull.transform stored (.obj [("$gte", .int 2)]) = .ok (.arr [.int 1, .str "x"]) ∧
      Array.pull.transform (some (.arr [.str "x", .int 5])) (.obj [("$lt", .int 2)]) =
        .ok (.arr [.str "x", .int 5]) ∧
      Array.pull.transform stored (.int 5) =
        Array.pull.transform stored (.obj [("$eq", .int 5)]) := by
  intro stored
  obtain ⟨hagain, -, -, hranges, -, hequal⟩ := transform_pull
  have hone : (Value.int 1).compare (.int 2) == .lt := by decide +kernel
  have hfive : ((Value.int 5).compare (.int 2) == .lt) = false := by decide +kernel
  have hnumbers : ∀ a b : Int, comparable (.int a) (.int b) = true := fun _ _ => rfl
  have hkind : comparable (.str "x") (.int 2) = false := rfl
  obtain ⟨hlt, hgte⟩ := hranges (.int 2) stored _ rfl
  simp only [List.filter_cons, List.filter_nil, hone, hfive, hnumbers, hkind, Bool.true_and,
    Bool.false_and, Bool.not_true, Bool.not_false, Bool.false_eq_true, if_true, if_false]
    at hlt hgte
  have hcomparator : comparator? (.obj [("$lt", .int 2)]) = some ("$lt", .int 2) := rfl
  have hname : ∀ argument, comparator? (.obj [("$lt", .int 2)]) ≠ some ("$position", argument) := by
    intro argument h
    have heq : "$lt" = "$position" :=
      congrArg Prod.fst (Option.some.inj (hcomparator.symm.trans h))
    exact absurd heq (by decide)
  obtain ⟨_, -, -, hsecond⟩ := hagain stored _ _ _ rfl hname hlt
  exact ⟨hlt, hgte, hsecond, hequal (.int 5) (fun _ _ => rfl) stored⟩

end Array
end Operator
end Amend
