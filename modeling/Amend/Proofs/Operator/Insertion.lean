/-
Putting items into an array.  `$push` with `$each` sorts the items that it is given as `$sort` asks,
equal ones in the order in which they came, and puts them in as one block at the index that
`$position` stands for.  Nothing else changes, so that taking out as many items at that index, or at
the end, gives the array back.
-/
import Amend.Proofs.Json.Equality
import Amend.Proofs.Json.Truncation
import Amend.Proofs.Operator.Settled
import Amend.Proofs.Sorting

namespace Amend
namespace Operator
namespace Array

variable {modifiers : Members Value} {additions items : List Value}

/-! ## Sorting -/

/-- The order that `$sort` stands for. -/
inductive Sorts (modifiers : Members Value) : Direction → Prop where
  | missing (h : modifiers.get? "$sort" = none) : Sorts modifiers .asGiven
  | null (h : modifiers.get? "$sort" = some .null) : Sorts modifiers .asGiven
  | no (h : modifiers.get? "$sort" = some (.bool false)) : Sorts modifiers .asGiven
  | zero (h : modifiers.get? "$sort" = some (.int 0)) : Sorts modifiers .asGiven
  | yes (h : modifiers.get? "$sort" = some (.bool true)) : Sorts modifiers .ascending
  | one (h : modifiers.get? "$sort" = some (.int 1)) : Sorts modifiers .ascending
  | minusOne (h : modifiers.get? "$sort" = some (.int (-1))) : Sorts modifiers .descending

theorem sorts_of_direction {order : Direction} (h : direction modifiers = .ok order) :
    Sorts modifiers order := by
  have hnumber : ∀ {n : Number} {k : Int}, n.toSigned? = some k → Value.num n = .int k :=
    fun hn => congrArg Value.num (Number.toSigned?_eq_some_iff.mp hn).1
  unfold direction at h
  split at h
  case h_1 hget => exact Except.ok.inj h ▸ .missing hget
  case h_2 hget => exact Except.ok.inj h ▸ .null hget
  case h_3 hget => exact Except.ok.inj h ▸ .no hget
  case h_4 hget => exact Except.ok.inj h ▸ .yes hget
  case h_5 n hget =>
    split at h
    case h_1 hn => exact Except.ok.inj h ▸ .one (hget.trans (congrArg some (hnumber hn)))
    case h_2 hn => exact Except.ok.inj h ▸ .minusOne (hget.trans (congrArg some (hnumber hn)))
    case h_3 hn => exact Except.ok.inj h ▸ .zero (hget.trans (congrArg some (hnumber hn)))
    case h_4 => nomatch h
  case h_6 => nomatch h

/-- Whether an item may stand before another. -/
def Direction.before : Direction → Value → Value → Bool
  | .asGiven, _, _ => true
  | .ascending, v, w => (v.compare w).isLE
  | .descending, v, w => (v.compare w).isGE

/-- Items put into an order.  None is lost or made up, and those that the order does not tell apart
stand as they stood. -/
structure Direction.Arranges (order : Direction) (given arranged : List Value) : Prop where
  perm : arranged.Perm given
  sorted : arranged.Pairwise fun v w => order.before v w = true
  stable : ∀ v : Value, (arranged.filter fun w => v.compare w == .eq) =
    given.filter fun w => v.compare w == .eq
  asGiven : order = .asGiven → arranged = given

/-- One argument for both directions: descending is ascending by the opposite comparison. -/
theorem arranges_mergeSort (order : Direction) (horder : order ≠ .asGiven)
    {cmp : Value → Value → Ordering} (hcmp : Std.TransCmp cmp)
    (hbefore : ∀ v w, order.before v w = (cmp v w).isLE)
    (hequal : ∀ v w : Value, v.compare w = .eq → cmp v w = .eq) (given : List Value) :
    order.Arranges given (given.mergeSort fun v w => (cmp v w).isLE) := by
  have trans : ∀ u v w, (cmp u v).isLE = true → (cmp v w).isLE = true → (cmp u w).isLE = true :=
    fun u v w => hcmp.isLE_trans
  have total : ∀ v w, ((cmp v w).isLE || (cmp w v).isLE) = true := by
    intro v w
    rw [hcmp.eq_swap (a := w), Ordering.isLE_swap]
    cases cmp v w <;> rfl
  refine ⟨List.mergeSort_perm given _, ?_, fun u => ?_, fun h => absurd h horder⟩
  · exact (List.pairwise_mergeSort trans total given).imp fun h => (hbefore _ _).trans h
  · refine filter_mergeSort trans total (fun v w hv hw => ?_) given
    have htie := hcmp.eq_trans (hcmp.eq_symm (hequal u v (eq_of_beq hv)))
      (hequal u w (eq_of_beq hw))
    rw [htie]
    rfl

theorem arranges_sort (order : Direction) (given : List Value) :
    order.Arranges given (order.sort given) := by
  have hcompare := Value.transCmp_compare
  cases order with
  | asGiven =>
    exact ⟨.rfl, List.pairwise_of_forall fun _ _ => rfl, fun _ => rfl, fun _ => rfl⟩
  | ascending =>
    exact arranges_mergeSort .ascending nofun hcompare (fun _ _ => rfl) (fun _ _ => id) given
  | descending =>
    refine arranges_mergeSort .descending nofun .opposite (fun v w => ?_)
      (fun v w => hcompare.eq_symm) given
    rw [hcompare.eq_swap (a := w), Ordering.isLE_swap]
    rfl

/-! ## The position -/

/-- The index that `$position` stands for in an array of `length` items. -/
inductive Positions (modifiers : Members Value) (length : Nat) : Nat → Prop where
  | missing (h : modifiers.get? "$position" = none) : Positions modifiers length length
  | null (h : modifiers.get? "$position" = some .null) : Positions modifiers length length
  | fromStart {a : Number} {index : Nat} (h : modifiers.get? "$position" = some (.num a))
      (hsign : 0 ≤ a.asInt64) (hindex : (index : Int) = min a.asInt64 length) :
      Positions modifiers length index
  | fromEnd {a : Number} {index : Nat} (h : modifiers.get? "$position" = some (.num a))
      (hsign : a.asInt64 < 0) (hindex : (index : Int) = max 0 (length + a.asInt64)) :
      Positions modifiers length index

theorem positions_of_insertionIndex {length index : Nat}
    (h : insertionIndex modifiers length = .ok index) : Positions modifiers length index := by
  unfold insertionIndex at h
  split at h
  case h_1 hget => exact Except.ok.inj h ▸ .missing hget
  case h_2 hget => exact Except.ok.inj h ▸ .null hget
  case h_3 position _ hget =>
    cases position with
    | num a =>
      have hoffset : Slice.offset a.asInt64 length = index := by
        simp only [Value.toBinary64?] at h
        split at h
        · exact Except.ok.inj h
        · nomatch h
      unfold Slice.offset at hoffset
      by_cases hsign : a.asInt64 < 0
      · rw [if_pos hsign] at hoffset
        exact .fromEnd hget hsign (by omega)
      · rw [if_neg hsign] at hoffset
        exact .fromStart hget (Int.not_lt.mp hsign) (by omega)
    | null | bool | str | arr | obj => nomatch h

/-- Up to `2 ^ 53` items a whole number is the position that it is written as. -/
theorem Positions.eq_of_units {length index : Nat} (h : Positions modifiers length index)
    {a : Number} (hget : modifiers.get? "$position" = some (.num a)) (ha : a.Ranged) {n : Int}
    (hn : a.units = n * Binary64.one) (hlength : length ≤ 0x20000000000000) :
    (index : Int) = if 0 ≤ n then min n length else max 0 (length + n) := by
  have hclamped := Number.clamped_asInt64 ha hn (-length) length (by omega) (by omega)
  have hsign := Number.asInt64_neg_iff ha hn
  cases h with
  | missing h | null h => cases hget.symm.trans h
  | fromStart h hpos hindex =>
    cases hget.symm.trans h
    rw [if_pos (by omega)]
    omega
  | fromEnd h hneg hindex =>
    cases hget.symm.trans h
    rw [if_neg (by omega)]
    omega

/-- An index of the array, written as a position, is that position. -/
theorem Positions.eq_of_le {length index i : Nat} (h : Positions modifiers length index)
    {a : Number} (hget : modifiers.get? "$position" = some (.num a)) (ha : a.Ranged)
    (hi : a.units = i * Binary64.one) (hle : i ≤ length)
    (hread : length ≤ 0x20000000000000 ∨ a.asInt64 = i) : index = i := by
  rcases hread with hlength | hread
  · have hindex := h.eq_of_units hget ha hi hlength
    rw [if_pos (Int.natCast_nonneg i)] at hindex
    omega
  · cases h with
    | missing h | null h => cases hget.symm.trans h
    | fromStart h hsign hindex =>
      cases hget.symm.trans h
      omega
    | fromEnd h hsign hindex =>
      cases hget.symm.trans h
      omega

/-! ## Taking out again -/

/-- An array operator applied several times with one operand. -/
def times (op : Array) (operand : Value) : Nat → Value → Except Fault Value
  | 0, v => .ok v
  | n + 1, v => do times op operand n (← op.transform (some v) operand)

theorem times_pull {index : Nat} (hindex : (index : Int) ≤ Number.maxUnsigned)
    {front : List Value} (hfront : front.length = index) (block back : List Value) :
    times .pull (.obj [("$position", .int index)]) block.length (.arr (front ++ block ++ back)) =
      .ok (.arr (front ++ back)) := by
  have hunsigned : (Value.int index).toUnsigned? = some index := by
    show (if _ then _ else _) = _
    rw [if_pos ⟨Int.natCast_nonneg index, hindex⟩, Int.toNat_natCast]
  have hselector : selector (.obj [("$position", .int index)]) = .ok (.at index) := by
    have hcomparator : comparator? (.obj [("$position", .int index)]) =
        some ("$position", .int index) := rfl
    simp only [selector, hcomparator, hunsigned]
  induction block with
  | nil => rw [List.append_nil, List.length_nil, times]
  | cons item block ih =>
    have hstep : Array.pull.transform (some (.arr (front ++ item :: block ++ back)))
        (.obj [("$position", .int index)]) = .ok (.arr (front ++ block ++ back)) := by
      refine transform_eq_ok_iff.mpr ⟨_, _, rfl, bind_eq_ok_iff.mpr ⟨_, hselector, rfl⟩, ?_⟩
      rw [Selector.remove, ← hfront, List.append_assoc front (item :: block),
        List.eraseIdx_append_of_length_le (Nat.le_refl _), Nat.sub_self, List.cons_append,
        List.eraseIdx_cons_zero, List.append_assoc]
    rw [List.length_cons, times, hstep]
    exact ih

/-- The induction takes the block from its end, as the pops do. -/
theorem times_pop (items block : List Value) :
    times .pop (.int 1) block.length (.arr (items ++ block)) = .ok (.arr items) := by
  induction block using List.reverseRecOn with
  | nil => rw [List.append_nil, List.length_nil, times]
  | append_singleton block item ih =>
    have hstep : Array.pop.transform (some (.arr (items ++ (block ++ [item])))) (.int 1) =
        .ok (.arr (items ++ block)) := by
      rw [← List.append_assoc]
      exact congrArg (fun items => Except.ok (Value.arr items)) List.dropLast_concat
    rw [List.length_append, List.length_singleton, times, hstep]
    exact ih

/-! ## Pushing a block -/

theorem exists_of_pushed {changed : List Value}
    (heach : modifiers.get? "$each" = some (.arr additions))
    (h : pushed items (.obj modifiers) = .ok changed) :
    ∃ order index, Sorts modifiers order ∧ Positions modifiers items.length index ∧
      changed = items.take index ++ order.sort additions ++ items.drop index := by
  obtain ⟨each, hsome, h⟩ := bind_eq_ok_iff.mp h
  cases Except.ok.inj ((each?_eq_some heach).symm.trans hsome)
  obtain ⟨order, horder, h⟩ := bind_eq_ok_iff.mp h
  obtain ⟨index, hindex, h⟩ := bind_eq_ok_iff.mp h
  exact ⟨order, index, sorts_of_direction horder, positions_of_insertionIndex hindex,
    (Except.ok.inj h).symm⟩

/-- A push of a list puts its items, in the order that `$sort` stands for, as one block before the
index that `$position` stands for, and keeps all items that were there around it.  As many pulls at
the position, or pops where there is none, take the block out again. -/
theorem transform_push {stored : Option Value} {v : Value} (hstored : stored? stored = .ok items)
    (heach : modifiers.get? "$each" = some (.arr additions))
    (h : Array.push.transform stored (.obj modifiers) = .ok v) :
    ∃ order index block, Sorts modifiers order ∧ Positions modifiers items.length index ∧
      order.Arranges additions block ∧
      v = .arr (items.take index ++ block ++ items.drop index) ∧
      (∀ (a : Number) (n : Int), modifiers.get? "$position" = some (.num a) → a.Ranged →
        a.units = n * Binary64.one → items.length ≤ 0x20000000000000 →
        (index : Int) = if 0 ≤ n then min n items.length else max 0 (items.length + n)) ∧
      (∀ (a : Number) (i : Nat), modifiers.get? "$position" = some (.num a) → a.Ranged →
        a.units = i * Binary64.one → i ≤ items.length →
        items.length ≤ 0x20000000000000 ∨ a.asInt64 = i →
        times .pull (.obj [("$position", .int i)]) additions.length v = .ok (.arr items)) ∧
      (modifiers.get? "$position" = none ∨ modifiers.get? "$position" = some .null →
        times .pop (.int 1) additions.length v = .ok (.arr items)) := by
  obtain ⟨found, changed, hfound, hchanged, rfl⟩ := transform_eq_ok_iff.mp h
  obtain rfl : items = found := Except.ok.inj (hstored.symm.trans hfound)
  obtain ⟨order, index, hsorts, hpositions, rfl⟩ := exists_of_pushed heach hchanged
  have harranges := arranges_sort order additions
  refine ⟨order, index, order.sort additions, hsorts, hpositions, harranges, rfl,
    fun a n hget ha hn => hpositions.eq_of_units hget ha hn, ?_, ?_⟩
  · intro a i hget ha hi hle hread
    have hunsigned : (i : Int) ≤ Number.maxUnsigned := by
      have hsigned := Number.signed_asInt64 ha
      unfold Number.Signed Number.maxSigned at hsigned
      unfold Number.maxUnsigned
      omega
    rw [hpositions.eq_of_le hget ha hi hle hread, ← harranges.perm.length_eq,
      times_pull hunsigned (List.length_take_of_le hle), List.take_append_drop]
  · intro hnone
    have hend : index = items.length := by
      cases hpositions with
      | missing | null => rfl
      | fromStart h | fromEnd h => rcases hnone with hnone | hnone <;> cases hnone.symm.trans h
    rw [hend, List.take_length, List.drop_length, List.append_nil, ← harranges.perm.length_eq]
    exact times_pop items _

/-- Sorted downwards, and put in before the last item. -/
theorem transform_push_sorted :
    let stored : Value := .arr [.int 7, .int 8]
    let operand : Value :=
      .obj [("$each", .arr [.int 5, .null, .int 1]), ("$sort", .int (-1)), ("$position", .int 1)]
    ∃ v, Array.push.transform (some stored) operand = .ok v ∧
      (∃ block, v = .arr ([.int 7] ++ block ++ [.int 8]) ∧
        Direction.descending.Arranges [.int 5, .null, .int 1] block) ∧
      times .pull (.obj [("$position", .int 1)]) 3 v = .ok (.arr [.int 7, .int 8]) := by
  intro stored operand
  have hindex : insertionIndex [("$each", .arr [.int 5, .null, .int 1]), ("$sort", .int (-1)),
      ("$position", .int 1)] 2 = .ok 1 := by decide +kernel
  have hpushed : pushed [.int 7, .int 8] operand = .ok ([.int 7] ++
      Direction.descending.sort [.int 5, .null, .int 1] ++ [.int 8]) :=
    bind_eq_ok_iff.mpr ⟨_, each?_eq_some rfl, bind_eq_ok_iff.mpr ⟨.descending, rfl,
      bind_eq_ok_iff.mpr ⟨1, hindex, rfl⟩⟩⟩
  have hpush : Array.push.transform (some stored) operand = .ok _ :=
    transform_eq_ok_iff.mpr ⟨_, _, rfl, hpushed, rfl⟩
  obtain ⟨order, index, block, hsorts, hpositions, harranges, hv, hexact, hpull, -⟩ :=
    transform_push rfl rfl hpush
  have hone : Number.Ranged (.int 1) := Number.ranged_int (by decide)
  have hpulled := hpull (.int 1) 1 rfl hone rfl (by decide) (.inl (by decide))
  have horder : order = .descending := by
    cases hsorts with
    | minusOne => rfl
    | missing h | null h | no h | zero h | yes h | one h => nomatch h
  have hwhere : (index : Int) = 1 := hexact (.int 1) 1 rfl hone rfl (by decide)
  obtain rfl : index = 1 := by omega
  exact ⟨_, hpush, ⟨block, hv, horder ▸ harranges⟩, hpulled⟩

end Array
end Operator
end Amend
