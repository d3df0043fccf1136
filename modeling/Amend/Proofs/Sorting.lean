/-
Stable sorting.  Sorting moves items past items of another key only, so those of one key stay in
the order in which they came.  A list that is in order and has the items of each key as they came
is the sorted list: nothing else is left to decide.
-/
import Mathlib.Data.List.Sort

namespace Amend

variable {α κ : Type}

/-- Items of which each may stand before each keep their order in a sorted list. -/
theorem filter_mergeSort {le : α → α → Bool}
    (trans : ∀ u v w, le u v = true → le v w = true → le u w = true)
    (total : ∀ v w, (le v w || le w v) = true) {p : α → Bool}
    (hp : ∀ v w, p v = true → p w = true → le v w = true) (xs : List α) :
    (xs.mergeSort le).filter p = xs.filter p := by
  have hpairwise : (xs.filter p).Pairwise fun v w => le v w = true :=
    List.pairwise_of_forall_mem_list fun v hv w hw =>
      hp v w (List.mem_filter.mp hv).2 (List.mem_filter.mp hw).2
  have hsublist : (xs.filter p).Sublist (xs.mergeSort le) :=
    List.sublist_mergeSort trans total hpairwise List.filter_sublist
  have hkept := hsublist.filter p
  simp only [List.filter_filter, Bool.and_self] at hkept
  exact (hkept.eq_of_length ((List.mergeSort_perm xs le).filter p).length_eq.symm).symm

variable [LinearOrder κ] {key : α → κ} {xs ys : List α}

/-- The items in the order of their keys, those of one key as they came. -/
def sortedBy (key : α → κ) (xs : List α) : List α :=
  xs.mergeSort fun v w => decide (key v ≤ key w)

theorem key_le_trans (key : α → κ) (u v w : α) (huv : decide (key u ≤ key v) = true)
    (hvw : decide (key v ≤ key w) = true) : decide (key u ≤ key w) = true := by
  simp only [decide_eq_true_eq] at huv hvw ⊢
  exact le_trans huv hvw

theorem key_le_total (key : α → κ) (v w : α) :
    (decide (key v ≤ key w) || decide (key w ≤ key v)) = true := by
  simpa using le_total (key v) (key w)

theorem pairwise_sortedBy (key : α → κ) (xs : List α) :
    (sortedBy key xs).Pairwise fun v w => key v ≤ key w := by
  simpa [sortedBy] using List.pairwise_mergeSort (key_le_trans key) (key_le_total key) xs

theorem filter_sortedBy (key : α → κ) (xs : List α) (k : κ) :
    (sortedBy key xs).filter (fun v => key v = k) = xs.filter fun v => key v = k := by
  refine filter_mergeSort (key_le_trans key) (key_le_total key) (fun v w hv hw => ?_) xs
  simp only [decide_eq_true_eq] at hv hw ⊢
  exact (hv.trans hw.symm).le

/-- Two lists in order that have the same items of each key, in the same order, are one. -/
theorem eq_of_pairwise_of_filter (hxs : xs.Pairwise fun v w => key v ≤ key w)
    (hys : ys.Pairwise fun v w => key v ≤ key w)
    (h : ∀ k, xs.filter (fun v => key v = k) = ys.filter fun v => key v = k) : xs = ys := by
  have hmem : ∀ {xs ys : List α}, (∀ k, xs.filter (fun v => key v = k) =
      ys.filter fun v => key v = k) → ∀ v ∈ xs, v ∈ ys := by
    intro xs ys h v hv
    have hfilter : v ∈ xs.filter fun w => key w = key v := by simp [hv]
    rw [h] at hfilter
    exact (List.mem_filter.mp hfilter).1
  induction xs generalizing ys with
  | nil =>
    cases ys with
    | nil => rfl
    | cons w ys => exact absurd (hmem (fun k => (h k).symm) w List.mem_cons_self) List.not_mem_nil
  | cons v xs ih =>
    cases ys with
    | nil => exact absurd (hmem h v List.mem_cons_self) List.not_mem_nil
    | cons w ys =>
      obtain ⟨hv, hxrest⟩ := List.pairwise_cons.mp hxs
      obtain ⟨hw, hyrest⟩ := List.pairwise_cons.mp hys
      -- Each list has the head of the other, which does not come before its own head.
      have hkey : key v = key w := by
        apply le_antisymm
        · rcases List.mem_cons.mp (hmem (fun k => (h k).symm) w List.mem_cons_self) with rfl | hw
          · exact le_rfl
          · exact hv w hw
        · rcases List.mem_cons.mp (hmem h v List.mem_cons_self) with rfl | hv
          · exact le_rfl
          · exact hw v hv
      have hhead := h (key v)
      simp only [List.filter_cons, hkey, decide_true, if_true, List.cons.injEq] at hhead
      obtain ⟨rfl, -⟩ := hhead
      refine congrArg (v :: ·) (ih hxrest hyrest fun k => ?_)
      have hk := h k
      by_cases hvk : key v = k <;> simpa [List.filter_cons, hvk] using hk

theorem eq_sortedBy (hys : ys.Pairwise fun v w => key v ≤ key w)
    (h : ∀ k, ys.filter (fun v => key v = k) = xs.filter fun v => key v = k) :
    ys = sortedBy key xs :=
  eq_of_pairwise_of_filter hys (pairwise_sortedBy key xs) fun k =>
    (h k).trans (filter_sortedBy key xs k).symm

/-- Items of different keys are sorted alike in whatever order they come. -/
theorem sortedBy_eq_of_perm (hnodup : (xs.map key).Nodup) (h : xs.Perm ys) :
    sortedBy key xs = sortedBy key ys := by
  have hxs : (sortedBy key xs).Perm xs := List.mergeSort_perm xs _
  have hys : (sortedBy key ys).Perm ys := List.mergeSort_perm ys _
  refine ((hxs.trans h).trans hys.symm).eq_of_pairwise (fun v w hv hw hvw hwv => ?_)
    (pairwise_sortedBy key xs) (pairwise_sortedBy key ys)
  have hv' : v ∈ xs := hxs.mem_iff.mp hv
  have hw' : w ∈ xs := h.mem_iff.mpr (hys.mem_iff.mp hw)
  exact List.inj_on_of_nodup_map hnodup hv' hw' (le_antisymm hvw hwv)

end Amend
