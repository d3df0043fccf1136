/-
What sets of code points hold.  Joining ranges that overlap or touch changes nothing of what they
hold and leaves a gap between any two that are left, so that a walk over the gaps gives the
complement.
-/
import Amend.Unicode.Character

namespace Amend
namespace Unicode
namespace Ranges

variable {rs : Ranges} {r s : Nat × Nat} {n start : Nat}

theorem contains_iff : rs.contains n = true ↔ ∃ r ∈ rs, r.1 ≤ n ∧ n ≤ r.2 := by
  simp only [contains, List.any_eq_true, Bool.and_eq_true, decide_eq_true_iff]

theorem not_contains_nil : contains [] n = true ↔ False := iff_of_false Bool.false_ne_true id

theorem contains_cons_iff :
    contains (r :: rs) n = true ↔ (r.1 ≤ n ∧ n ≤ r.2) ∨ rs.contains n = true := by
  simp only [contains, List.any_cons, Bool.or_eq_true, Bool.and_eq_true, decide_eq_true_iff]

theorem contains_append_iff {a b : Ranges} :
    contains (a ++ b) n = true ↔ a.contains n = true ∨ b.contains n = true := by
  rw [contains, List.any_append, Bool.or_eq_true]
  exact Iff.rfl

theorem contains_perm {a b : Ranges} (h : a.Perm b) :
    a.contains n = true ↔ b.contains n = true := by
  simp only [contains_iff, h.mem_iff]

/-- Ranges of which each is before or behind each of some others have no code point in common with
these. -/
theorem not_contains_of_apart {a b : Ranges} (h : ∀ r ∈ a, ∀ s ∈ b, r.2 < s.1 ∨ s.2 < r.1)
    (hn : a.contains n = true) : ¬b.contains n = true := by
  intro hn'
  obtain ⟨r, hr, hfirst, hlast⟩ := contains_iff.mp hn
  obtain ⟨s, hs, hfirst', hlast'⟩ := contains_iff.mp hn'
  have := h r hr s hs
  omega

/-- A table is read from the characters of its text.  A long text is slow to turn into characters,
and a list of characters is not. -/
theorem ofText_ofList (cs : List Char) :
    ofText (String.ofList cs) =
      ((splitOn ' ' (cs.map fun c => if c = '\n' then ' ' else c)).filter
        (!·.isEmpty)).flatMap ofToken := by
  rw [ofText, tokens, String.toList_ofList]

/-! ## Joining -/

/-- Ranges in the order of their first ends. -/
def Sorted (rs : Ranges) : Prop := rs.Pairwise fun r s => r.1 ≤ s.1

theorem Sorted.le (h : Sorted (r :: rs)) : ∀ s ∈ rs, r.1 ≤ s.1 := (List.pairwise_cons.mp h).1

theorem Sorted.tail (h : Sorted (r :: rs)) : Sorted rs := (List.pairwise_cons.mp h).2

theorem Sorted.join (h : Sorted (r :: s :: rs)) : Sorted ((r.1, max r.2 s.2) :: rs) :=
  List.pairwise_cons.mpr ⟨fun t ht => h.le t (List.mem_cons_of_mem s ht), h.tail.tail⟩

theorem contains_joinSorted (h : Sorted rs) :
    (joinSorted rs).contains n = true ↔ rs.contains n = true := by
  fun_induction joinSorted rs with
  | case1 => exact Iff.rfl
  | case2 r => exact Iff.rfl
  | case3 r s rest htouch ih =>
    have hle : r.1 ≤ s.1 := h.le s List.mem_cons_self
    rw [ih h.join, contains_cons_iff, contains_cons_iff, contains_cons_iff, ← or_assoc]
    exact or_congr_left (by omega)
  | case4 r s rest htouch ih =>
    rw [contains_cons_iff, ih h.tail, ← contains_cons_iff]

/-- Joining makes up no first ends. -/
theorem exists_mem_of_mem_joinSorted (h : r ∈ joinSorted rs) : ∃ s ∈ rs, s.1 = r.1 := by
  fun_induction joinSorted rs with
  | case1 => nomatch h
  | case2 s => exact ⟨r, h, rfl⟩
  | case3 s t rest htouch ih =>
    obtain ⟨u, hu, hfirst⟩ := ih h
    rcases List.mem_cons.mp hu with rfl | hu
    · exact ⟨s, List.mem_cons_self, hfirst⟩
    · exact ⟨u, List.mem_cons_of_mem s (List.mem_cons_of_mem t hu), hfirst⟩
  | case4 s t rest htouch ih =>
    rcases List.mem_cons.mp h with rfl | h
    · exact ⟨r, List.mem_cons_self, rfl⟩
    · obtain ⟨u, hu, hfirst⟩ := ih h
      exact ⟨u, List.mem_cons_of_mem s hu, hfirst⟩

/-- No range ends before it begins. -/
def Proper (rs : Ranges) : Prop := ∀ r ∈ rs, r.1 ≤ r.2

instance (rs : Ranges) : Decidable (Proper rs) := by
  unfold Proper
  infer_instance

theorem Proper.joinSorted (h : Proper rs) : Proper (joinSorted rs) := by
  fun_induction Ranges.joinSorted rs with
  | case1 => exact h
  | case2 r => exact h
  | case3 r s rest htouch ih =>
    obtain ⟨hle, hrest⟩ := List.forall_mem_cons.mp h
    have hjoined : r.1 ≤ max r.2 s.2 := Nat.le_trans hle (Nat.le_max_left _ _)
    exact ih (List.forall_mem_cons.mpr ⟨hjoined, (List.forall_mem_cons.mp hrest).2⟩)
  | case4 r s rest htouch ih =>
    obtain ⟨hle, hrest⟩ := List.forall_mem_cons.mp h
    exact List.forall_mem_cons.mpr ⟨hle, ih hrest⟩

theorem Proper.mergeSort (h : Proper rs) :
    Proper (rs.mergeSort fun r s => decide (r.1 ≤ s.1)) :=
  fun r hr => h r ((List.mergeSort_perm rs _).mem_iff.mp hr)

theorem Proper.union {a b : Ranges} (ha : Proper a) (hb : Proper b) : Proper (union a b) :=
  Proper.joinSorted (Proper.mergeSort (List.forall_mem_append.mpr ⟨ha, hb⟩))

/-- Sorted ranges of which the first begins at `start` or later and every other one behind the last
end of the one before it. -/
def Ascending (start : Nat) : Ranges → Prop
  | [] => True
  | r :: rest => start ≤ r.1 ∧ (∀ s ∈ rest, r.1 ≤ s.1) ∧ Ascending (r.2 + 1) rest

theorem ascending_joinSorted (h : Sorted rs) (hstart : ∀ r ∈ rs, start ≤ r.1) :
    Ascending start (joinSorted rs) := by
  fun_induction joinSorted rs generalizing start with
  | case1 => trivial
  | case2 r => exact ⟨hstart r List.mem_cons_self, nofun, trivial⟩
  | case3 r s rest htouch ih =>
    obtain ⟨hr, hrest⟩ := List.forall_mem_cons.mp hstart
    exact ih h.join (List.forall_mem_cons.mpr ⟨hr, (List.forall_mem_cons.mp hrest).2⟩)
  | case4 r s rest htouch ih =>
    have hnext : ∀ t ∈ s :: rest, s.1 ≤ t.1 :=
      List.forall_mem_cons.mpr ⟨Nat.le_refl _, h.tail.le⟩
    refine ⟨hstart r List.mem_cons_self, fun t ht => ?_, ih h.tail fun t ht => ?_⟩
    · obtain ⟨u, hu, hfirst⟩ := exists_mem_of_mem_joinSorted ht
      exact hfirst ▸ h.le u hu
    · exact Nat.le_trans (Nat.le_of_lt (Nat.not_le.mp htouch)) (hnext t ht)

theorem sorted_mergeSort (rs : Ranges) : Sorted (rs.mergeSort fun r s => decide (r.1 ≤ s.1)) := by
  have htrans : ∀ r s t : Nat × Nat, decide (r.1 ≤ s.1) = true → decide (s.1 ≤ t.1) = true →
      decide (r.1 ≤ t.1) = true :=
    fun r s t hrs hst =>
      decide_eq_true (Nat.le_trans (of_decide_eq_true hrs) (of_decide_eq_true hst))
  have htotal : ∀ r s : Nat × Nat, (decide (r.1 ≤ s.1) || decide (s.1 ≤ r.1)) = true := by
    intro r s
    rw [Bool.or_eq_true, decide_eq_true_iff, decide_eq_true_iff]
    exact Nat.le_total r.1 s.1
  exact (List.pairwise_mergeSort htrans htotal rs).imp of_decide_eq_true

theorem contains_normalize (rs : Ranges) (n : Nat) :
    (normalize rs).contains n = true ↔ rs.contains n = true := by
  rw [normalize, contains_joinSorted (sorted_mergeSort rs)]
  exact contains_perm (List.mergeSort_perm rs _)

theorem contains_union (a b : Ranges) (n : Nat) :
    (union a b).contains n = true ↔ a.contains n = true ∨ b.contains n = true := by
  rw [union, contains_normalize, contains_append_iff]

theorem contains_unionAll (sets : List Ranges) (n : Nat) :
    (unionAll sets).contains n = true ↔ ∃ rs ∈ sets, rs.contains n = true := by
  rw [unionAll, contains_normalize]
  simp only [contains_iff, List.mem_flatten]
  constructor
  · rintro ⟨r, ⟨rs, hrs, hr⟩, hn⟩
    exact ⟨rs, hrs, r, hr, hn⟩
  · rintro ⟨rs, hrs, r, hr, hn⟩
    exact ⟨r, ⟨rs, hrs, hr⟩, hn⟩

/-! ## Complements -/

/-- The gaps between ascending ranges hold what the ranges do not. -/
theorem contains_gaps (h : Ascending start rs) (hproper : Proper rs) (hn : n ≤ lastCode) :
    (gaps start rs).contains n = true ↔ start ≤ n ∧ ¬rs.contains n = true := by
  induction rs generalizing start with
  | nil =>
    have hempty : ¬contains [] n = true := Bool.false_ne_true
    rw [gaps]
    by_cases hstart : start ≤ lastCode
    · rw [if_pos hstart, contains_cons_iff]
      exact ⟨fun hc => ⟨(hc.resolve_right hempty).1, hempty⟩, fun hc => .inl ⟨hc.1, hn⟩⟩
    · rw [if_neg hstart]
      exact iff_of_false hempty (by omega)
  | cons r rest ih =>
    obtain ⟨hstart, hle, hrest⟩ := h
    obtain ⟨hends, hproper⟩ := List.forall_mem_cons.mp hproper
    have hlater : contains rest n = true → r.1 ≤ n := fun hc => by
      obtain ⟨s, hs, hfirst, -⟩ := contains_iff.mp hc
      exact Nat.le_trans (hle s hs) hfirst
    have hnext := ih hrest hproper
    rw [gaps, contains_cons_iff]
    by_cases hc : contains rest n = true
    · have hfirst := hlater hc
      simp only [hc, not_true_eq_false, and_false, or_true, iff_false] at hnext ⊢
      by_cases hgap : start < r.1
      · rw [if_pos hgap, contains_cons_iff]
        exact fun h => h.elim (fun h => by omega) hnext
      · rw [if_neg hgap]
        exact hnext
    · simp only [hc, not_false_eq_true, and_true, or_false, Bool.false_eq_true] at hnext ⊢
      by_cases hgap : start < r.1
      · rw [if_pos hgap, contains_cons_iff, hnext]
        omega
      · rw [if_neg hgap, hnext]
        omega

theorem contains_complement (hproper : Proper rs) (hn : n ≤ lastCode) :
    (complement rs).contains n = true ↔ ¬rs.contains n = true := by
  have hascending : Ascending 0 (normalize rs) :=
    ascending_joinSorted (sorted_mergeSort rs) fun _ _ => Nat.zero_le _
  rw [complement, contains_gaps hascending hproper.mergeSort.joinSorted hn, contains_normalize]
  exact and_iff_right (Nat.zero_le n)

end Ranges

theorem whiteSpace_eq : whiteSpace = [(9, 13), (32, 32), (133, 133), (160, 160), (5760, 5760),
    (8192, 8202), (8232, 8233), (8239, 8239), (8287, 8287), (12288, 12288)] :=
  (Ranges.ofText_ofList _).trans rfl

/-- White space is decided by its table, for ASCII characters as well. -/
theorem isWhiteSpace_eq_contains (c : Char) : isWhiteSpace c = whiteSpace.contains c.toNat := by
  have hascii : ∀ n < 128, isWhiteSpace (Char.ofNat n) = whiteSpace.contains n := by
    rw [whiteSpace_eq]
    decide
  by_cases hc : c.toNat < 128
  · rw [← hascii c.toNat hc, Char.ofNat_toNat]
  · exact if_neg hc

/-- The signs for Roman numerals are numbers, and the large ones uppercase as well. -/
theorem isNumeric_and_isUpper_of_romanNumeral {c : Char} (hfirst : 0x2160 ≤ c.toNat)
    (hlast : c.toNat ≤ 0x216F) : isNumeric c = true ∧ isUpper c = true := by
  have hascii : ¬c.toNat < 128 := by omega
  have hnumber : (0x2160, 0x2182) ∈ Category.letterNumber := by
    have hread : Category.letterNumber = _ := Ranges.ofText_ofList _
    rw [hread]
    decide +kernel
  have hupper : (0x2160, 0x216F) ∈ otherUppercase := by
    have hread : otherUppercase = _ := Ranges.ofText_ofList _
    rw [hread]
    decide +kernel
  constructor
  · rw [isNumeric, decideBy, if_neg hascii, Latest.number, Ranges.contains_union, Category.number,
      Ranges.contains_unionAll]
    exact .inl ⟨Category.letterNumber, List.mem_cons_of_mem _ List.mem_cons_self,
      Ranges.contains_iff.mpr ⟨_, hnumber, hfirst, by omega⟩⟩
  · rw [isUpper, decideBy, if_neg hascii, Latest.uppercase, Ranges.contains_union, uppercase,
      Ranges.contains_unionAll]
    exact .inl ⟨otherUppercase, List.mem_cons_of_mem _ List.mem_cons_self,
      Ranges.contains_iff.mpr ⟨_, hupper, hfirst, hlast⟩⟩

end Unicode
end Amend
