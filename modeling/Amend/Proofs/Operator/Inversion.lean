/-
Inverting an object, so that its values lead to its keys.  Of members whose values have one text the
last is kept, in its place: each step takes the text out of what has been built so far and puts it
at the end, so what has been built are the members without a later one of the same text.  Since
names are not repeated, inverting a second time takes nothing out and leads back to these members.
-/
import Mathlib.Data.List.Induction
import Amend.Proofs.Operator.Settled

namespace Amend
namespace Operator
namespace Object

variable {members : Members Value}

/-! ## Texts -/

/-- A value that has no text as a name. -/
inductive Nameless : Value → Prop where
  | null : Nameless .null
  | arr (items : List Value) : Nameless (.arr items)
  | obj (members : Members Value) : Nameless (.obj members)

/-- A string itself, and the JSON text of any other value. -/
def nameOf : Value → String
  | .str s => s
  | v => v.text

theorem keyText?_of_not_nameless {v : Value} (h : ¬Nameless v) : keyText? v = some (nameOf v) := by
  cases v with
  | bool | num | str => rfl
  | null => exact absurd .null h
  | arr items => exact absurd (.arr items) h
  | obj members => exact absurd (.obj members) h

theorem keyText?_of_nameless {v : Value} (h : Nameless v) : keyText? v = none := by
  cases h <;> rfl

/-! ## Last members -/

/-- The members whose text no later one has. -/
def lasts : Members Value → Members Value
  | [] => []
  | m :: rest => if nameOf m.2 ∈ rest.map (nameOf ·.2) then lasts rest else m :: lasts rest

theorem lasts_sublist (members : Members Value) : (lasts members).Sublist members := by
  induction members with
  | nil => exact .slnil
  | cons m rest ih =>
    rw [lasts]
    split
    · exact ih.cons m
    · exact ih.cons_cons m

theorem lasts_of_nodup (h : (members.map (nameOf ·.2)).Nodup) : lasts members = members := by
  induction members with
  | nil => rfl
  | cons m rest ih =>
    obtain ⟨hnew, hrest⟩ := List.nodup_cons.mp h
    rw [lasts, if_neg hnew, ih hrest]

theorem nodup_lasts (members : Members Value) : ((lasts members).map (nameOf ·.2)).Nodup := by
  induction members with
  | nil => exact .nil
  | cons m rest ih =>
    rw [lasts]
    split
    · exact ih
    · next hnew =>
      exact List.nodup_cons.mpr ⟨mt (((lasts_sublist rest).map _).subset ·) hnew, ih⟩

/-- One more member takes the place of the one with its text. -/
theorem lasts_append_singleton (members : Members Value) (m : String × Value) :
    lasts (members ++ [m]) =
      ((lasts members).filter fun n => nameOf n.2 ≠ nameOf m.2) ++ [m] := by
  induction members with
  | nil => rfl
  | cons n rest ih =>
    have hlater : nameOf n.2 ∈ (rest ++ [m]).map (nameOf ·.2) ↔
        nameOf n.2 ∈ rest.map (nameOf ·.2) ∨ nameOf n.2 = nameOf m.2 := by
      rw [List.map_append, List.mem_append, List.map_singleton, List.mem_singleton]
    rw [List.cons_append, lasts, lasts, ih]
    by_cases hrest : nameOf n.2 ∈ rest.map (nameOf ·.2)
    · rw [if_pos (hlater.mpr (.inl hrest)), if_pos hrest]
    · rw [if_neg hrest]
      by_cases hsame : nameOf n.2 = nameOf m.2
      · rw [if_pos (hlater.mpr (.inr hsame)), List.filter_cons_of_neg (by simpa using hsame)]
      · rw [if_neg (fun h => (hlater.mp h).elim hrest hsame),
          List.filter_cons_of_pos (by simpa using hsame), List.cons_append]

/-! ## Inverting -/

/-- A member with its name and its text exchanged. -/
def swap (m : String × Value) : String × Value := (nameOf m.2, .str m.1)

theorem erase_map_swap (members : Members Value) (text : String) :
    Members.erase (members.map swap) text =
      (members.filter fun m => nameOf m.2 ≠ text).map swap := by
  rw [Members.erase, List.filter_map]
  rfl

theorem inverted_eq (h : ∀ m ∈ members, ¬Nameless m.2) :
    inverted members = .ok ((lasts members).map swap) := by
  -- The induction is from the end: the last step finds the inverse of the members before it.
  induction members using List.reverseRecOn with
  | nil => rfl
  | append_singleton members m ih =>
    have hbefore : inverted members = .ok ((lasts members).map swap) :=
      ih fun n hn => h n (List.mem_append_left [m] hn)
    have htext := keyText?_of_not_nameless (h m (List.mem_append_right members List.mem_cons_self))
    have hstep : inverted.step ((lasts members).map swap) m =
        .ok ((lasts (members ++ [m])).map swap) := by
      simp only [inverted.step, htext, erase_map_swap, lasts_append_singleton, List.map_append]
      rfl
    rw [inverted, List.foldlM_append]
    exact bind_eq_ok_iff.mpr ⟨_, hbefore, bind_eq_ok_iff.mpr ⟨_, hstep, rfl⟩⟩

theorem not_nameless_of_inverted {changed : Members Value} (h : inverted members = .ok changed) :
    ∀ m ∈ members, ¬Nameless m.2 := by
  unfold inverted at h
  generalize ([] : Members Value) = swapped at h
  induction members generalizing swapped with
  | nil => exact fun m hm => absurd hm List.not_mem_nil
  | cons m rest ih =>
    rw [List.foldlM_cons] at h
    obtain ⟨next, hstep, h⟩ := bind_eq_ok_iff.mp h
    refine List.forall_mem_cons.mpr ⟨fun hnameless => ?_, ih next h⟩
    rw [inverted.step, keyText?_of_nameless hnameless] at hstep
    nomatch hstep

/-- The text of members leads to the last of them. -/
theorem get?_map_swap (members : Members Value) (text : String) :
    Members.get? ((lasts members).map swap) text =
      ((members.filter fun m => nameOf m.2 == text).getLast?).map fun m => .str m.1 := by
  induction members with
  | nil => rfl
  | cons m rest ih =>
    have hpresent : nameOf m.2 ∈ rest.map (nameOf ·.2) ↔
        rest.filter (fun n => nameOf n.2 == nameOf m.2) ≠ [] := by
      simp [List.filter_eq_nil_iff]
    rw [lasts]
    by_cases htext : nameOf m.2 = text
    · subst htext
      rw [List.filter_cons_of_pos (by simp), List.getLast?_cons]
      by_cases hlater : nameOf m.2 ∈ rest.map (nameOf ·.2)
      · -- A later member has the text, so the last of all is the last of the rest.
        obtain ⟨last, hlast⟩ := Option.ne_none_iff_exists'.mp
          (mt List.getLast?_eq_none_iff.mp (hpresent.mp hlater))
        rw [if_pos hlater, ih, hlast]
        rfl
      · rw [if_neg hlater, not_not.mp (mt hpresent.mpr hlater)]
        exact Members.get?_cons_self _ _ _
    · rw [List.filter_cons_of_neg (by simpa using htext), ← ih]
      by_cases hlater : nameOf m.2 ∈ rest.map (nameOf ·.2)
      · rw [if_pos hlater]
      · rw [if_neg hlater]
        exact if_neg htext

theorem exists_fault_iff :
    (∃ fault, inverted members = .error fault) ↔ ∃ m ∈ members, Nameless m.2 := by
  constructor
  · rintro ⟨fault, hfault⟩
    by_contra hnone
    have hall : ∀ m ∈ members, ¬Nameless m.2 := fun m hm hm' => hnone ⟨m, hm, hm'⟩
    exact nomatch hfault.symm.trans (inverted_eq hall)
  · rintro ⟨m, hm, hnameless⟩
    cases hresult : inverted members with
    | error fault => exact ⟨fault, rfl⟩
    | ok changed => exact absurd hnameless (not_nameless_of_inverted hresult m hm)

theorem distinct_map_swap (members : Members Value) :
    Members.Distinct ((lasts members).map swap) := by
  rw [Members.Distinct, Members.keys_map]
  exact nodup_lasts members

/-- The texts of an inverse are names of members, so none is repeated and all members are kept. -/
theorem inverted_map_swap (hd : members.Distinct) :
    inverted ((lasts members).map swap) =
      .ok ((lasts members).map fun m => (m.1, .str (nameOf m.2))) := by
  have hstrings : ∀ m ∈ (lasts members).map swap, ¬Nameless m.2 := by
    intro m hm hnameless
    obtain ⟨n, -, rfl⟩ := List.mem_map.mp hm
    nomatch hnameless
  have htexts : ((lasts members).map swap).map (nameOf ·.2) = (lasts members).map Prod.fst := by
    rw [List.map_map]
    rfl
  have hlasts : lasts ((lasts members).map swap) = (lasts members).map swap := by
    refine lasts_of_nodup ?_
    rw [htexts]
    exact ((lasts_sublist members).map Prod.fst).nodup hd
  rw [inverted_eq hstrings, hlasts, List.map_map]
  rfl

theorem map_text_eq_self (h : ∀ m ∈ members, ∃ s, m.2 = .str s) :
    members.map (fun m => (m.1, Value.str (nameOf m.2))) = members := by
  refine (List.map_congr_left fun m hm => ?_).trans (List.map_id members)
  obtain ⟨s, hs⟩ := h m hm
  obtain ⟨key, v⟩ := m
  cases hs
  rfl

/-! ## The operator -/

theorem transform_invert_eq {stored : Option Value} (hstored : stored? stored = .ok members)
    (operand : Operand) :
    Object.invert.transform stored operand = (inverted members).map Value.obj :=
  transform_of_stored hstored .invert operand

/-- Inverting fails exactly where a value is null, an array or an object.  Otherwise there is one
member for every text, which leads to the last name with that text, and the members stand in the
order of these last names.  Inverting again gives the members that were the last for their text, as
they stood, with their texts for values, and so an object of distinct strings comes back. -/
theorem transform_invert {stored : Option Value} (hstored : stored? stored = .ok members)
    (hd : members.Distinct) (operand again : Operand) :
    ((∃ fault, Object.invert.transform stored operand = .error fault) ↔
      ∃ m ∈ members, Nameless m.2) ∧
    ((∀ m ∈ members, ¬Nameless m.2) →
      let inverse := (lasts members).map fun m => (nameOf m.2, Value.str m.1)
      Object.invert.transform stored operand = .ok (.obj inverse) ∧
      (lasts members).Sublist members ∧
      Members.Distinct inverse ∧
      (∀ text, Members.get? inverse text =
        ((members.filter fun m => nameOf m.2 == text).getLast?).map fun m => .str m.1) ∧
      Object.invert.transform (some (.obj inverse)) again =
        .ok (.obj ((lasts members).map fun m => (m.1, .str (nameOf m.2)))) ∧
      ((∀ m ∈ members, ∃ s, m.2 = .str s) → (members.map fun m => nameOf m.2).Nodup →
        Object.invert.transform (some (.obj inverse)) again = .ok (.obj members))) := by
  rw [transform_invert_eq hstored operand]
  constructor
  · refine Iff.trans ?_ exists_fault_iff
    cases inverted members with
    | error fault => exact iff_of_true ⟨fault, rfl⟩ ⟨fault, rfl⟩
    | ok changed => exact iff_of_false nofun nofun
  · intro h inverse
    have hthere : stored? (some (.obj inverse)) = .ok inverse := rfl
    have hagain : Object.invert.transform (some (.obj inverse)) again =
        .ok (.obj ((lasts members).map fun m => (m.1, .str (nameOf m.2)))) := by
      rw [transform_invert_eq hthere again]
      exact congrArg (Except.map Value.obj) (inverted_map_swap hd)
    refine ⟨congrArg (Except.map Value.obj) (inverted_eq h), lasts_sublist members,
      distinct_map_swap members, get?_map_swap members, hagain, fun hstrings hdistinct => ?_⟩
    rw [hagain, lasts_of_nodup hdistinct, map_text_eq_self hstrings]

/-- The texts of a string and of a number are the same. -/
theorem transform_invert_repeated :
    let members : Members Value :=
      [("a", .str "x"), ("b", .str "1"), ("c", .str "x"), ("d", .int 1), ("e", .bool true)]
    let inverse : Value := .obj [("x", .str "c"), ("1", .str "d"), ("true", .str "e")]
    Object.invert.transform (some (.obj members)) (.value .null) = .ok inverse ∧
      Object.invert.transform (some inverse) (.value .null) =
        .ok (.obj [("c", .str "x"), ("d", .str "1"), ("e", .str "true")]) := by
  intro members inverse
  have hstored : stored? (some (.obj members)) = .ok members := rfl
  have hd : members.Distinct := show ["a", "b", "c", "d", "e"].Nodup by decide
  have hnames : ∀ m ∈ members, ¬Nameless m.2 := by
    intro m hm hnameless
    simp only [members, List.mem_cons, List.not_mem_nil, or_false] at hm
    rcases hm with rfl | rfl | rfl | rfl | rfl <;> nomatch hnameless
  have hone : nameOf (.int 1) = "1" := by decide +kernel
  have hlasts : lasts members = [("c", .str "x"), ("d", .int 1), ("e", .bool true)] := rfl
  obtain ⟨-, h⟩ := transform_invert hstored hd (.value .null) (.value .null)
  obtain ⟨hinverse, -, -, -, hagain, -⟩ := h hnames
  simp only [hlasts, List.map_cons, List.map_nil, hone] at hinverse hagain
  exact ⟨hinverse, hagain⟩

end Object
end Operator
end Amend
