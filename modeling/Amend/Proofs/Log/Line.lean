/-
The lines of a log.  A line is the text of one object, whose members are the event, the severity and
the fields in the order of their names.  No control character is left in it, so it ends where it is
ended.
-/
import Amend.Log
import Amend.Proofs.Json.Object
import Amend.Proofs.Sorting
import Mathlib.Data.List.Induction
import Mathlib.Data.String.Basic

namespace Amend

theorem Severity.name_injective : Function.Injective Severity.name := by
  intro s s'
  cases s <;> cases s' <;> decide

namespace Log
namespace Entry

/-! ## The order of the fields -/

variable {field : String × String} {fields sorted : List (String × String)}

theorem mem_insertField {m : String × String} :
    m ∈ insertField field sorted ↔ m = field ∨ m ∈ sorted := by
  induction sorted with
  | nil => simp [insertField]
  | cons f rest ih =>
    by_cases hlt : field.1 < f.1
    · simp [insertField, hlt]
    · simp only [insertField, if_neg hlt, List.mem_cons, ih]
      exact or_left_comm

theorem pairwise_insertField (field : String × String)
    (h : sorted.Pairwise fun v w => v.1 ≤ w.1) :
    (insertField field sorted).Pairwise fun v w => v.1 ≤ w.1 := by
  induction sorted with
  | nil => simp [insertField]
  | cons f rest ih =>
    obtain ⟨hf, hrest⟩ := List.pairwise_cons.mp h
    by_cases hlt : field.1 < f.1
    · rw [insertField, if_pos hlt, List.pairwise_cons]
      refine ⟨fun m hm => ?_, h⟩
      rcases List.mem_cons.mp hm with rfl | hm
      · exact hlt.le
      · exact hlt.le.trans (hf m hm)
    · rw [insertField, if_neg hlt, List.pairwise_cons]
      refine ⟨fun m hm => ?_, ih hrest⟩
      rcases mem_insertField.mp hm with rfl | hm
      · exact not_lt.mp hlt
      · exact hf m hm

/-- A field comes after those of its name. -/
theorem filter_insertField (field : String × String)
    (h : sorted.Pairwise fun v w => v.1 ≤ w.1) (k : String) :
    (insertField field sorted).filter (fun m => m.1 = k) =
      (sorted ++ [field]).filter fun m => m.1 = k := by
  induction sorted with
  | nil => rfl
  | cons f rest ih =>
    obtain ⟨hf, hrest⟩ := List.pairwise_cons.mp h
    by_cases hlt : field.1 < f.1
    · rw [insertField, if_pos hlt]
      by_cases hk : field.1 = k
      · -- Everything that it is put before has a greater name.
        have hnone : (f :: rest).filter (fun m => m.1 = k) = [] := by
          refine List.filter_eq_nil_iff.mpr fun m hm => ?_
          rcases List.mem_cons.mp hm with rfl | hm
          · simpa [hk] using hlt.ne'
          · simpa [hk] using (hlt.trans_le (hf m hm)).ne'
        rw [List.filter_append, hnone, List.filter_cons, hnone, List.filter_cons]
        rfl
      · simp [List.filter_cons, hk]
    · rw [insertField, if_neg hlt, List.cons_append, List.filter_cons, List.filter_cons, ih hrest]

theorem sortedFields_concat (fields : List (String × String)) (field : String × String) :
    sortedFields (fields ++ [field]) = insertField field (sortedFields fields) := by
  simp [sortedFields]

theorem pairwise_sortedFields (fields : List (String × String)) :
    (sortedFields fields).Pairwise fun v w => v.1 ≤ w.1 := by
  induction fields using List.reverseRecOn with
  | nil => exact .nil
  | append_singleton fields field ih =>
    rw [sortedFields_concat]
    exact pairwise_insertField field ih

theorem sortedFields_eq (fields : List (String × String)) :
    sortedFields fields = sortedBy Prod.fst fields := by
  refine eq_sortedBy (pairwise_sortedFields fields) fun k => ?_
  induction fields using List.reverseRecOn with
  | nil => rfl
  | append_singleton fields field ih =>
    rw [sortedFields_concat, filter_insertField field (pairwise_sortedFields fields),
      List.filter_append, ih, List.filter_append]

/-! ## The text of a line -/

theorem spells_escapeChar (c : Char) {body text : List Char} (h : Json.Spells body text) :
    Json.Spells (escapeChar c ++ body) (c :: text) := by
  unfold escapeChar
  split_ifs with hquote hbackslash hn hr ht hcontrol
  · exact .letter (by rw [hquote]; rfl) h
  · exact .letter (by rw [hbackslash]; rfl) h
  · exact .letter (by rw [hn]; rfl) h
  · exact .letter (by rw [hr]; rfl) h
  · exact .letter (by rw [ht]; rfl) h
  · simp only [Unicode.isControl, Bool.or_eq_true, decide_eq_true_eq] at hcontrol
    exact Json.spells_unicodeEscape (by omega) h
  · simp only [Unicode.isControl, Bool.or_eq_true, decide_eq_true_eq] at hcontrol
    exact .plain (by omega) hquote hbackslash h

theorem isControl_hexDigit : ∀ n < 16, Unicode.isControl (Json.hexDigit n) = false := by decide

theorem isControl_escapeChar (c : Char) : ∀ d ∈ escapeChar c, Unicode.isControl d = false := by
  have hdigit : ∀ n, Unicode.isControl (Json.hexDigit (n % 16)) = false := fun n =>
    isControl_hexDigit _ (Nat.mod_lt n (by decide))
  unfold escapeChar
  split_ifs with hquote hbackslash hn hr ht hcontrol
  · simp [Unicode.isControl]
  · simp [Unicode.isControl]
  · simp [Unicode.isControl]
  · simp [Unicode.isControl]
  · simp [Unicode.isControl]
  · have hstart : Unicode.isControl '\\' = false ∧ Unicode.isControl 'u' = false := by decide
    simpa [Json.unicodeEscape, hdigit] using hstart
  · simpa using hcontrol

/-- A text as it stands between its quotes. -/
def escaped (s : String) : List Char := s.toList.flatMap escapeChar

theorem spells_escaped (s : String) : Json.Spells (escaped s) s.toList :=
  Json.spells_flatMap spells_escapeChar s.toList

theorem isControl_escaped {s : String} {c : Char} (h : c ∈ escaped s) :
    Unicode.isControl c = false := by
  obtain ⟨d, -, hc⟩ := List.mem_flatMap.mp h
  exact isControl_escapeChar d c hc

theorem toList_quote (s : String) : (quote s).toList = '"' :: (escaped s ++ ['"']) := by
  simp [quote, escaped]

theorem toList_memberText (name value : String) : (memberText name value).toList =
    '"' :: (escaped name ++ '"' :: ':' :: '"' :: (escaped value ++ ['"'])) := by
  simp [memberText, toList_quote]

/-- What stands between the braces of a line. -/
def inner (members : List (String × String)) : List Char :=
  [','].intercalate (members.map fun m => (memberText m.1 m.2).toList)

theorem inner_singleton (m : String × String) : inner [m] = (memberText m.1 m.2).toList := by
  simp [inner]

theorem inner_cons_cons (m m' : String × String) (members : List (String × String)) :
    inner (m :: m' :: members) = (memberText m.1 m.2).toList ++ ',' :: inner (m' :: members) := by
  simp [inner, List.intercalate_cons_cons]

theorem toList_line (e : Entry) : e.line.toList = '\x7b' :: (inner e.members ++ ['\x7d']) := by
  simp [line, inner, String.toList_intercalate, Function.comp_def]

theorem spells_memberText (m : String × String) :
    Json.SpellsMember (memberText m.1 m.2).toList m := by
  rw [toList_memberText]
  exact .mk (spells_escaped m.1) (spells_escaped m.2)

theorem spells_inner (m : String × String) (members : List (String × String)) :
    Json.SpellsMembers (inner (m :: members) ++ ['\x7d']) (m :: members) := by
  induction members generalizing m with
  | nil =>
    rw [inner_singleton]
    exact .last (spells_memberText m)
  | cons m' members ih =>
    rw [inner_cons_cons, List.append_assoc, List.cons_append]
    exact .more (spells_memberText m) (ih m')

theorem isControl_memberText {name value : String} {c : Char}
    (h : c ∈ (memberText name value).toList) : Unicode.isControl c = false := by
  rw [toList_memberText] at h
  simp only [List.mem_cons, List.mem_append, List.not_mem_nil, or_false] at h
  rcases h with rfl | h | rfl | rfl | rfl | h | rfl
  · decide
  · exact isControl_escaped h
  · decide
  · decide
  · decide
  · exact isControl_escaped h
  · decide

theorem isControl_inner {members : List (String × String)} {c : Char} (h : c ∈ inner members) :
    Unicode.isControl c = false := by
  induction members with
  | nil => nomatch h
  | cons m members ih =>
    cases members with
    | nil => exact isControl_memberText (inner_singleton m ▸ h)
    | cons m' members =>
      rw [inner_cons_cons, List.mem_append, List.mem_cons] at h
      rcases h with h | rfl | h
      · exact isControl_memberText h
      · decide
      · exact ih h

theorem isControl_line {e : Entry} {c : Char} (h : c ∈ e.line.toList) :
    Unicode.isControl c = false := by
  rw [toList_line, List.mem_cons, List.mem_append, List.mem_singleton] at h
  rcases h with rfl | h | rfl
  · decide
  · exact isControl_inner h
  · decide

theorem members_eq (e : Entry) : e.members =
    ("event", e.event) :: ("severity", e.severity.name) :: sortedBy Prod.fst e.fields := by
  rw [members, sortedFields_eq]

theorem spells_line (e : Entry) : Json.SpellsObject e.line.toList e.members := by
  rw [toList_line]
  exact .members (spells_inner _ _)

theorem members_of_line {e e' : Entry} (h : e.line = e'.line) : e.members = e'.members :=
  (h ▸ spells_line e).unique (spells_line e')

theorem toList_ended (line : String) : (ended line).toList = line.toList ++ ['\n'] := by
  simp [ended]

theorem parseMembers?_line (e : Entry) :
    Json.parseMembers? (fun _ => false) (ended e.line) = some (e.members.map Json.textMember) := by
  have hended : ended e.line = String.ofList (e.line.toList ++ ['\n']) := by
    rw [← toList_ended, String.ofList_toList]
  have hblank : ∀ c ∈ ['\n'], Json.isBlank c = true := by simp [Json.isBlank]
  rw [hended]
  exact Json.parseMembers?_of_spells (fun _ => rfl) (spells_line e) hblank

/-- A line with its end is one object, and it tells the event, the severity and the sorted fields of
its entry, and nothing else about it. -/
theorem line_faithful (e : Entry) :
    (∃ object, (ended e.line).toList = object ++ ['\n'] ∧
      (∀ c ∈ object, Unicode.isControl c = false) ∧
      ∀ members, Json.SpellsObject object members ↔ members =
        ("event", e.event) :: ("severity", e.severity.name) :: sortedBy Prod.fst e.fields) ∧
    Json.parseMembers? (fun _ => false) (ended e.line) =
      some (("event", .str e.event) :: ("severity", .str e.severity.name) ::
        (sortedBy Prod.fst e.fields).map fun field => (field.1, .str field.2)) ∧
    (∀ e' : Entry, e'.line = e.line → e'.event = e.event ∧ e'.severity = e.severity ∧
      sortedBy Prod.fst e'.fields = sortedBy Prod.fst e.fields) ∧
    ∀ fields, (fields.map Prod.fst).Nodup → fields.Perm e.fields →
      (⟨e.severity, e.event, fields⟩ : Entry).line = e.line := by
  refine ⟨⟨e.line.toList, toList_ended _, fun c => isControl_line, fun members => ?_⟩, ?_, ?_, ?_⟩
  · rw [← members_eq]
    constructor
    · intro h
      exact h.unique (spells_line e)
    · rintro rfl
      exact spells_line e
  · rw [parseMembers?_line, members_eq]
    rfl
  · intro e' h
    have hmembers := members_of_line h
    simp only [members_eq, List.cons.injEq, Prod.mk.injEq, true_and] at hmembers
    obtain ⟨hevent, hseverity, hfields⟩ := hmembers
    exact ⟨hevent, Severity.name_injective hseverity, hfields⟩
  · intro fields hnodup hperm
    have hmembers : (⟨e.severity, e.event, fields⟩ : Entry).members = e.members := by
      rw [members_eq, members_eq, sortedBy_eq_of_perm hnodup hperm]
    rw [line, line, hmembers]

theorem line_faithful_swapped :
    let fields := [("z\n", "\\"), ("a", "\u0085")]
    let entry : Entry := ⟨.warn, "say \"hi\"", fields.reverse⟩
    (fields.map Prod.fst).Nodup ∧ fields.Perm entry.fields ∧
      (⟨entry.severity, entry.event, fields⟩ : Entry).line = entry.line ∧
      sortedBy Prod.fst fields = sortedBy Prod.fst entry.fields := by
  intro fields entry
  obtain ⟨-, -, hinjective, harranged⟩ := line_faithful entry
  have hnodup : (fields.map Prod.fst).Nodup := by decide
  have hperm : fields.Perm entry.fields := (List.reverse_perm fields).symm
  have hline := harranged fields hnodup hperm
  exact ⟨hnodup, hperm, hline, (hinjective _ hline).2.2⟩

example : (⟨.warn, "say \"hi\"", [("z\n", "\\"), ("a", "\u0085")]⟩ : Entry).line =
    "\x7b\"event\":\"say \\\"hi\\\"\",\"severity\":\"WARN\",\"a\":\"\\u0085\",\"z\\n\":\"\\\\\"\x7d" := by
  decide

end Entry
end Log
end Amend
