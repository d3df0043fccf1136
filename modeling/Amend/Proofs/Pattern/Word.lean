/-
The words of a pattern.  A pattern that asks nothing of the places it passes leads from one place to
another exactly if it spells the characters between them.  Between the two ends of a text such a
pattern decides whether the text is one of its words.
-/
import Amend.Proofs.Pattern.Reach

namespace Amend
namespace Pattern

/-- Whether a pattern asks nothing of places. -/
def Plain : Pattern → Prop
  | .empty => True
  | .chars _ _ => True
  | .assert _ => False
  | .seq first second => Plain first ∧ Plain second
  | .alt first second => Plain first ∧ Plain second
  | .rep body _ _ _ => Plain body
  | .group _ body => Plain body

instance decidablePlain : (pattern : Pattern) → Decidable (Plain pattern)
  | .empty => .isTrue trivial
  | .chars _ _ => .isTrue trivial
  | .assert _ => .isFalse id
  | .seq first second => @instDecidableAnd _ _ (decidablePlain first) (decidablePlain second)
  | .alt first second => @instDecidableAnd _ _ (decidablePlain first) (decidablePlain second)
  | .rep body _ _ _ => decidablePlain body
  | .group _ body => decidablePlain body

/-- Whether a word is one of a pattern's.  What a pattern asks of places is left out. -/
def Spells : Pattern → List Char → Prop
  | .empty, w => w = []
  | .chars set _, w => ∃ c, w = [c] ∧ set.contains c.toNat = true
  | .assert _, _ => False
  | .seq first second, w => ∃ u v, w = u ++ v ∧ Spells first u ∧ Spells second v
  | .alt first second, w => Spells first w ∨ Spells second w
  | .rep body least most _, w =>
    ∃ parts : List (List Char), w = parts.flatten ∧ (∀ u ∈ parts, Spells body u) ∧
      least ≤ parts.length ∧ ∀ m, most = some m → parts.length ≤ max least m
  | .group _ body, w => Spells body w

/-! ## Between two places -/

/-- Whether a word stands between two places. -/
def Passes (w : List Char) (p q : Place) : Prop :=
  p.after = w ++ q.after ∧ q.before = w.getLast?.or p.before

variable {p q r : Place} {u v w text : List Char} {pattern first second : Pattern}
  {parts : List (List Char)} {n : Nat}

theorem passes_nil_iff : Passes [] p q ↔ p = q :=
  ⟨fun h => Place.eq_of_sides h.2.symm h.1, fun h => h ▸ ⟨rfl, rfl⟩⟩

theorem passes_append_iff : Passes (u ++ v) p r ↔ ∃ q, Passes u p q ∧ Passes v q r := by
  unfold Passes
  rw [List.append_assoc, List.getLast?_append, Option.or_assoc]
  constructor
  · rintro ⟨hafter, hbefore⟩
    exact ⟨⟨u.getLast?.or p.before, v ++ r.after, _, rfl⟩, ⟨hafter, rfl⟩, rfl, hbefore⟩
  · rintro ⟨q, ⟨hafter, hbefore⟩, hafter', hbefore'⟩
    exact ⟨by rw [hafter, hafter'], by rw [hbefore', hbefore]⟩

/-- A chain of steps passes the words of its steps. -/
theorem steps_iff_parts (h : ∀ p q, Leads pattern p q ↔ ∃ w, Passes w p q ∧ Spells pattern w) :
    Steps (fun p q => Leads pattern p q) n p q ↔
      ∃ parts : List (List Char), parts.length = n ∧ (∀ u ∈ parts, Spells pattern u) ∧
        Passes parts.flatten p q := by
  induction n generalizing p with
  | zero =>
    constructor
    · exact fun hpq => ⟨[], rfl, nofun, passes_nil_iff.mpr hpq⟩
    · rintro ⟨parts, hlength, -, hpass⟩
      rw [List.eq_nil_of_length_eq_zero hlength] at hpass
      exact passes_nil_iff.mp hpass
  | succ n ih =>
    constructor
    · rintro ⟨r, hr, hrest⟩
      obtain ⟨u, hpass, hu⟩ := (h p r).mp hr
      obtain ⟨parts, hlength, hparts, hpass'⟩ := ih.mp hrest
      exact ⟨u :: parts, congrArg Nat.succ hlength, List.forall_mem_cons.mpr ⟨hu, hparts⟩,
        passes_append_iff.mpr ⟨r, hpass, hpass'⟩⟩
    · rintro ⟨parts, hlength, hparts, hpass⟩
      cases parts with
      | nil => nomatch hlength
      | cons u parts =>
        obtain ⟨hu, hparts⟩ := List.forall_mem_cons.mp hparts
        obtain ⟨r, hpass, hpass'⟩ := passes_append_iff.mp hpass
        exact ⟨r, (h p r).mpr ⟨u, hpass, hu⟩,
          ih.mpr ⟨parts, Nat.succ.inj hlength, hparts, hpass'⟩⟩

theorem leads_iff_spells (hplain : Plain pattern) (p q : Place) :
    Leads pattern p q ↔ ∃ w, Passes w p q ∧ Spells pattern w := by
  induction pattern generalizing p q with
  | empty =>
    exact ⟨fun h => ⟨[], passes_nil_iff.mpr h, rfl⟩, fun ⟨w, hpass, hw⟩ =>
      passes_nil_iff.mp ((show w = [] from hw) ▸ hpass)⟩
  | chars set _ =>
    refine step_eq_some_iff.trans ?_
    constructor
    · rintro ⟨c, hafter, hbefore, hc⟩
      exact ⟨[c], ⟨hafter, hbefore⟩, c, rfl, hc⟩
    · rintro ⟨w, hpass, c, rfl, hc⟩
      exact ⟨c, hpass.1, hpass.2, hc⟩
  | assert a => exact hplain.elim
  | seq first second ihf ihs =>
    constructor
    · rintro ⟨r, hpr, hrq⟩
      obtain ⟨u, hpass, hu⟩ := (ihf hplain.1 p r).mp hpr
      obtain ⟨v, hpass', hv⟩ := (ihs hplain.2 r q).mp hrq
      exact ⟨u ++ v, passes_append_iff.mpr ⟨r, hpass, hpass'⟩, u, v, rfl, hu, hv⟩
    · rintro ⟨w, hpass, u, v, rfl, hu, hv⟩
      obtain ⟨r, hpass, hpass'⟩ := passes_append_iff.mp hpass
      exact ⟨r, (ihf hplain.1 p r).mpr ⟨u, hpass, hu⟩, (ihs hplain.2 r q).mpr ⟨v, hpass', hv⟩⟩
  | alt first second ihf ihs =>
    refine (or_congr (ihf hplain.1 p q) (ihs hplain.2 p q)).trans ?_
    rw [← exists_or]
    exact exists_congr fun w => and_or_left.symm
  | rep body least most _ ih =>
    constructor
    · rintro ⟨n, hleast, hmost, hsteps⟩
      obtain ⟨parts, rfl, hparts, hpass⟩ := (steps_iff_parts (ih hplain)).mp hsteps
      exact ⟨parts.flatten, hpass, parts, rfl, hparts, hleast, hmost⟩
    · rintro ⟨w, hpass, parts, rfl, hparts, hleast, hmost⟩
      exact ⟨parts.length, hleast, hmost,
        (steps_iff_parts (ih hplain)).mpr ⟨parts, rfl, hparts, hpass⟩⟩
  | group numbered body ih => exact ih hplain p q

/-! ## Sequences -/

theorem seqAll_singleton (pattern : Pattern) : seqAll [pattern] = pattern := rfl

theorem leads_seqAll_cons_iff {rest : List Pattern} :
    Leads (seqAll (pattern :: rest)) p r ↔ ∃ q, Leads pattern p q ∧ Leads (seqAll rest) q r := by
  cases rest with
  | nil => exact ⟨fun h => ⟨r, h, rfl⟩, fun ⟨q, hq, hr⟩ => (show q = r from hr) ▸ hq⟩
  | cons next rest => exact Iff.rfl

theorem leads_seqAll_append_iff {before after : List Pattern} :
    Leads (seqAll (before ++ after)) p r ↔
      ∃ q, Leads (seqAll before) p q ∧ Leads (seqAll after) q r := by
  induction before generalizing p with
  | nil => exact ⟨fun h => ⟨p, rfl, h⟩, fun ⟨q, hq, hr⟩ => (show p = q from hq) ▸ hr⟩
  | cons pattern before ih =>
    rw [List.cons_append, leads_seqAll_cons_iff]
    simp only [ih, leads_seqAll_cons_iff]
    exact ⟨fun ⟨s, hs, q, hq, hr⟩ => ⟨q, ⟨s, hs, hq⟩, hr⟩,
      fun ⟨q, ⟨s, hs, hq⟩, hr⟩ => ⟨s, hs, q, hq, hr⟩⟩

/-- Between the two ends of a text only the words of a pattern match. -/
theorem isMatch_between_ends_iff (parts : List Pattern) (hplain : Plain (seqAll parts)) :
    (seqAll (.assert .textStart :: (parts ++ [.assert .textEnd]))).isMatch text = true ↔
      Spells (seqAll parts) text := by
  rw [isMatch_iff]
  simp only [leads_seqAll_cons_iff, leads_seqAll_append_iff]
  constructor
  · rintro ⟨p, q, ⟨passed, htext, hbefore⟩, first, ⟨hstart, hfirst⟩, last, hr, -, ⟨hend, -⟩, -⟩
    obtain ⟨w, ⟨hafter, -⟩, hw⟩ := (leads_iff_spells hplain p last).mp (hfirst ▸ hr)
    have hstart : p.before = none := Option.isNone_iff_eq_none.mp hstart
    have hend : last.after = [] := List.isEmpty_iff.mp hend
    rw [hbefore, List.getLast?_eq_none_iff] at hstart
    rw [htext, hstart, List.nil_append, hafter, hend, List.append_nil]
    exact hw
  · intro hw
    have hstart : Inside text ⟨none, text, text.length, rfl⟩ := ⟨[], rfl, rfl⟩
    have hpass : Passes text ⟨none, text, text.length, rfl⟩ ⟨text.getLast?, [], 0, rfl⟩ :=
      ⟨(List.append_nil text).symm, Option.or_none.symm⟩
    exact ⟨_, _, hstart, _, ⟨rfl, rfl⟩, _, (leads_iff_spells hplain _ _).mpr ⟨text, hpass, hw⟩, _,
      ⟨rfl, rfl⟩, rfl⟩

/-! ## Words of the common patterns -/

theorem spells_seqAll_cons_iff (pattern : Pattern) (rest : List Pattern) :
    Spells (seqAll (pattern :: rest)) w ↔
      ∃ u v, w = u ++ v ∧ Spells pattern u ∧ Spells (seqAll rest) v := by
  cases rest with
  | nil =>
    constructor
    · exact fun h => ⟨w, [], (List.append_nil w).symm, h, rfl⟩
    · rintro ⟨u, v, rfl, hu, hv⟩
      rw [show v = [] from hv, List.append_nil]
      exact hu
  | cons next rest => exact Iff.rfl

theorem spells_char_iff {c : Char} : Spells (char c) w ↔ w = [c] := by
  have hcontains : ∀ d : Char, (charRange c c).contains d.toNat = true ↔ d = c := by
    intro d
    simp only [charRange, Unicode.Ranges.contains, List.any_cons, List.any_nil, Bool.or_false,
      Bool.and_eq_true, decide_eq_true_iff, ← Char.toNat_inj]
    omega
  constructor
  · rintro ⟨d, rfl, hd⟩
    rw [(hcontains d).mp hd]
  · exact fun h => ⟨c, h, (hcontains c).mpr rfl⟩

theorem spells_char_cons_iff {c : Char} {rest : List Pattern} :
    Spells (seqAll (char c :: rest)) w ↔ ∃ v, w = c :: v ∧ Spells (seqAll rest) v := by
  rw [spells_seqAll_cons_iff]
  constructor
  · rintro ⟨u, v, rfl, hu, hv⟩
    rw [spells_char_iff.mp hu]
    exact ⟨v, rfl, hv⟩
  · rintro ⟨v, rfl, hv⟩
    exact ⟨[c], v, rfl, spells_char_iff.mpr rfl, hv⟩

/-- The characters of a set over and over. -/
theorem spells_rep_one_iff {set : Unicode.Ranges} {least : Nat} {most : Option Nat}
    {greedy : Bool} :
    Spells (.rep (.one set) least most greedy) w ↔
      (∀ c ∈ w, set.contains c.toNat = true) ∧ least ≤ w.length ∧
        ∀ m, most = some m → w.length ≤ max least m := by
  have hflatten : ∀ parts : List (List Char), (∀ u ∈ parts, Spells (.one set) u) →
      parts.flatten.length = parts.length ∧
        ∀ c ∈ parts.flatten, set.contains c.toNat = true := by
    intro parts hparts
    induction parts with
    | nil => exact ⟨rfl, nofun⟩
    | cons u parts ih =>
      obtain ⟨⟨c, rfl, hc⟩, hrest⟩ := List.forall_mem_cons.mp hparts
      obtain ⟨hlength, hall⟩ := ih hrest
      exact ⟨congrArg Nat.succ hlength, List.forall_mem_cons.mpr ⟨hc, hall⟩⟩
  constructor
  · rintro ⟨parts, rfl, hparts, hleast, hmost⟩
    obtain ⟨hlength, hall⟩ := hflatten parts hparts
    exact ⟨hall, hlength ▸ hleast, hlength ▸ hmost⟩
  · rintro ⟨hall, hleast, hmost⟩
    refine ⟨w.map fun c => [c], ?_, ?_, ?_, ?_⟩
    · rw [← List.flatMap_def, List.flatMap_singleton']
    · exact List.forall_mem_map.mpr fun c hc => ⟨c, rfl, hall c hc⟩
    · rw [List.length_map]
      exact hleast
    · rw [List.length_map]
      exact hmost

theorem spells_some1_one_iff {set : Unicode.Ranges} :
    Spells (some1 (.one set)) w ↔ w ≠ [] ∧ ∀ c ∈ w, set.contains c.toNat = true := by
  rw [some1, spells_rep_one_iff, Nat.one_le_iff_ne_zero, ne_eq, List.length_eq_zero_iff]
  exact ⟨fun ⟨hall, hne, _⟩ => ⟨hne, hall⟩, fun ⟨hne, hall⟩ => ⟨hall, hne, nofun⟩⟩

theorem spells_many_one_iff {set : Unicode.Ranges} :
    Spells (many (.one set)) w ↔ ∀ c ∈ w, set.contains c.toNat = true := by
  rw [many, spells_rep_one_iff]
  exact ⟨And.left, fun hall => ⟨hall, Nat.zero_le _, nofun⟩⟩

theorem spells_many_iff :
    Spells (many pattern) w ↔
      ∃ parts : List (List Char), w = parts.flatten ∧ ∀ u ∈ parts, Spells pattern u :=
  ⟨fun ⟨parts, hw, hparts, _⟩ => ⟨parts, hw, hparts⟩,
    fun ⟨parts, hw, hparts⟩ => ⟨parts, hw, hparts, Nat.zero_le _, nofun⟩⟩

theorem spells_optional_iff : Spells (optional pattern) w ↔ w = [] ∨ Spells pattern w := by
  constructor
  · rintro ⟨parts, rfl, hparts, -, hmost⟩
    cases parts with
    | nil => exact .inl rfl
    | cons u rest =>
      have hnil : rest = [] := List.eq_nil_of_length_eq_zero (Nat.le_zero.mp
        (Nat.succ_le_succ_iff.mp (hmost 1 rfl)))
      rw [hnil, List.flatten_cons, List.flatten_nil, List.append_nil]
      exact .inr (hparts u List.mem_cons_self)
  · rintro (rfl | hw)
    · exact ⟨[], rfl, nofun, Nat.zero_le _, fun m _ => Nat.zero_le _⟩
    · refine ⟨[w], (List.append_nil w).symm, List.forall_mem_singleton.mpr hw, Nat.zero_le _, ?_⟩
      rintro m hm
      obtain rfl := Option.some.inj hm
      exact Nat.le_refl 1

theorem spells_literal_iff {fixed : String} : Spells (literal fixed) w ↔ w = fixed.toList := by
  unfold literal
  generalize fixed.toList = cs
  induction cs generalizing w with
  | nil => exact Iff.rfl
  | cons c cs ih =>
    rw [List.map_cons, spells_char_cons_iff]
    simp only [ih]
    exact exists_eq_right

end Pattern
end Amend
