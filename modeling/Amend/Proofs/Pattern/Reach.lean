/-
Where a pattern leads.  The relation of places is read off the pattern alone, and the search for
places decides it.  The search drops places that it has met before and bounds the rounds of a
repetition.  Neither loses a place: a place of a text is known by what follows it, and a chain of
steps that stays where it is can be made shorter until every step moves on.
-/
import Amend.Pattern.Basic
import Mathlib.Logic.Basic

namespace Amend
namespace Pattern

/-- A number of steps one after the other. -/
def Steps {α : Type} (R : α → α → Prop) : Nat → α → α → Prop
  | 0, p, q => p = q
  | n + 1, p, r => ∃ q, R p q ∧ Steps R n q r

/-- Whether a pattern leads from one place to another.  A repetition is made at least `least` times,
and where that is not more than `most`, at most `most` times. -/
def Leads : Pattern → Place → Place → Prop
  | .empty, p, q => p = q
  | .chars set _, p, q => p.step set = some q
  | .assert a, p, q => a.holds p = true ∧ p = q
  | .seq first second, p, r => ∃ q, Leads first p q ∧ Leads second q r
  | .alt first second, p, q => Leads first p q ∨ Leads second p q
  | .rep body least most _, p, q =>
    ∃ n, least ≤ n ∧ (∀ m, most = some m → n ≤ max least m) ∧
      Steps (fun p q => Leads body p q) n p q
  | .group _ body, p, q => Leads body p q

/-! ## Steps -/

section

variable {α : Type} {R : α → α → Prop} {p q r : α} {m n : Nat}

theorem steps_add_iff : Steps R (m + n) p r ↔ ∃ q, Steps R m p q ∧ Steps R n q r := by
  induction m generalizing p with
  | zero =>
    rw [Nat.zero_add]
    exact ⟨fun h => ⟨p, rfl, h⟩, fun ⟨q, hq, h⟩ => hq ▸ h⟩
  | succ m ih =>
    rw [Nat.succ_add]
    constructor
    · rintro ⟨s, hs, h⟩
      obtain ⟨q, hq, hr⟩ := ih.mp h
      exact ⟨q, ⟨s, hs, hq⟩, hr⟩
    · rintro ⟨q, ⟨s, hs, hq⟩, hr⟩
      exact ⟨s, hs, ih.mpr ⟨q, hq, hr⟩⟩

theorem steps_succ_iff : Steps R (n + 1) p r ↔ ∃ q, Steps R n p q ∧ R q r := by
  rw [steps_add_iff]
  refine exists_congr fun q => and_congr_right fun _ => ?_
  exact ⟨fun ⟨s, hs, he⟩ => (show s = r from he) ▸ hs, fun h => ⟨r, h, rfl⟩⟩

end

/-! ## The places of a text -/

/-- Whether a place is one of a text. -/
def Inside (text : List Char) (p : Place) : Prop :=
  ∃ passed, text = passed ++ p.after ∧ p.before = passed.getLast?

variable {text : List Char} {p q : Place}

/-- The number of characters behind a place is no more than a note of it. -/
theorem Place.eq_of_sides (hbefore : p.before = q.before) (hafter : p.after = q.after) : p = q := by
  obtain ⟨before, after, left, hleft⟩ := p
  obtain ⟨before', after', left', hleft'⟩ := q
  simp only at hbefore hafter
  subst hbefore hafter hleft hleft'
  rfl

/-- Places of one text differ in what follows them. -/
theorem Inside.eq_of_left (hp : Inside text p) (hq : Inside text q) (h : p.left = q.left) :
    p = q := by
  obtain ⟨passed, htext, hbefore⟩ := hp
  obtain ⟨passed', htext', hbefore'⟩ := hq
  have hlength : p.after.length = q.after.length := by rw [← p.left_eq, h, q.left_eq]
  obtain ⟨hpassed, hafter⟩ := List.append_inj' (htext.symm.trans htext') hlength
  rw [← hpassed, ← hbefore] at hbefore'
  exact Place.eq_of_sides hbefore'.symm hafter

theorem step_eq_some_iff {set : Unicode.Ranges} :
    p.step set = some q ↔
      ∃ c, p.after = c :: q.after ∧ q.before = some c ∧ set.contains c.toNat = true := by
  obtain ⟨before, after, left, hleft⟩ := p
  obtain ⟨before', after', left', hleft'⟩ := q
  cases after with
  | nil => exact ⟨nofun, fun ⟨c, hc, _⟩ => nomatch hc⟩
  | cons c rest =>
    rw [Place.step]
    constructor
    · intro h
      split at h
      · next hc =>
        obtain ⟨rfl, rfl, -⟩ := Place.mk.inj (Option.some.inj h)
        exact ⟨c, rfl, rfl, hc⟩
      · nomatch h
    · rintro ⟨d, hd, hbefore, hc⟩
      obtain ⟨rfl, rfl⟩ := List.cons.inj hd
      obtain rfl : before' = some c := hbefore
      rw [if_pos hc, Option.some.injEq, Place.mk.injEq]
      refine ⟨rfl, rfl, ?_⟩
      rw [hleft, hleft']
      rfl

theorem mem_allFrom_iff {before : Option Char} :
    p ∈ Place.allFrom before text ↔
      ∃ passed, text = passed ++ p.after ∧ p.before = passed.getLast?.or before := by
  induction text generalizing before with
  | nil =>
    rw [Place.allFrom, List.mem_singleton]
    constructor
    · rintro rfl
      exact ⟨[], rfl, rfl⟩
    · rintro ⟨passed, htext, hbefore⟩
      obtain ⟨rfl, hafter⟩ := List.append_eq_nil_iff.mp htext.symm
      exact Place.eq_of_sides hbefore hafter
  | cons c cs ih =>
    have hlast : ∀ passed : List Char,
        (c :: passed).getLast?.or before = passed.getLast?.or (some c) := by
      intro passed
      rw [List.getLast?_cons]
      cases passed.getLast? <;> rfl
    rw [Place.allFrom, List.mem_cons, ih]
    constructor
    · rintro (rfl | ⟨passed, htext, hbefore⟩)
      · exact ⟨[], rfl, rfl⟩
      · exact ⟨c :: passed, by rw [htext, List.cons_append], by rw [hbefore, hlast]⟩
    · rintro ⟨passed, htext, hbefore⟩
      cases passed with
      | nil => exact .inl (Place.eq_of_sides hbefore htext.symm)
      | cons d passed =>
        obtain ⟨rfl, hrest⟩ := List.cons.inj htext
        exact .inr ⟨passed, hrest, by rw [hbefore, hlast]⟩

theorem mem_allFrom_none_iff : p ∈ Place.allFrom none text ↔ Inside text p := by
  simp only [mem_allFrom_iff, Option.or_none, Inside]

/-- A relation that leads from places of a text to places of the text, and never back. -/
structure Forward (text : List Char) (R : Place → Place → Prop) : Prop where
  inside : ∀ p q, R p q → Inside text p → Inside text q
  left_le : ∀ p q, R p q → q.left ≤ p.left

theorem forward_step (text : List Char) (set : Unicode.Ranges) :
    Forward text fun p q => p.step set = some q where
  inside p q h := by
    obtain ⟨c, hafter, hbefore, -⟩ := step_eq_some_iff.mp h
    rintro ⟨passed, htext, -⟩
    refine ⟨passed ++ [c], ?_, ?_⟩
    · rw [htext, hafter, List.append_assoc, List.singleton_append]
    · rw [hbefore, List.getLast?_append, List.getLast?_singleton, Option.some_or]
  left_le p q h := by
    obtain ⟨c, hafter, -⟩ := step_eq_some_iff.mp h
    rw [p.left_eq, q.left_eq, hafter, List.length_cons]
    exact Nat.le_succ _

variable {R : Place → Place → Prop} {n : Nat}

theorem Forward.steps (h : Forward text R) (n : Nat) : Forward text (Steps R n) := by
  induction n with
  | zero => exact ⟨fun p q hpq hp => hpq ▸ hp, fun p q hpq => hpq ▸ Nat.le_refl _⟩
  | succ n ih =>
    constructor
    · rintro p r ⟨q, hq, hr⟩ hp
      exact ih.inside q r hr (h.inside p q hq hp)
    · rintro p r ⟨q, hq, hr⟩
      exact Nat.le_trans (ih.left_le q r hr) (h.left_le p q hq)

theorem forward_leads (text : List Char) (pattern : Pattern) : Forward text (Leads pattern) := by
  induction pattern with
  | empty => exact ⟨fun p q hpq hp => hpq ▸ hp, fun p q hpq => hpq ▸ Nat.le_refl _⟩
  | chars set _ => exact forward_step text set
  | assert a => exact ⟨fun p q hpq hp => hpq.2 ▸ hp, fun p q hpq => hpq.2 ▸ Nat.le_refl _⟩
  | seq first second ihf ihs =>
    constructor
    · rintro p r ⟨q, hq, hr⟩ hp
      exact ihs.inside q r hr (ihf.inside p q hq hp)
    · rintro p r ⟨q, hq, hr⟩
      exact Nat.le_trans (ihs.left_le q r hr) (ihf.left_le p q hq)
  | alt first second ihf ihs =>
    exact ⟨fun p q h => h.elim (ihf.inside p q) (ihs.inside p q),
      fun p q h => h.elim (ihf.left_le p q) (ihs.left_le p q)⟩
  | rep body least most _ ih =>
    exact ⟨fun p q ⟨n, _, _, h⟩ => (ih.steps n).inside p q h,
      fun p q ⟨n, _, _, h⟩ => (ih.steps n).left_le p q h⟩
  | group numbered body ih => exact ih

/-- Without the steps that stay where they are, a chain has at most as many steps as there are
characters. -/
theorem Forward.shorten (h : Forward text R) (hp : Inside text p) (hsteps : Steps R n p q) :
    ∃ m ≤ n, m + q.left ≤ p.left ∧ Steps R m p q := by
  induction n generalizing p with
  | zero =>
    obtain rfl : p = q := hsteps
    exact ⟨0, Nat.le_refl _, Nat.le_of_eq (Nat.zero_add _), rfl⟩
  | succ n ih =>
    obtain ⟨r, hr, hrest⟩ := hsteps
    obtain ⟨m, hm, hleft, hmq⟩ := ih (h.inside p r hr hp) hrest
    by_cases hstay : p = r
    · exact ⟨m, Nat.le_succ_of_le hm, hstay ▸ hleft, hstay ▸ hmq⟩
    · have hle := h.left_le p r hr
      have hne : p.left ≠ r.left := fun heq => hstay (hp.eq_of_left (h.inside p r hr hp) heq)
      exact ⟨m + 1, Nat.succ_le_succ hm, by omega, r, hr, hmq⟩

/-! ## The search -/

/-- Whether a function finds the places to which a relation leads from the places of a text. -/
def Finds (text : List Char) (f : List Place → List Place) (R : Place → Place → Prop) : Prop :=
  ∀ places, (∀ p ∈ places, Inside text p) → ∀ q, q ∈ f places ↔ ∃ p ∈ places, R p q

variable {places found : List Place} {f : List Place → List Place}

theorem Forward.inside_of_finds (h : Forward text R) (hf : Finds text f R)
    (hplaces : ∀ p ∈ places, Inside text p) : ∀ q ∈ f places, Inside text q := by
  intro q hq
  obtain ⟨p, hp, hpq⟩ := (hf places hplaces q).mp hq
  exact h.inside p q hpq (hplaces p hp)

theorem known_iff (hplaces : ∀ p ∈ places, Inside text p) (hp : Inside text p) :
    known places p = true ↔ p ∈ places := by
  simp only [known, List.any_eq_true, beq_iff_eq]
  constructor
  · rintro ⟨q, hq, hleft⟩
    exact (hplaces q hq).eq_of_left hp hleft ▸ hq
  · exact fun h => ⟨p, h, rfl⟩

theorem mem_merge_iff (hplaces : ∀ p ∈ places, Inside text p)
    (hfound : ∀ p ∈ found, Inside text p) :
    q ∈ merge places found ↔ q ∈ places ∨ q ∈ found := by
  induction found generalizing places with
  | nil => exact ⟨.inl, fun h => h.resolve_right (List.not_mem_nil)⟩
  | cons p rest ih =>
    obtain ⟨hp, hrest⟩ := List.forall_mem_cons.mp hfound
    rw [merge]
    by_cases hknown : known places p = true
    · have hmem := (known_iff hplaces hp).mp hknown
      rw [if_pos hknown, ih hplaces hrest, List.mem_cons]
      exact ⟨fun h => h.imp_right .inr, fun h => h.elim .inl fun h =>
        h.elim (fun h => .inl (h ▸ hmem)) .inr⟩
    · have hinside : ∀ r ∈ places ++ [p], Inside text r :=
        List.forall_mem_append.mpr ⟨hplaces, List.forall_mem_singleton.mpr hp⟩
      rw [if_neg hknown, ih hinside hrest, List.mem_append, List.mem_singleton, List.mem_cons,
        or_assoc]

theorem Finds.times (hf : Finds text f R) (hR : Forward text R) (n : Nat) :
    Finds text (times f n) (Steps R n) := by
  induction n with
  | zero =>
    intro places _ q
    exact ⟨fun h => ⟨q, h, rfl⟩, fun ⟨p, hp, hpq⟩ => hpq ▸ hp⟩
  | succ n ih =>
    intro places hplaces r
    rw [Pattern.times]
    by_cases hempty : places.isEmpty = true
    · rw [if_pos hempty, List.isEmpty_iff.mp hempty]
      exact iff_of_false List.not_mem_nil fun ⟨p, hp, _⟩ => List.not_mem_nil hp
    · rw [if_neg hempty, ih (f places) (hR.inside_of_finds hf hplaces)]
      constructor
      · rintro ⟨q, hq, hr⟩
        obtain ⟨p, hp, hpq⟩ := (hf places hplaces q).mp hq
        exact ⟨p, hp, q, hpq, hr⟩
      · rintro ⟨p, hp, q, hpq, hr⟩
        exact ⟨q, (hf places hplaces q).mpr ⟨p, hp, hpq⟩, hr⟩

/-- Whether a place can be reached from one of some others in at most `n` steps. -/
def Within (R : Place → Place → Prop) (n : Nat) (start : List Place) (q : Place) : Prop :=
  ∃ p ∈ start, ∃ m ≤ n, Steps R m p q

/-- What holds between the rounds of the search: `k` steps have been made, and only from the fresh
places nothing has been tried yet. -/
structure Searched (text : List Char) (R : Place → Place → Prop) (start : List Place) (k : Nat)
    (reached fresh : List Place) : Prop where
  start_inside : ∀ p ∈ start, Inside text p
  mem_iff : ∀ q, q ∈ reached ↔ Within R k start q
  fresh_sub : ∀ q ∈ fresh, q ∈ reached
  tried : ∀ q ∈ reached, q ∉ fresh → ∀ r, R q r → r ∈ reached

variable {start reached fresh : List Place} {k : Nat}

theorem Searched.inside (h : Searched text R start k reached fresh) (hR : Forward text R) :
    ∀ q ∈ reached, Inside text q := by
  intro q hq
  obtain ⟨p, hp, m, -, hsteps⟩ := (h.mem_iff q).mp hq
  exact (hR.steps m).inside p q hsteps (h.start_inside p hp)

theorem searched_start (hstart : ∀ p ∈ start, Inside text p) :
    Searched text R start 0 start start where
  start_inside := hstart
  mem_iff q := by
    constructor
    · exact fun h => ⟨q, h, 0, Nat.le_refl 0, rfl⟩
    · rintro ⟨p, hp, m, hm, hsteps⟩
      obtain rfl := Nat.le_zero.mp hm
      exact (show p = q from hsteps) ▸ hp
  fresh_sub _ h := h
  tried _ h hfresh := absurd h hfresh

/-- The places that a round adds. -/
theorem Searched.mem_next_iff (h : Searched text R start k reached fresh) (hR : Forward text R)
    (hf : Finds text f R) :
    q ∈ (f fresh).filter (!known reached ·) ↔ (∃ p ∈ fresh, R p q) ∧ q ∉ reached := by
  have hinside := h.inside hR
  have hfresh : ∀ p ∈ fresh, Inside text p := fun p hp => hinside p (h.fresh_sub p hp)
  rw [List.mem_filter, hf fresh hfresh]
  refine and_congr_right fun ⟨p, hp, hpq⟩ => ?_
  rw [Bool.not_eq_true', ← Bool.not_eq_true,
    known_iff hinside (hR.inside p q hpq (hfresh p hp))]

/-- A round makes one more step. -/
theorem Searched.next (h : Searched text R start k reached fresh) (hR : Forward text R)
    (hf : Finds text f R) :
    Searched text R start (k + 1) (reached ++ (f fresh).filter (!known reached ·))
      ((f fresh).filter (!known reached ·)) where
  start_inside := h.start_inside
  mem_iff r := by
    rw [List.mem_append, h.mem_next_iff hR hf]
    constructor
    · rintro (hr | ⟨⟨q, hq, hqr⟩, -⟩)
      · obtain ⟨p, hp, m, hm, hsteps⟩ := (h.mem_iff r).mp hr
        exact ⟨p, hp, m, Nat.le_succ_of_le hm, hsteps⟩
      · obtain ⟨p, hp, m, hm, hsteps⟩ := (h.mem_iff q).mp (h.fresh_sub q hq)
        exact ⟨p, hp, m + 1, Nat.succ_le_succ hm, steps_succ_iff.mpr ⟨q, hsteps, hqr⟩⟩
    · rintro ⟨p, hp, m, hm, hsteps⟩
      by_cases hr : r ∈ reached
      · exact .inl hr
      · refine .inr ⟨?_, hr⟩
        -- All shorter chains end among the places reached, so this one has a last step.
        obtain rfl : m = k + 1 := by
          refine Nat.le_antisymm hm (Nat.not_le.mp fun hmk => hr ?_)
          exact (h.mem_iff r).mpr ⟨p, hp, m, hmk, hsteps⟩
        obtain ⟨q, hq, hqr⟩ := steps_succ_iff.mp hsteps
        have hqreached : q ∈ reached := (h.mem_iff q).mpr ⟨p, hp, k, Nat.le_refl k, hq⟩
        exact ⟨q, Classical.byContradiction fun hfresh =>
          hr (h.tried q hqreached hfresh r hqr), hqr⟩
  fresh_sub _ hq := List.mem_append_right _ hq
  tried q hq hnext r hqr := by
    have hqreached := (List.mem_append.mp hq).resolve_right hnext
    by_cases hr : r ∈ reached
    · exact List.mem_append_left _ hr
    · refine List.mem_append_right _ ((h.mem_next_iff hR hf).mpr ⟨⟨q, ?_, hqr⟩, hr⟩)
      exact Classical.byContradiction fun hfresh => hr (h.tried q hqreached hfresh r hqr)

/-- Once a round adds nothing, no number of steps does. -/
theorem Searched.mem_of_within (h : Searched text R start k reached fresh) (hR : Forward text R)
    (hf : Finds text f R) (hempty : (f fresh).filter (!known reached ·) = [])
    (hq : Within R n start q) : q ∈ reached := by
  have hclosed : ∀ q ∈ reached, ∀ r, R q r → r ∈ reached := by
    intro q hq r hqr
    by_cases hr : r ∈ reached
    · exact hr
    have hfresh : q ∈ fresh :=
      Classical.byContradiction fun hfresh => hr (h.tried q hq hfresh r hqr)
    have hnext := (h.mem_next_iff hR hf).mpr ⟨⟨q, hfresh, hqr⟩, hr⟩
    rw [hempty] at hnext
    exact absurd hnext List.not_mem_nil
  obtain ⟨p, hp, m, -, hsteps⟩ := hq
  have hpreached : p ∈ reached := (h.mem_iff p).mpr ⟨p, hp, 0, Nat.zero_le k, rfl⟩
  induction m generalizing q with
  | zero => exact (show p = q from hsteps) ▸ hpreached
  | succ m ih =>
    obtain ⟨r, hr, hrq⟩ := steps_succ_iff.mp hsteps
    exact hclosed r (ih hr) q hrq

theorem Searched.mem_spread_iff (h : Searched text R start k reached fresh) (hR : Forward text R)
    (hf : Finds text f R) (n : Nat) :
    q ∈ spread f n reached fresh ↔ Within R (k + n) start q := by
  induction n generalizing k reached fresh with
  | zero => exact h.mem_iff q
  | succ n ih =>
    rw [spread]
    by_cases hempty : ((f fresh).filter (!known reached ·)).isEmpty = true
    · simp only [hempty, if_true]
      constructor
      · intro hq
        obtain ⟨p, hp, m, hm, hsteps⟩ := (h.mem_iff q).mp hq
        exact ⟨p, hp, m, Nat.le_trans hm (Nat.le_add_right _ _), hsteps⟩
      · exact h.mem_of_within hR hf (List.isEmpty_iff.mp hempty)
    · simp only [hempty, if_false, Bool.false_eq_true]
      rw [ih (h.next hR hf), Nat.add_assoc, Nat.add_comm 1 n]

theorem left_lt_roundsFor (hp : p ∈ places) : p.left < roundsFor places := by
  have hfold : ∀ n, n ≤ places.foldl (fun n p => max n (p.left + 2)) n ∧
      (p ∈ places → p.left < places.foldl (fun n p => max n (p.left + 2)) n) := by
    clear hp
    induction places with
    | nil => exact fun n => ⟨Nat.le_refl n, nofun⟩
    | cons r rest ih =>
      intro n
      obtain ⟨hle, hmem⟩ := ih (max n (r.left + 2))
      rw [List.foldl_cons]
      refine ⟨Nat.le_trans (Nat.le_max_left _ _) hle, fun hp => ?_⟩
      rcases List.mem_cons.mp hp with rfl | hp
      · exact Nat.lt_of_lt_of_le (by omega) hle
      · exact hmem hp
  exact (hfold 0).2 hp

/-- The rounds of a repetition are enough for as many steps as it may still make. -/
theorem Finds.repeated (hf : Finds text f R) (hR : Forward text R) (least : Nat)
    (most : Option Nat) (hplaces : ∀ p ∈ places, Inside text p) {rounds : Nat}
    (hrounds : ∀ m, m ≤ rounds ↔ m ≤ roundsFor (Pattern.times f least places) ∧
      ∀ most', most = some most' → m ≤ most' - least) :
    q ∈ spread f rounds (Pattern.times f least places) (Pattern.times f least places) ↔
      ∃ p ∈ places, ∃ n, least ≤ n ∧ (∀ m, most = some m → n ≤ max least m) ∧ Steps R n p q := by
  have htimes := hf.times hR least
  have hstart := (hR.steps least).inside_of_finds htimes hplaces
  rw [(searched_start hstart).mem_spread_iff hR hf, Nat.zero_add]
  constructor
  · rintro ⟨s, hs, m, hm, hsq⟩
    obtain ⟨p, hp, hps⟩ := (htimes places hplaces s).mp hs
    refine ⟨p, hp, least + m, Nat.le_add_right _ _, fun most' hmost => ?_,
      steps_add_iff.mpr ⟨s, hps, hsq⟩⟩
    have hle := ((hrounds m).mp hm).2 most' hmost
    omega
  · rintro ⟨p, hp, n, hn, hmost, hpq⟩
    obtain ⟨k, rfl⟩ := Nat.exists_eq_add_of_le hn
    obtain ⟨s, hps, hsq⟩ := steps_add_iff.mp hpq
    have hs := (htimes places hplaces s).mpr ⟨p, hp, hps⟩
    obtain ⟨m, hm, hleft, hshort⟩ := hR.shorten (hstart s hs) hsq
    refine ⟨s, hs, m, (hrounds m).mpr ⟨?_, fun most' h => ?_⟩, hshort⟩
    · have hlt := left_lt_roundsFor hs
      omega
    · have hle := hmost most' h
      omega

/-- The places to which a pattern leads are those that the search finds. -/
theorem finds_reach (text : List Char) (pattern : Pattern) :
    Finds text (fun places => reach pattern places) (Leads pattern) := by
  induction pattern with
  | empty => exact fun places _ q => ⟨fun h => ⟨q, h, rfl⟩, fun ⟨p, hp, hpq⟩ => hpq ▸ hp⟩
  | chars set _ => exact fun places _ q => List.mem_filterMap
  | assert a =>
    intro places _ q
    simp only [reach, List.mem_filter]
    exact ⟨fun h => ⟨q, h.1, h.2, rfl⟩, fun ⟨p, hp, ha, hpq⟩ => hpq ▸ ⟨hp, ha⟩⟩
  | seq first second ihf ihs =>
    intro places hplaces r
    have hinside := (forward_leads text first).inside_of_finds ihf hplaces
    simp only [reach]
    rw [ihs _ hinside]
    constructor
    · rintro ⟨q, hq, hqr⟩
      obtain ⟨p, hp, hpq⟩ := (ihf places hplaces q).mp hq
      exact ⟨p, hp, q, hpq, hqr⟩
    · rintro ⟨p, hp, q, hpq, hqr⟩
      exact ⟨q, (ihf places hplaces q).mpr ⟨p, hp, hpq⟩, hqr⟩
  | alt first second ihf ihs =>
    intro places hplaces q
    simp only [reach]
    rw [mem_merge_iff ((forward_leads text first).inside_of_finds ihf hplaces)
      ((forward_leads text second).inside_of_finds ihs hplaces), ihf places hplaces,
      ihs places hplaces, ← exists_or]
    exact exists_congr fun p => and_or_left.symm
  | rep body least most _ ih =>
    intro places hplaces q
    refine ih.repeated (forward_leads text body) least most hplaces fun m => ?_
    cases most with
    | none => exact ⟨fun h => ⟨h, nofun⟩, And.left⟩
    | some most =>
      simp only [Option.some.injEq, forall_eq']
      rw [Nat.le_min, and_comm]
  | group numbered body ih => exact ih

/-- A pattern matches a text exactly if it leads anywhere from one of the text's places. -/
theorem isMatch_iff {pattern : Pattern} :
    pattern.isMatch text = true ↔ ∃ p q, Inside text p ∧ Leads pattern p q := by
  have hfinds := finds_reach text pattern (Place.allFrom none text)
    fun p hp => mem_allFrom_none_iff.mp hp
  have hmatch : pattern.isMatch text = true ↔ ∃ q, q ∈ reach pattern (Place.allFrom none text) := by
    rw [isMatch, Bool.not_eq_true', List.isEmpty_eq_false_iff_exists_mem]
  simp only [hmatch, hfinds, mem_allFrom_none_iff]
  exact exists_comm

end Pattern
end Amend
