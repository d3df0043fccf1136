/-
Places in a record.  A reading walk takes steps by names and by numbers, and two paths lead to one
place when they take the same steps.  The name of a member is spelled in one way only, the number
of an element in many, so that a place can have aliases.
-/
import Amend.Proofs.Path.Frame

namespace Amend
namespace Path

/-- The steps of a reading walk to something that is there. -/
def trail? : Value → List String → Option (List Step)
  | _, [] => some []
  | v, segment :: rest =>
    match stepOf? v segment, child? v segment with
    | some step, some w => (trail? w rest).map (step :: ·)
    | _, _ => none

/-- Whether two paths lead through the same names and numbers to one existing place. -/
def SamePlace (record : Record) (p q : String) : Prop :=
  ∃ steps, trail? (.obj record) (segments p) = some steps ∧
    trail? (.obj record) (segments q) = some steps

theorem trail?_cons_eq_some_iff {v : Value} {segment : String} {rest : List String}
    {steps : List Step} :
    trail? v (segment :: rest) = some steps ↔
      ∃ step w tail, stepOf? v segment = some step ∧ child? v segment = some w ∧
        trail? w rest = some tail ∧ steps = step :: tail := by
  rw [trail?]
  cases hs : stepOf? v segment with
  | none => simp
  | some step =>
    cases hc : child? v segment with
    | none => simp
    | some w =>
      constructor
      · intro h
        obtain ⟨tail, ht, he⟩ := Option.map_eq_some_iff.mp h
        exact ⟨step, w, tail, rfl, rfl, ht, he.symm⟩
      · rintro ⟨step', w', tail, hstep, hw, ht, rfl⟩
        rw [← Option.some.inj hstep, ← Option.some.inj hw] at *
        simp only [ht, Option.map_some]

theorem length_of_trail?_eq {v : Value} {walk : List String} {steps : List Step}
    (h : trail? v walk = some steps) : steps.length = walk.length := by
  induction walk generalizing v steps with
  | nil =>
    rw [← Option.some.inj h]
    rfl
  | cons segment rest ih =>
    obtain ⟨step, w, tail, -, -, ht, rfl⟩ := trail?_cons_eq_some_iff.mp h
    rw [List.length_cons, List.length_cons, ih ht]

/-- A place that a reading walk reaches can be written to. -/
theorem obstacle?_of_walk?_eq {v w : Value} {walk : List String} (h : walk? v walk = some w) :
    obstacle? v walk = none := by
  induction walk generalizing v with
  | nil => rfl
  | cons segment rest ih =>
    cases rest with
    | nil =>
      obtain ⟨u, hu, -⟩ := Option.bind_eq_some_iff.mp h
      exact slotFault?_eq_none_iff.mpr (hasSlot_of_child?_eq hu)
    | cons next rest =>
      have hc : child? v segment = some (entered v segment) := child?_eq_entered h
      have hslot : HasSlot v segment := hasSlot_of_child?_eq hc
      rw [← walk?_entered hslot] at h
      rw [obstacle?_cons_cons, ih h, Option.or_none]
      exact slotFault?_eq_none_iff.mpr hslot

/-- A plain field name is the only path to its field. -/
theorem eq_of_samePlace_of_not_dotted {record : Record} {p q : String}
    (h : SamePlace record q p) (hq : isDotted q = false) : p = q := by
  obtain ⟨steps, hqs, hps⟩ := h
  rw [segments_of_not_dotted hq] at hqs
  have hlength := (length_of_trail?_eq hps).symm.trans (length_of_trail?_eq hqs)
  apply segments_injective
  rw [segments_of_not_dotted hq]
  obtain ⟨s, hs⟩ := List.length_eq_one_iff.mp hlength
  rw [hs] at hps ⊢
  obtain ⟨step, _, tail, hstep, -, -, he⟩ := trail?_cons_eq_some_iff.mp hps
  obtain ⟨step', _, tail', hstep', -, -, he'⟩ := trail?_cons_eq_some_iff.mp hqs
  rw [(List.cons.inj (he.symm.trans he')).1, ← hstep', stepOf?, stepOf?, Option.some.injEq,
    Step.member.injEq] at hstep
  rw [hstep]

/-! ## Aliases -/

/-- Two paths that lead to one place of some record.  They start with one name, are equally long
and never part for good, so that they differ at most in how they spell numbers. -/
def Aliases (p q : String) : Prop :=
  (segments p).head? = (segments q).head? ∧ (segments p).length = (segments q).length ∧
    ¬ Apart p q

theorem not_walksApart_of_trail?_eq {v : Value} {p q : List String} {steps : List Step}
    (hp : trail? v p = some steps) (hq : trail? v q = some steps) : ¬ WalksApart p q := by
  induction p generalizing v q steps with
  | nil => exact fun h => h.ne_nil.1 rfl
  | cons s p ih =>
    cases q with
    | nil => exact fun h => h.ne_nil.2 rfl
    | cons t q =>
      obtain ⟨step, w, tail, hs, hw, hp', rfl⟩ := trail?_cons_eq_some_iff.mp hp
      obtain ⟨step', w', tail', ht, hw', hq', he⟩ := trail?_cons_eq_some_iff.mp hq
      obtain ⟨rfl, rfl⟩ := List.cons.inj he
      have hst : stepOf? v s = stepOf? v t := hs.trans ht.symm
      have hww : w = w' := Option.some.inj (hw.symm.trans ((child?_eq_of_stepOf?_eq hst).trans hw'))
      rw [walksApart_cons_cons]
      rintro (ha | ha)
      · exact ha.stepOf?_ne (hasSlot_of_child?_eq hw) hst
      · exact ih hp' (hww ▸ hq') ha

theorem SamePlace.aliases {record : Record} {p q : String} (h : SamePlace record p q) :
    Aliases p q := by
  obtain ⟨steps, hp, hq⟩ := h
  refine ⟨?_, (length_of_trail?_eq hp).symm.trans (length_of_trail?_eq hq),
    not_walksApart_of_trail?_eq hp hq⟩
  cases hs : segments p with
  | nil => exact absurd hs (segments_ne_nil p)
  | cons s rest =>
    cases ht : segments q with
    | nil => exact absurd ht (segments_ne_nil q)
    | cons t rest' =>
      rw [hs] at hp
      rw [ht] at hq
      obtain ⟨step, _, tail, hstep, -, -, he⟩ := trail?_cons_eq_some_iff.mp hp
      obtain ⟨step', _, tail', hstep', -, -, he'⟩ := trail?_cons_eq_some_iff.mp hq
      rw [← (List.cons.inj (he.symm.trans he')).1, ← hstep] at hstep'
      exact congrArg some (Step.member.inj (Option.some.inj hstep')).symm

/-- A value with the number zero at the end of given steps. -/
def plant : List Step → Value
  | [] => .int 0
  | .member name :: rest => .obj [(name, plant rest)]
  | .element i :: rest => .arr (List.replicate i .null ++ [plant rest])

/-- A walk that takes given steps to the planted number. -/
def Arrives (walk : List String) (steps : List Step) : Prop :=
  trail? (plant steps) walk = some steps ∧ walk? (plant steps) walk = some (.int 0)

theorem Arrives.cons {segment : String} {step : Step} {rest : List String} {steps : List Step}
    (h : Arrives rest steps) (hs : stepOf? (plant (step :: steps)) segment = some step)
    (hc : child? (plant (step :: steps)) segment = some (plant steps)) :
    Arrives (segment :: rest) (step :: steps) := by
  refine ⟨trail?_cons_eq_some_iff.mpr ⟨step, plant steps, steps, hs, hc, h.1, rfl⟩, ?_⟩
  rw [walk?_cons, hc, Option.bind_some]
  exact h.2

theorem Arrives.member (name : String) {rest : List String} {steps : List Step}
    (h : Arrives rest steps) : Arrives (name :: rest) (.member name :: steps) :=
  h.cons rfl (Members.get?_cons_self name (plant steps) [])

theorem Arrives.element {segment : String} {i : Nat} {rest : List String} {steps : List Step}
    (hi : index? segment = some i) (h : Arrives rest steps) :
    Arrives (segment :: rest) (.element i :: steps) := by
  refine h.cons (stepOf?_arr hi) ?_
  rw [plant, child?_arr hi, List.getElem?_append_right (List.length_replicate ▸ Nat.le_refl i),
    List.length_replicate, Nat.sub_self, List.getElem?_cons_zero]

theorem exists_arrives {p q : List String} (hlength : p.length = q.length)
    (h : ¬ WalksApart p q) : ∃ steps, Arrives p steps ∧ Arrives q steps := by
  induction p generalizing q with
  | nil =>
    rw [List.eq_nil_of_length_eq_zero hlength.symm]
    exact ⟨[], ⟨rfl, rfl⟩, ⟨rfl, rfl⟩⟩
  | cons s p ih =>
    cases q with
    | nil => nomatch hlength
    | cons t q =>
      rw [walksApart_cons_cons, not_or] at h
      obtain ⟨steps, hp, hq⟩ := ih (Nat.succ.inj hlength) h.2
      by_cases hst : s = t
      · subst hst
        exact ⟨.member s :: steps, hp.member s, hq.member s⟩
      · by_cases hi : ∃ n, index? s = some n ∧ index? t = some n
        · obtain ⟨n, hs, ht⟩ := hi
          exact ⟨.element n :: steps, hp.element hs, hq.element ht⟩
        · exact absurd ⟨hst, hi⟩ h.1

/-- Aliases lead to one number of some record. -/
theorem Aliases.exists_number {p q : String} (h : Aliases p q) :
    ∃ base, SamePlace base p q ∧ get? base p = some (.int 0) := by
  obtain ⟨hhead, hlength, hapart⟩ := h
  unfold Apart at hapart
  unfold SamePlace get?
  cases hs : segments p with
  | nil => exact absurd hs (segments_ne_nil p)
  | cons s rest =>
    cases ht : segments q with
    | nil => exact absurd ht (segments_ne_nil q)
    | cons t rest' =>
      rw [hs, ht] at hhead hlength hapart
      rw [← Option.some.inj hhead] at hapart ⊢
      rw [walksApart_cons_cons, not_or] at hapart
      obtain ⟨steps, hp, hq⟩ := exists_arrives (Nat.succ.inj hlength) hapart.2
      exact ⟨[(s, plant steps)], ⟨.member s :: steps, (hp.member s).1, (hq.member s).1⟩,
        (hp.member s).2⟩

/-- Exactly the aliases lead to one place of some record. -/
theorem exists_samePlace_iff {p q : String} : (∃ record, SamePlace record p q) ↔ Aliases p q := by
  constructor
  · rintro ⟨record, h⟩
    exact h.aliases
  · intro h
    obtain ⟨base, hbase, -⟩ := h.exists_number
    exact ⟨base, hbase⟩

end Path
end Amend
