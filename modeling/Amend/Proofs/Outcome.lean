/-
Steps that can fail.  A chain of steps gives a result exactly if each of its steps does.  Two
chains whose steps succeed or fail together, with related results, do so as wholes.
-/
import Mathlib.Data.List.Forall2

namespace Amend

variable {ε α β : Type}

theorem bind_eq_ok_iff {result : Except ε α} {f : α → Except ε β} {b : β} :
    result >>= f = .ok b ↔ ∃ a, result = .ok a ∧ f a = .ok b := by
  cases result with
  | error e =>
    constructor
    · exact fun h => nomatch h
    · rintro ⟨a, ha, -⟩
      nomatch ha
  | ok a =>
    constructor
    · exact fun h => ⟨a, rfl, h⟩
    · rintro ⟨a', ha', h⟩
      rw [Except.ok.inj ha']
      exact h

theorem bind_ok_eq_map (step : Except ε α) (f : α → β) :
    (step >>= fun a => .ok (f a)) = step.map f := by
  cases step with
  | error e => rfl
  | ok a => rfl

/-- Whether a step gives a result. -/
def Succeeds (step : Except ε α) : Prop := ∃ a, step = .ok a

theorem succeeds_ok (a : α) : Succeeds (.ok a : Except ε α) := ⟨a, rfl⟩

theorem not_succeeds_error (e : ε) : ¬Succeeds (.error e : Except ε α) := by
  rintro ⟨a, ha⟩
  nomatch ha

theorem succeeds_bind_iff {step : Except ε α} {next : α → Except ε β} :
    Succeeds (step >>= next) ↔ ∃ a, step = .ok a ∧ Succeeds (next a) := by
  constructor
  · rintro ⟨b, hb⟩
    obtain ⟨a, ha, hnext⟩ := bind_eq_ok_iff.mp hb
    exact ⟨a, ha, b, hnext⟩
  · rintro ⟨a, ha, b, hnext⟩
    exact ⟨b, bind_eq_ok_iff.mpr ⟨a, ha, hnext⟩⟩

theorem succeeds_map_iff {step : Except ε α} {f : α → β} :
    Succeeds (do .ok (f (← step)) : Except ε β) ↔ Succeeds step := by
  rw [succeeds_bind_iff]
  exact ⟨fun ⟨a, ha, _⟩ => ⟨a, ha⟩, fun ⟨a, ha⟩ => ⟨a, ha, succeeds_ok _⟩⟩

/-- Steps that all succeed give the list of their results. -/
theorem mapM_eq_ok {f : α → Except ε β} {items : List α} {results : List β}
    (h : List.Forall₂ (fun a b => f a = .ok b) items results) : items.mapM f = .ok results := by
  induction h with
  | nil => rfl
  | cons h _ ih =>
    rw [List.mapM_cons, h]
    exact bind_eq_ok_iff.mpr ⟨_, rfl, bind_eq_ok_iff.mpr ⟨_, ih, rfl⟩⟩

/-! ## Results that may be missing -/

theorem rel_self {rel : α → α → Prop} (hrel : ∀ a, rel a a) (found : Option α) :
    Option.Rel rel found found := by
  cases found with
  | none => exact .none
  | some a => exact .some (hrel a)

theorem rel_bind {α' β' : Type} {rel : α → β → Prop} {rel' : α' → β' → Prop} {found : Option α}
    {found' : Option β} {next : α → Option α'} {next' : β → Option β'}
    (h : Option.Rel rel found found')
    (hnext : ∀ a b, rel a b → Option.Rel rel' (next a) (next' b)) :
    Option.Rel rel' (found.bind next) (found'.bind next') := by
  cases h with
  | none => exact .none
  | some h => exact hnext _ _ h

/-! ## Two chains -/

/-- Two steps that fail both, for whatever reasons, or give results that are related. -/
inductive Agree {ε α β : Type} (rel : α → β → Prop) : Except ε α → Except ε β → Prop where
  | ok {a : α} {b : β} (h : rel a b) : Agree rel (.ok a) (.ok b)
  | error (e e' : ε) : Agree rel (.error e) (.error e')

namespace Agree

variable {α' β' : Type} {rel : α → β → Prop} {rel' : α' → β' → Prop} {step : Except ε α}
  {other : Except ε β}

theorem refl {rel : α → α → Prop} (hrel : ∀ a, rel a a) (step : Except ε α) :
    Agree rel step step := by
  cases step with
  | ok a => exact .ok (hrel a)
  | error e => exact .error e e

theorem mono {rel' : α → β → Prop} (h : Agree rel step other)
    (hrel : ∀ {a b}, rel a b → rel' a b) : Agree rel' step other := by
  cases h with
  | ok h => exact .ok (hrel h)
  | error e e' => exact .error e e'

theorem bind {next : α → Except ε α'} {next' : β → Except ε β'} (h : Agree rel step other)
    (hnext : ∀ a b, rel a b → Agree rel' (next a) (next' b)) :
    Agree rel' (step >>= next) (other >>= next') := by
  cases h with
  | ok h => exact hnext _ _ h
  | error e e' => exact .error e e'

/-- After steps with one result the chains go on alike. -/
theorem bind_eq {step other : Except ε α} {next : α → Except ε α'} {next' : α → Except ε β'}
    (h : Agree Eq step other) (hnext : ∀ a, Agree rel' (next a) (next' a)) :
    Agree rel' (step >>= next) (other >>= next') := by
  refine h.bind ?_
  rintro a _ rfl
  exact hnext a

theorem map {f : α → α'} {f' : β → β'} (h : Agree rel step other)
    (hf : ∀ a b, rel a b → rel' (f a) (f' b)) : Agree rel' (step.map f) (other.map f') := by
  cases h with
  | ok h => exact .ok (hf _ _ h)
  | error e e' => exact .error e e'

theorem mapM {f : α → Except ε α'} {f' : β → Except ε β'} {items : List α} {items' : List β}
    (h : List.Forall₂ rel items items') (hf : ∀ a b, rel a b → Agree rel' (f a) (f' b)) :
    Agree (List.Forall₂ rel') (items.mapM f) (items'.mapM f') := by
  induction h with
  | nil => exact .ok .nil
  | cons h _ ih =>
    rw [List.mapM_cons, List.mapM_cons]
    refine (hf _ _ h).bind fun a b hab => ih.bind fun as bs has => ?_
    exact .ok (.cons hab has)

end Agree
end Amend
