/-
The least and the greatest of numbers that come one after the other.  An extremum keeps one of two
numbers as it is written, and which one is a comparison of keys: the places of the doubles, in
ascending or in descending order.  So what is left of many is one of them, with the least key, and
the order in which they come decides at most between numbers of one magnitude.
-/
import Amend.Proofs.Engine.RoundTrip
import Amend.Proofs.Json.Magnitude
import Amend.Proofs.Operator.Refusal

namespace Amend
namespace Operator
namespace Numeric

open Binary64 (place)

/-- A number among others, in the form that it has there, which `before` puts before all of them. -/
structure Extreme (before : Binary64 → Binary64 → Bool) (all : List Number) (m : Number) :
    Prop where
  mem : m ∈ all
  before : ∀ b ∈ all, before m.toBinary64 b.toBinary64 = true

/-- An operator that keeps the stored number where it comes before the operand. -/
structure Keeps (op : Numeric) (before : Binary64 → Binary64 → Bool) (key : Number → Int) :
    Prop where
  transform_eq : ∀ stream stored operand,
    op.transform stream stored operand = extremum before stored operand
  before_eq : ∀ a b : Number, before a.toBinary64 b.toBinary64 = decide (key a ≤ key b)
  written : (Operator.numeric op).written = .whole
  eq_of_key : ∀ a b : Number, key a = key b → a.toBinary64.eq b.toBinary64 = true

theorem eq_of_place {a b : Number} (h : place a.units = place b.units) :
    a.toBinary64.eq b.toBinary64 = true := by
  rw [Binary64.eq, Number.compareWith_toBinary64, decide_eq_true_iff]
  exact h

theorem keeps_min : Keeps .min (fun a b => a.le b) (fun a => place a.units) where
  transform_eq _ _ _ := rfl
  before_eq a b := Number.compareWith_toBinary64 a b
  written := rfl
  eq_of_key _ _ := eq_of_place

theorem keeps_max : Keeps .max (fun a b => b.le a) (fun a => -place a.units) where
  transform_eq _ _ _ := rfl
  before_eq a b := by
    rw [Binary64.le, Number.compareWith_toBinary64]
    exact decide_eq_decide.mpr Int.neg_le_neg_iff.symm
  written := rfl
  eq_of_key _ _ h := eq_of_place (Int.neg_inj.mp h)

/-- The numbers that an extremum chooses from: the stored one, if there is one, and the operands. -/
def candidates (stored : Option Value) (operands : List Number) : List Number :=
  match stored with
  | some (.num a) => a :: operands
  | _ => operands

/-! ## Keys -/

section

variable {key : Number → Int} {a b : Number} {rest : List Number}

/-- The first of two numbers unless the second has a lesser key. -/
def choose (key : Number → Int) (a b : Number) : Number := if key a ≤ key b then a else b

theorem choose_eq_or (key : Number → Int) (a b : Number) :
    choose key a b = a ∨ choose key a b = b := ite_eq_or_eq _ _ _

theorem key_choose_le (key : Number → Int) (a b : Number) :
    key (choose key a b) ≤ key a ∧ key (choose key a b) ≤ key b := by
  unfold choose
  by_cases h : key a ≤ key b
  · rw [if_pos h]
    exact ⟨Int.le_refl _, h⟩
  · rw [if_neg h]
    exact ⟨Int.le_of_lt (Int.not_le.mp h), Int.le_refl _⟩

theorem foldl_choose_mem (key : Number → Int) (a : Number) (rest : List Number) :
    rest.foldl (choose key) a ∈ a :: rest := by
  induction rest generalizing a with
  | nil => exact List.mem_singleton_self a
  | cons b rest ih =>
    rcases List.mem_cons.mp (ih (choose key a b)) with h | h
    · rw [List.foldl_cons, h]
      rcases choose_eq_or key a b with hc | hc
      · rw [hc]
        exact List.mem_cons_self
      · rw [hc]
        exact List.mem_cons_of_mem a List.mem_cons_self
    · exact List.mem_cons_of_mem a (List.mem_cons_of_mem b h)

theorem key_foldl_choose_le (key : Number → Int) (a : Number) (rest : List Number) :
    ∀ c ∈ a :: rest, key (rest.foldl (choose key) a) ≤ key c := by
  induction rest generalizing a with
  | nil =>
    intro c hc
    rw [List.mem_singleton.mp hc]
    exact Int.le_refl _
  | cons b rest ih =>
    have hfirst := ih (choose key a b) _ List.mem_cons_self
    have hpair := key_choose_le key a b
    intro c hc
    rw [List.foldl_cons]
    rcases List.mem_cons.mp hc with rfl | hc
    · exact Int.le_trans hfirst hpair.1
    · rcases List.mem_cons.mp hc with rfl | hc
      · exact Int.le_trans hfirst hpair.2
      · exact ih _ c (List.mem_cons_of_mem _ hc)

end

variable {op : Numeric} {before : Binary64 → Binary64 → Bool} {key : Number → Int}
  {all all' : List Number} {m m' : Number}

theorem Keeps.extreme_foldl (hop : Keeps op before key) (a : Number) (rest : List Number) :
    Extreme before (a :: rest) (rest.foldl (choose key) a) where
  mem := foldl_choose_mem key a rest
  before c hc := by
    rw [hop.before_eq]
    exact decide_eq_true (key_foldl_choose_le key a rest c hc)

/-- Extreme numbers among the same ones have one magnitude. -/
theorem Keeps.eq_of_extreme (hop : Keeps op before key) (h : Extreme before all m)
    (h' : Extreme before all' m') (hall : ∀ c, c ∈ all ↔ c ∈ all') :
    m'.toBinary64.eq m.toBinary64 = true := by
  have hle := h.before m' ((hall m').mpr h'.mem)
  have hge := h'.before m ((hall m).mp h.mem)
  rw [hop.before_eq, decide_eq_true_iff] at hle hge
  exact hop.eq_of_key m' m (Int.le_antisymm hge hle)

/-! ## One operand -/

theorem Keeps.transform_number (hop : Keeps op before key) (stream : Random.Stream)
    (a b : Number) :
    op.transform stream (some (.num a)) (.num b) = .ok (.num (choose key a b)) := by
  have hkept : extremum before (some (.num a)) (.num b) =
      .ok (.num (if before a.toBinary64 b.toBinary64 then a else b)) := rfl
  simp only [hop.transform_eq, hkept, hop.before_eq, decide_eq_true_iff, choose]

theorem Keeps.transform_missing (hop : Keeps op before key) (stream : Random.Stream)
    {stored : Option Value} (h : stored = none ∨ stored = some .null) (b : Number) :
    op.transform stream stored (.num b) = .ok (.num b) := by
  rw [hop.transform_eq]
  rcases h with rfl | rfl <;> rfl

end Numeric
end Operator

/-! ## Operands in turn -/

namespace Engine

open Operator.Numeric (Keeps Extreme Usable candidates choose)

/-- Applies a numeric operator to a path with each operand in turn, to the record that the operands
before have led to. -/
def applyEach (engine : Engine) (schema : Schema) (log : Log) (base : Record)
    (op : Operator.Numeric) (path : String) : List Number → Outcome
  | [] => ⟨.ok base, engine, log⟩
  | b :: rest =>
    let once := engine.apply schema log base (numericDocument op path (.num b))
    match once.result with
    | .ok record => once.engine.applyEach schema once.log record op path rest
    | .error _ => once

variable {schema : Schema} {config : Config} {base : Record} {path : String} {kind : FieldKind}
  {op : Operator.Numeric} {before : Binary64 → Binary64 → Bool} {key : Number → Int}
  {operands : List Number}

/-- What lets a numeric operator with numbers for operands write to a path of a record. -/
structure Writable (config : Config) (schema : Schema) (base : Record) (path : String)
    (operands : List Number) : Prop where
  declared : ∃ kind, schema.types.resolve? path = some kind ∧ kind.isNumeric = true
  reached : Path.obstruction? config.maxPathDepth base path = none
  accepted : ∀ b ∈ operands,
    schema.rules.validate config.validationPolicy path (.num b) = .ok (.num b)

theorem Writable.stored {b : Number} {rest : List Number}
    (h : Writable config schema base path (b :: rest)) (v : Value) :
    Writable config schema (Path.stored base path v) path rest where
  declared := h.declared
  reached := Path.obstruction?_stored h.reached v
  accepted c hc := h.accepted c (List.mem_cons_of_mem b hc)

theorem Writable.perm {operands' : List Number} (h : Writable config schema base path operands)
    (hperm : operands'.Perm operands) : Writable config schema base path operands' where
  declared := h.declared
  reached := h.reached
  accepted b hb := h.accepted b (hperm.mem_iff.mp hb)

/-- The first operand leaves what it makes of the record, and the others go on from there. -/
theorem result_applyEach_cons {engine : Engine} {b : Number} {rest : List Number} {w : Value}
    (hop : Keeps op before key) (h : Writable engine.config schema base path (b :: rest))
    (ht : op.transform engine.stream (Path.get? base path) (.num b) = .ok w) (log : Log) :
    ∃ (next : Engine) (log' : Log), next.config = engine.config ∧
      (engine.applyEach schema log base op path (b :: rest)).result =
        (next.applyEach schema log' (Path.stored base path w) op path rest).result := by
  obtain ⟨kind, hkind, hnumeric⟩ := h.declared
  let once := engine.apply schema log base (numericDocument op path (.num b))
  have hresult : once.result = .ok (Path.stored base path w) :=
    result_numericDocument hop.written hkind hnumeric h.reached (h.accepted b List.mem_cons_self) ht
  refine ⟨once.engine, once.log, config_apply engine schema log base _, ?_⟩
  rw [applyEach]
  simp only [once] at hresult ⊢
  simp only [hresult]

/-- From a stored number on, the operands leave the first of the least keys. -/
theorem result_applyEach_of_number (hop : Keeps op before key) {a : Number}
    (hget : Path.get? base path = some (.num a)) (engine : Engine) (log : Log)
    (h : Writable engine.config schema base path operands) :
    (engine.applyEach schema log base op path operands).result =
      .ok (Path.stored base path (.num (operands.foldl (choose key) a))) := by
  induction operands generalizing engine log base a with
  | nil =>
    rw [List.foldl_nil, Path.stored_of_get?_eq hget]
    rfl
  | cons b rest ih =>
    have ht := hop.transform_number engine.stream a b
    rw [← hget] at ht
    obtain ⟨next, log', hconfig, hnext⟩ := result_applyEach_cons hop h ht log
    rw [hnext, ih (Path.get?_stored h.reached _) next log' (hconfig ▸ h.stored _),
      Path.stored_stored h.reached, List.foldl_cons]

/-- Operands in turn always commit, and leave an extreme number at the path. -/
theorem exists_result_applyEach (hop : Keeps op before key) (engine : Engine) (log : Log)
    (h : Writable engine.config schema base path operands)
    (hstored : Usable (Path.get? base path)) (hne : operands ≠ []) :
    ∃ out m, (engine.applyEach schema log base op path operands).result = .ok out ∧
      Path.get? out path = some (.num m) ∧
      Extreme before (candidates (Path.get? base path) operands) m := by
  by_cases hnumber : ∃ a, Path.get? base path = some (.num a)
  · obtain ⟨a, hget⟩ := hnumber
    refine ⟨_, _, result_applyEach_of_number hop hget engine log h,
      Path.get?_stored h.reached _, ?_⟩
    rw [hget]
    exact hop.extreme_foldl a operands
  · have hmissing : Path.get? base path = none ∨ Path.get? base path = some .null := by
      rcases hstored with hnone | hnull | hnum
      · exact .inl hnone
      · exact .inr hnull
      · exact absurd hnum hnumber
    obtain ⟨b, rest, rfl⟩ := List.exists_cons_of_ne_nil hne
    -- The first operand takes the place that a stored number has otherwise.
    obtain ⟨next, log', hconfig, hnext⟩ :=
      result_applyEach_cons hop h (hop.transform_missing engine.stream hmissing b) log
    have hrest := result_applyEach_of_number hop (Path.get?_stored h.reached (.num b)) next log'
      (hconfig ▸ h.stored (.num b))
    rw [Path.stored_stored h.reached] at hrest
    refine ⟨_, _, hnext.trans hrest, Path.get?_stored h.reached _, ?_⟩
    have hall : candidates (Path.get? base path) (b :: rest) = b :: rest := by
      rcases hmissing with hnone | hnull
      · rw [hnone]
        rfl
      · rw [hnull]
        rfl
    rw [hall]
    exact hop.extreme_foldl b rest

theorem mem_candidates_of_perm {stored : Option Value} {operands' : List Number}
    (hperm : operands'.Perm operands) (c : Number) :
    c ∈ candidates stored operands ↔ c ∈ candidates stored operands' := by
  unfold candidates
  split
  · rw [List.mem_cons, List.mem_cons, hperm.mem_iff]
  · exact hperm.mem_iff.symm

/-- Operands in turn commit and leave an extreme number, the stored one and the operands being the
choice.  Another order of the operands leaves one of the same magnitude. -/
def LeavesExtreme (engine : Engine) (schema : Schema) (log : Log) (base : Record)
    (op : Operator.Numeric) (path : String) (operands : List Number)
    (before : Binary64 → Binary64 → Bool) : Prop :=
  ∃ out m, (engine.applyEach schema log base op path operands).result = .ok out ∧
    Path.get? out path = some (.num m) ∧
    Extreme before (candidates (Path.get? base path) operands) m ∧
    ∀ operands' : List Number, operands'.Perm operands →
      ∃ out' m', (engine.applyEach schema log base op path operands').result = .ok out' ∧
        Path.get? out' path = some (.num m') ∧ m'.toBinary64.eq m.toBinary64 = true

theorem leavesExtreme (hop : Keeps op before key) (engine : Engine) (log : Log)
    (h : Writable engine.config schema base path operands)
    (hstored : Usable (Path.get? base path)) (hne : operands ≠ []) :
    LeavesExtreme engine schema log base op path operands before := by
  obtain ⟨out, m, hresult, hget, hextreme⟩ :=
    exists_result_applyEach hop engine log h hstored hne
  refine ⟨out, m, hresult, hget, hextreme, fun operands' hperm => ?_⟩
  have hne' : operands' ≠ [] := fun hnil => hne (List.nil_perm.mp (hnil ▸ hperm))
  obtain ⟨out', m', hresult', hget', hextreme'⟩ :=
    exists_result_applyEach hop engine log (h.perm hperm) hstored hne'
  exact ⟨out', m', hresult', hget',
    hop.eq_of_extreme hextreme hextreme' (mem_candidates_of_perm hperm)⟩

/-- Minima in turn commit and leave one of the numbers, in its own form, that is at most as large
as all of them, and maxima one that is at least as large. -/
theorem apply_extrema (engine : Engine) (log : Log)
    (h : Writable engine.config schema base path operands)
    (hstored : Usable (Path.get? base path)) (hne : operands ≠ []) :
    LeavesExtreme engine schema log base .min path operands (fun a b => a.le b) ∧
      LeavesExtreme engine schema log base .max path operands (fun a b => b.le a) :=
  ⟨leavesExtreme Operator.Numeric.keeps_min engine log h hstored hne,
    leavesExtreme Operator.Numeric.keeps_max engine log h hstored hne⟩

/-- A missing field below a missing object, with an integer and a float of one magnitude. -/
theorem apply_extrema_missing :
    let engine := start {} (.ofSeed 0)
    let schema : Schema := ⟨[], [("a.n", .float)]⟩
    let three : Number := .float ⟨false, 0x18000000000000, 1023, by decide⟩
    let operands : List Number := [.int 5, three, .int 3]
    Writable engine.config schema [] "a.n" operands ∧ Usable (Path.get? [] "a.n") ∧
      LeavesExtreme engine schema (.start .info) [] .min "a.n" operands (fun a b => a.le b) ∧
      LeavesExtreme engine schema (.start .info) [] .max "a.n" operands (fun a b => b.le a) := by
  intro engine schema three operands
  have hwritable : Writable engine.config schema [] "a.n" operands :=
    ⟨⟨.float, rfl, rfl⟩, rfl, fun _ _ => rfl⟩
  have husable : Usable (Path.get? [] "a.n") := .inl rfl
  exact ⟨hwritable, husable,
    apply_extrema engine (.start .info) hwritable husable (List.cons_ne_nil _ _)⟩

end Engine
end Amend
