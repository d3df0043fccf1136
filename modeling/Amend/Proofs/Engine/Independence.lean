/-
Documents whose entries lead to places that are apart.  No entry sees what another one does, so
each makes of the first record what it makes of the record that it finds, and the order of the
entries decides nothing but the order of new members.
-/
import Amend.Proofs.Engine.Run
import Amend.Proofs.Path.Commute

namespace Amend
namespace Engine

/-- The value that an entry stores in a record, if it succeeds there. -/
def effect? (config : Config) (schema : Schema) (stream : Random.Stream) (record : Record)
    (entry : Entry) : Option Value :=
  match admitted config schema.rules entry,
      Operator.gate entry.operator entry.path schema.types,
      Path.obstruction? config.maxPathDepth record entry.path with
  | .ok operand, .ok declared, none =>
    (entry.operator.transform declared stream operand (Path.get? record entry.path)).toOption
  | _, _, _ => none

variable {config : Config} {schema : Schema} {stream stream' : Random.Stream}
  {record out : Record} {entry : Entry} {entries : List Entry} {p : Progress} {v : Value}

theorem toOption_eq_some_iff {ε α : Type} {result : Except ε α} {a : α} :
    result.toOption = some a ↔ result = .ok a := by
  cases result with
  | ok b => simp [Except.toOption]
  | error e => simp [Except.toOption]

theorem effect?_eq_some_iff :
    effect? config schema stream record entry = some v ↔
      ∃ operand declared, admitted config schema.rules entry = .ok operand ∧
        Operator.gate entry.operator entry.path schema.types = .ok declared ∧
        Path.obstruction? config.maxPathDepth record entry.path = none ∧
        entry.operator.transform declared stream operand (Path.get? record entry.path) = .ok v := by
  unfold effect?
  cases ha : admitted config schema.rules entry with
  | error e => simp
  | ok operand =>
    cases hg : Operator.gate entry.operator entry.path schema.types with
    | error e => simp
    | ok declared =>
      cases ho : Path.obstruction? config.maxPathDepth record entry.path with
      | some fault => simp
      | none => simp [toOption_eq_some_iff]

/-- A step succeeds exactly where its entry has an effect, and stores it. -/
theorem exists_step_iff :
    (∃ p', step config schema entry p = (p', none) ∧ p'.record = out) ↔
      ∃ v, effect? config schema p.stream p.record entry = some v ∧
        out = Path.stored p.record entry.path v := by
  constructor
  · rintro ⟨p', hstep, rfl⟩
    obtain ⟨operand, declared, v, ha, hg, ho, ht, hrecord⟩ := step_committed hstep
    exact ⟨v, effect?_eq_some_iff.mpr ⟨operand, declared, ha, hg, ho, ht⟩, hrecord⟩
  · rintro ⟨v, hv, rfl⟩
    obtain ⟨operand, declared, ha, hg, ho, ht⟩ := effect?_eq_some_iff.mp hv
    obtain ⟨p', hstep⟩ := step_eq_stored ha hg ho ht
    obtain ⟨operand', declared', w, ha', hg', ho', ht', hrecord⟩ := step_committed hstep
    have hw := effect?_eq_some_iff.mpr ⟨operand', declared', ha', hg', ho', ht'⟩
    rw [Option.some.inj (hw.symm.trans hv)] at hrecord
    exact ⟨p', hstep, hrecord⟩

/-- A document of one entry is committed exactly where the entry has an effect. -/
theorem result_of_singleton {engine : Engine} {log : Log} {base : Record} {doc : Document}
    (hdoc : doc.entries = [entry]) :
    (engine.apply schema log base doc).result = .ok out ↔
      ∃ v, effect? engine.config schema engine.stream base entry = some v ∧
        out = Path.stored base entry.path v := by
  let start := outset engine log base doc
  have hstep : (∃ p, step engine.config schema entry start = (p, none) ∧ p.record = out) ↔
      ∃ v, effect? engine.config schema engine.stream base entry = some v ∧
        out = Path.stored base entry.path v := exists_step_iff
  rw [result_eq_ok_iff, hdoc, ← hstep]
  constructor
  · rintro ⟨p, hrun, hout⟩
    obtain ⟨mid, hmid, hrest⟩ := run_cons_committed.mp hrun
    rw [← (Prod.mk.inj hrest).1] at hout
    exact ⟨mid, hmid, hout⟩
  · rintro ⟨p, hp, hout⟩
    exact ⟨p, run_cons_committed.mpr ⟨p, hp, rfl⟩, hout⟩

/-- Only `$random` draws from the stream. -/
theorem transform_stream_irrelevant {op : Operator} (hop : op ≠ .numeric .random)
    (declared : Option FieldKind) (stream stream' : Random.Stream) (operand : Operand)
    (current : Option Value) :
    op.transform declared stream operand current =
      op.transform declared stream' operand current := by
  cases op with
  | numeric op =>
    cases op with
    | random => exact absurd rfl hop
    | _ => rfl
  | global | toggle | text | object | array => rfl

/-- The effect of an entry other than `$random` depends on the record only through what stands at
the entry's path and whether it can be written to. -/
theorem effect?_congr {record' : Record} (hop : entry.operator ≠ .numeric .random)
    (hget : Path.get? record' entry.path = Path.get? record entry.path)
    (ho : Path.obstruction? config.maxPathDepth record' entry.path = none ↔
      Path.obstruction? config.maxPathDepth record entry.path = none)
    (stream stream' : Random.Stream) :
    effect? config schema stream' record' entry = effect? config schema stream record entry := by
  apply Option.ext
  intro v
  rw [effect?_eq_some_iff, effect?_eq_some_iff, hget, ho]
  simp only [transform_stream_irrelevant hop _ stream' stream]

theorem effect?_stored_of_apart {path : String} (hop : entry.operator ≠ .numeric .random)
    (ho : Path.obstruction? config.maxPathDepth record path = none)
    (ha : Path.Apart path entry.path) (v : Value) (stream stream' : Random.Stream) :
    effect? config schema stream' (Path.stored record path v) entry =
      effect? config schema stream record entry :=
  effect?_congr hop (Path.get?_stored_of_apart ho ha v) (Path.obstruction?_stored_of_apart ho ha v)
    stream stream'

/-! ## Runs -/

/-- What each of some entries by itself writes to a record. -/
def writes (config : Config) (schema : Schema) (stream : Random.Stream) (record : Record)
    (entries : List Entry) : List (String × Value) :=
  entries.map fun entry => (entry.path, (effect? config schema stream record entry).getD .null)

theorem map_fst_writes (config : Config) (schema : Schema) (stream : Random.Stream)
    (record : Record) (entries : List Entry) :
    (writes config schema stream record entries).map Prod.fst = entries.map Entry.path := by
  rw [writes, List.map_map]
  rfl

theorem writes_congr {record' : Record}
    (h : ∀ entry ∈ entries, effect? config schema stream' record' entry =
      effect? config schema stream record entry) :
    writes config schema stream' record' entries = writes config schema stream record entries :=
  List.map_congr_left fun entry he => by rw [h entry he]

/-- Entries that do not disturb each other: each two lead to places that are apart, and none
draws from the random stream. -/
structure Independent (entries : List Entry) : Prop where
  apart : Path.AllApart (entries.map Entry.path)
  fixed : ∀ entry ∈ entries, entry.operator ≠ .numeric .random

theorem Independent.head {rest : List Entry} (h : Independent (entry :: rest)) :
    ∀ other ∈ rest, Path.Apart entry.path other.path :=
  fun _ hother => (List.pairwise_cons.mp h.apart).1 _ (List.mem_map_of_mem hother)

theorem Independent.tail {rest : List Entry} (h : Independent (entry :: rest)) :
    Independent rest :=
  ⟨(List.pairwise_cons.mp h.apart).2, fun other hother =>
    h.fixed other (List.mem_cons_of_mem entry hother)⟩

theorem Independent.perm {entries' : List Entry} (h : Independent entries)
    (hperm : entries.Perm entries') : Independent entries' :=
  ⟨(hperm.map Entry.path).pairwise h.apart Path.Apart.symm,
    fun entry he => h.fixed entry (hperm.mem_iff.mpr he)⟩

/-- After the first of independent entries the others have the effects that they had before. -/
theorem Independent.effect?_step {rest : List Entry} {mid : Progress}
    (h : Independent (entry :: rest)) (hstep : step config schema entry p = (mid, none)) :
    ∀ other ∈ rest, effect? config schema mid.stream mid.record other =
      effect? config schema p.stream p.record other := by
  intro other hother
  obtain ⟨-, -, v, -, -, ho, -, hrecord⟩ := step_committed hstep
  rw [hrecord]
  exact effect?_stored_of_apart (h.tail.fixed other hother) ho (h.head other hother) v _ _

/-- A run of independent entries succeeds exactly where each of them has an effect on the record
before the run, and stores all these effects. -/
theorem Independent.exists_run_iff (h : Independent entries) :
    (∃ p', run config schema entries p = (p', none) ∧ p'.record = out) ↔
      (∀ entry ∈ entries, ∃ v, effect? config schema p.stream p.record entry = some v) ∧
        out = Path.storedAll p.record (writes config schema p.stream p.record entries) := by
  induction entries generalizing p with
  | nil =>
    constructor
    · rintro ⟨p', hrun, rfl⟩
      rw [← (Prod.mk.inj hrun).1]
      exact ⟨fun _ he => absurd he List.not_mem_nil, rfl⟩
    · rintro ⟨-, rfl⟩
      exact ⟨p, rfl, rfl⟩
  | cons entry rest ih =>
    -- A step that stores `v` leaves what the rest is to write.
    have hrest : ∀ {mid : Progress} {v : Value}, step config schema entry p = (mid, none) →
        effect? config schema p.stream p.record entry = some v →
        mid.record = Path.stored p.record entry.path v →
        Path.storedAll mid.record (writes config schema mid.stream mid.record rest) =
          Path.storedAll p.record (writes config schema p.stream p.record (entry :: rest)) := by
      intro mid v hstep hv hmid
      rw [writes_congr (h.effect?_step hstep), hmid]
      simp only [writes, List.map_cons, Path.storedAll, List.foldl_cons, hv, Option.getD_some]
    constructor
    · rintro ⟨p', hrun, hout⟩
      obtain ⟨mid, hstep, hrun⟩ := run_cons_committed.mp hrun
      obtain ⟨v, hv, hmid⟩ := exists_step_iff.mp ⟨mid, hstep, rfl⟩
      obtain ⟨heffects, hstored⟩ := (ih h.tail).mp ⟨p', hrun, hout⟩
      refine ⟨fun other hother => ?_, hstored.trans (hrest hstep hv hmid)⟩
      rcases List.mem_cons.mp hother with rfl | hother
      · exact ⟨v, hv⟩
      · rw [← h.effect?_step hstep other hother]
        exact heffects other hother
    · rintro ⟨heffects, hout⟩
      obtain ⟨v, hv⟩ := heffects entry List.mem_cons_self
      obtain ⟨mid, hstep, hmid⟩ := exists_step_iff.mpr ⟨v, hv, rfl⟩
      have heffects' : ∀ other ∈ rest, ∃ v,
          effect? config schema mid.stream mid.record other = some v := by
        intro other hother
        rw [h.effect?_step hstep other hother]
        exact heffects other (List.mem_cons_of_mem entry hother)
      obtain ⟨p', hrun, hp'⟩ :=
        (ih h.tail).mpr ⟨heffects', hout.trans (hrest hstep hv hmid).symm⟩
      exact ⟨p', run_cons_committed.mpr ⟨mid, hstep, hrun⟩, hp'⟩

/-- A document of independent entries is committed exactly where each entry by itself has an
effect on the base record.  Neither the state of the engine nor its log matters. -/
theorem Independent.result_eq_ok_iff {doc : Document} (h : Independent doc.entries)
    {engine : Engine} (hconfig : engine.config = config) (schema : Schema) (log : Log)
    (base out : Record) (stream : Random.Stream) :
    (engine.apply schema log base doc).result = .ok out ↔
      (∀ entry ∈ doc.entries, ∃ v, effect? config schema stream base entry = some v) ∧
        out = Path.storedAll base (writes config schema stream base doc.entries) := by
  subst hconfig
  have hstream : ∀ entry ∈ doc.entries,
      effect? engine.config schema stream base entry =
        effect? engine.config schema engine.stream base entry :=
    fun entry he => effect?_congr (h.fixed entry he) rfl Iff.rfl _ _
  rw [writes_congr hstream, Engine.result_eq_ok_iff]
  refine h.exists_run_iff.trans (and_congr_left fun _ => forall₂_congr fun entry he => ?_)
  rw [hstream entry he]
  rfl

/-! ## Order -/

/-- Where independent entries have effects, their paths can be written to. -/
theorem obstruction?_of_mem_writes
    (h : ∀ entry ∈ entries, ∃ v, effect? config schema stream record entry = some v) :
    ∀ path ∈ (writes config schema stream record entries).map Prod.fst,
      Path.obstruction? config.maxPathDepth record path = none := by
  intro path hpath
  rw [map_fst_writes] at hpath
  obtain ⟨entry, he, rfl⟩ := List.mem_map.mp hpath
  obtain ⟨v, hv⟩ := h entry he
  obtain ⟨-, -, -, -, ho, -⟩ := effect?_eq_some_iff.mp hv
  exact ho

/-- Independent entries can be applied in any order: the documents are committed together, and
their records differ at most in the order of members. -/
theorem apply_perm {engine engine' : Engine} {log log' : Log} {base : Record}
    {doc doc' : Document} (hconfig : engine.config = engine'.config)
    (hperm : doc.entries.Perm doc'.entries) (h : Independent doc.entries) :
    ((∃ out, (engine.apply schema log base doc).result = .ok out) ↔
      ∃ out', (engine'.apply schema log' base doc').result = .ok out') ∧
    ∀ out out', (engine.apply schema log base doc).result = .ok out →
      (engine'.apply schema log' base doc').result = .ok out' →
      Reordered (.obj out) (.obj out') := by
  have hiff := fun out => h.result_eq_ok_iff hconfig schema log base out engine.stream
  have hiff' := fun out =>
    (h.perm hperm).result_eq_ok_iff (Eq.refl engine'.config) schema log' base out engine.stream
  constructor
  · constructor
    · rintro ⟨out, hout⟩
      exact ⟨_, (hiff' _).mpr ⟨fun entry he =>
        ((hiff out).mp hout).1 entry (hperm.mem_iff.mpr he), rfl⟩⟩
    · rintro ⟨out', hout'⟩
      exact ⟨_, (hiff _).mpr ⟨fun entry he =>
        ((hiff' out').mp hout').1 entry (hperm.mem_iff.mp he), rfl⟩⟩
  · intro out out' hout hout'
    obtain ⟨heffects, rfl⟩ := (hiff out).mp hout
    obtain ⟨-, rfl⟩ := (hiff' out').mp hout'
    refine Path.storedAll_perm (hperm.map _) ?_ (obstruction?_of_mem_writes heffects)
    rw [map_fst_writes]
    exact h.apart

/-- Two fields below a null come in the order in which they are written. -/
theorem apply_perm_below_null :
    let schema : Schema := ⟨[], [("n.y", .int)]⟩
    let base : Record := [("n", .null)]
    let x : Operator × List (String × Operand) := (.global .set, [("n.x", .value (.int 1))])
    let y : Operator × List (String × Operand) := (.numeric .inc, [("n.y", .value (.int 2))])
    let out : Record := [("n", .obj [("x", .int 1), ("y", .int 2)])]
    let out' : Record := [("n", .obj [("y", .int 2), ("x", .int 1)])]
    let engine := start {} (.ofSeed 0)
    (engine.apply schema (.start .info) base ⟨[x, y]⟩).result = .ok out ∧
      (engine.apply schema (.start .info) base ⟨[y, x]⟩).result = .ok out' ∧
      Reordered (.obj out) (.obj out') := by
  intro schema base x y out out' engine
  have hout : (engine.apply schema (.start .info) base ⟨[x, y]⟩).result = .ok out := rfl
  have hout' : (engine.apply schema (.start .info) base ⟨[y, x]⟩).result = .ok out' := rfl
  have hentries : Document.entries ⟨[x, y]⟩ = [⟨.global .set, "n.x", .value (.int 1)⟩,
      ⟨.numeric .inc, "n.y", .value (.int 2)⟩] := rfl
  have hperm : (Document.entries ⟨[x, y]⟩).Perm (Document.entries ⟨[y, x]⟩) :=
    List.Perm.swap _ _ []
  have hapart : Path.Apart "n.x" "n.y" := by
    refine ⟨1, "x", "y", rfl, rfl, by decide, ?_⟩
    rintro ⟨i, hi, -⟩
    rw [show Path.index? "x" = none from rfl] at hi
    nomatch hi
  have hindependent : Independent (Document.entries ⟨[x, y]⟩) := by
    rw [hentries]
    exact ⟨List.pairwise_pair.mpr hapart, by decide⟩
  exact ⟨hout, hout', (apply_perm rfl hperm hindependent).2 out out' hout hout'⟩

end Engine
end Amend
