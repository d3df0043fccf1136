/-
Runs of the entries of a document.  A step that succeeds has an admitted operand and a committed
attempt behind it; a run that succeeds is a chain of such steps, and whatever they all preserve it
preserves.  The fields of the record that no entry leads to are the first such thing.
-/
import Amend.Engine.Apply
import Amend.Proofs.Operator.Attempt
import Amend.Proofs.Path.Frame
import Mathlib.Data.List.Forall2

namespace Amend
namespace Engine

variable {config : Config} {schema : Schema} {entry : Entry} {entries : List Entry}
  {p p' : Progress}

/-- What a step that succeeds has done: its operand was admitted and its operator stored a value
at its path. -/
theorem step_committed (h : step config schema entry p = (p', none)) :
    ∃ operand declared v, admitted config schema.rules entry = .ok operand ∧
      Operator.gate entry.operator entry.path schema.types = .ok declared ∧
      Path.obstruction? config.maxPathDepth p.record entry.path = none ∧
      entry.operator.transform declared p.stream operand (Path.get? p.record entry.path) = .ok v ∧
      p'.record = Path.stored p.record entry.path v := by
  unfold step at h
  cases ha : admitted config schema.rules entry with
  | error e =>
    rw [ha] at h
    nomatch (Prod.mk.inj h).2
  | ok operand =>
    rw [ha] at h
    simp only at h
    split at h
    · nomatch (Prod.mk.inj h).2
    · rename_i hnone
      obtain ⟨declared, v, hg, ho, ht, hd⟩ := Operator.dispatch_committed hnone
      have hrecord := congrArg Progress.record (Prod.mk.inj h).1
      rw [hd] at hrecord
      exact ⟨operand, declared, v, rfl, hg, ho, ht, hrecord.symm⟩

theorem step_eq_stored {operand : Operand} {declared : Option FieldKind} {v : Value}
    (ha : admitted config schema.rules entry = .ok operand)
    (hg : Operator.gate entry.operator entry.path schema.types = .ok declared)
    (ho : Path.obstruction? config.maxPathDepth p.record entry.path = none)
    (ht : entry.operator.transform declared p.stream operand (Path.get? p.record entry.path) =
      .ok v) :
    ∃ p', step config schema entry p = (p', none) := by
  simp only [step, ha, Operator.dispatch_eq_stored hg ho ht]
  exact ⟨_, rfl⟩

theorem run_cons_committed {rest : List Entry} :
    run config schema (entry :: rest) p = (p', none) ↔
      ∃ mid, step config schema entry p = (mid, none) ∧
        run config schema rest mid = (p', none) := by
  rw [run]
  cases hs : step config schema entry p with
  | mk mid error? =>
    cases error? with
    | none =>
      constructor
      · intro h
        exact ⟨mid, rfl, h⟩
      · rintro ⟨mid', hmid, h⟩
        rw [(Prod.mk.inj hmid).1]
        exact h
    | some e =>
      constructor
      · intro h
        nomatch (Prod.mk.inj h).2
      · rintro ⟨mid', hmid, -⟩
        nomatch (Prod.mk.inj hmid).2

/-- A run goes on with what comes later unless an entry has failed. -/
theorem run_append (before after : List Entry) (p : Progress) :
    run config schema (before ++ after) p =
      match run config schema before p with
      | (mid, none) => run config schema after mid
      | (mid, some e) => (mid, some e) := by
  induction before generalizing p with
  | nil => rfl
  | cons entry rest ih =>
    rw [List.cons_append, run, run]
    cases step config schema entry p with
    | mk next error? =>
      cases error? with
      | none => exact ih next
      | some e => rfl

theorem run_append_committed {before after : List Entry} :
    run config schema (before ++ after) p = (p', none) ↔
      ∃ mid, run config schema before p = (mid, none) ∧
        run config schema after mid = (p', none) := by
  rw [run_append]
  cases run config schema before p with
  | mk mid error? =>
    cases error? with
    | none =>
      constructor
      · intro h
        exact ⟨mid, rfl, h⟩
      · rintro ⟨mid', hmid, h⟩
        rw [(Prod.mk.inj hmid).1]
        exact h
    | some e =>
      constructor
      · intro h
        nomatch (Prod.mk.inj h).2
      · rintro ⟨mid', hmid, -⟩
        nomatch (Prod.mk.inj hmid).2

/-- Two runs whose steps, taken in pairs, fail with the same errors and keep a relation fail with
the same error and keep the relation. -/
theorem run_related {R : Progress → Progress → Prop} {config' : Config} {schema' : Schema}
    {entries' : List Entry} {q : Progress}
    (hsteps : List.Forall₂ (fun entry entry' => ∀ p q, R p q →
      (step config schema entry p).2 = (step config' schema' entry' q).2 ∧
        R (step config schema entry p).1 (step config' schema' entry' q).1) entries entries')
    (h : R p q) :
    (run config schema entries p).2 = (run config' schema' entries' q).2 ∧
      R (run config schema entries p).1 (run config' schema' entries' q).1 := by
  induction hsteps generalizing p q with
  | nil => exact ⟨rfl, h⟩
  | @cons entry entry' rest rest' hstep hrest ih =>
    obtain ⟨herror, hnext⟩ := hstep p q h
    rw [run, run]
    cases hp : step config schema entry p with
    | mk next error? =>
      cases hq : step config' schema' entry' q with
      | mk next' error?' =>
        rw [hp, hq] at herror hnext
        obtain rfl : error? = error?' := herror
        cases error? with
        | none => exact ih hnext
        | some e => exact ⟨rfl, hnext⟩

/-- A relation that every successful step of some entries brings about holds between the ends of
every successful run of them. -/
theorem run_induction {R : Progress → Progress → Prop} (hrefl : ∀ p, R p p)
    (htrans : ∀ p q r, R p q → R q r → R p r)
    (hstep : ∀ entry ∈ entries, ∀ p p', step config schema entry p = (p', none) → R p p')
    (h : run config schema entries p = (p', none)) : R p p' := by
  induction entries generalizing p with
  | nil =>
    rw [(Prod.mk.inj h).1]
    exact hrefl p'
  | cons entry rest ih =>
    obtain ⟨mid, hmid, hrest⟩ := run_cons_committed.mp h
    exact htrans p mid p' (hstep entry List.mem_cons_self p mid hmid)
      (ih (fun e he => hstep e (List.mem_cons_of_mem entry he)) hrest)

/-- The progress before the first entry of a document. -/
def outset (engine : Engine) (log : Log) (base : Record) (doc : Document) : Progress :=
  ⟨base, engine.stream, 0, log.report .applyStart [("entries", toString doc.size)]⟩

/-- An application commits what a successful run has made of the record. -/
theorem result_eq_ok_iff {engine : Engine} {log : Log} {base out : Record} {doc : Document} :
    (engine.apply schema log base doc).result = .ok out ↔
      ∃ p, run engine.config schema doc.entries (outset engine log base doc) = (p, none) ∧
        p.record = out := by
  unfold apply outset
  simp only
  cases run engine.config schema doc.entries
    ⟨base, engine.stream, 0, log.report .applyStart [("entries", toString doc.size)]⟩ with
  | mk p error? =>
    cases error? with
    | none =>
      constructor
      · intro h
        exact ⟨p, rfl, Except.ok.inj h⟩
      · rintro ⟨p', hp, rfl⟩
        rw [(Prod.mk.inj hp).1]
    | some e =>
      constructor
      · intro h
        nomatch h
      · rintro ⟨p', hp, -⟩
        nomatch (Prod.mk.inj hp).2

/-- Every entry of a committed document has made a successful step, from where the entries before
it have come to. -/
theorem step_of_committed {engine : Engine} {log : Log} {base out : Record} {doc : Document}
    {before after : List Entry} (h : (engine.apply schema log base doc).result = .ok out)
    (he : doc.entries = before ++ entry :: after) :
    ∃ reached next,
      run engine.config schema before (outset engine log base doc) = (reached, none) ∧
        step engine.config schema entry reached = (next, none) := by
  obtain ⟨final, hrun, -⟩ := result_eq_ok_iff.mp h
  rw [he] at hrun
  obtain ⟨reached, hreached, hrest⟩ := run_append_committed.mp hrun
  obtain ⟨next, hstep, -⟩ := run_cons_committed.mp hrest
  exact ⟨reached, next, hreached, hstep⟩

/-! ## What a document leaves alone -/

/-- A step changes what its path leads to, and neither loses nor moves a field. -/
theorem step_frame (h : step config schema entry p = (p', none)) :
    (∀ q, Path.Apart entry.path q → Path.get? p'.record q = Path.get? p.record q) ∧
      p.record.keys <+: p'.record.keys := by
  obtain ⟨operand, declared, v, -, -, ho, -, hrecord⟩ := step_committed h
  rw [hrecord]
  exact ⟨fun q hq => Path.get?_stored_of_apart ho hq v,
    Path.keys_prefix_keys_stored p.record entry.path v⟩

theorem run_frame (h : run config schema entries p = (p', none)) :
    (∀ q, (∀ entry ∈ entries, Path.Apart entry.path q) →
      Path.get? p'.record q = Path.get? p.record q) ∧ p.record.keys <+: p'.record.keys := by
  let R (p p' : Progress) : Prop :=
    (∀ q, (∀ entry ∈ entries, Path.Apart entry.path q) →
      Path.get? p'.record q = Path.get? p.record q) ∧ p.record.keys <+: p'.record.keys
  refine run_induction (R := R) (fun p => ⟨fun _ _ => rfl, List.prefix_refl _⟩) ?_ ?_ h
  · intro p q r hpq hqr
    exact ⟨fun path hpath => (hqr.1 path hpath).trans (hpq.1 path hpath), hpq.2.trans hqr.2⟩
  · intro entry he p p' hs
    have hframe := step_frame hs
    exact ⟨fun q hq => hframe.1 q (hq entry he), hframe.2⟩

/-- A committed document changes nothing at a path that is apart from the paths of all its
entries.  The fields of the record stand first in the new one, in their old order. -/
theorem apply_frame {engine : Engine} {log : Log} {base out : Record} {doc : Document}
    (h : (engine.apply schema log base doc).result = .ok out) :
    (∀ q, (∀ entry ∈ doc.entries, Path.Apart entry.path q) →
      Path.get? out q = Path.get? base q) ∧ base.keys <+: out.keys := by
  obtain ⟨p, hrun, rfl⟩ := result_eq_ok_iff.mp h
  exact run_frame hrun

/-- Writes to a field and to an element of an array leave the element before it alone. -/
theorem apply_frame_beside_element :
    let base : Record := [("n", .int 1), ("a", .arr [.int 7, .int 8])]
    let out : Record := [("n", .int 3), ("a", .arr [.int 7, .str "x"])]
    let doc : Document := ⟨[(.global .set, [("a.01", .value (.str "x"))]),
      (.numeric .inc, [("n", .value (.int 2))])]⟩
    ((start {} (.ofSeed 0)).apply ⟨[], [("n", .int)]⟩ (.start .info) base doc).result = .ok out ∧
      Path.get? out "a.0" = Path.get? base "a.0" ∧ base.keys <+: out.keys := by
  intro base out doc
  have hcommit : ((start {} (.ofSeed 0)).apply ⟨[], [("n", .int)]⟩ (.start .info) base doc).result =
      .ok out := rfl
  have hframe := apply_frame hcommit
  refine ⟨hcommit, hframe.1 "a.0" ?_, hframe.2⟩
  intro entry he
  have hentries : doc.entries = [⟨.global .set, "a.01", .value (.str "x")⟩,
      ⟨.numeric .inc, "n", .value (.int 2)⟩] := rfl
  rw [hentries] at he
  simp only [List.mem_cons, List.not_mem_nil, or_false] at he
  rcases he with rfl | rfl
  · refine ⟨1, "01", "0", rfl, rfl, by decide, ?_⟩
    rintro ⟨n, hone, hzero⟩
    rw [show Path.index? "01" = some 1 from rfl, Option.some.injEq] at hone
    rw [← hone] at hzero
    exact absurd hzero (by decide)
  · refine ⟨0, "n", "a", rfl, rfl, by decide, ?_⟩
    rintro ⟨n, hn, -⟩
    rw [show Path.index? "n" = none from rfl] at hn
    nomatch hn

end Engine
end Amend
