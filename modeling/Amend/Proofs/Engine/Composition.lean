/-
Documents one behind the other.  A document whose entries are those of two others does in one
application what the two do in two, the second one to the record that the first one gives.
-/
import Amend.Proofs.Engine.Account
import Amend.Proofs.Engine.Grouping

namespace Amend
namespace Engine

/-- Applies a document to a record and then, if it commits, a second one to its result. -/
def applyInTurn (engine : Engine) (schema : Schema) (log : Log) (base : Record)
    (first second : Document) : Outcome :=
  let once := engine.apply schema log base first
  match once.result with
  | .ok record => once.engine.apply schema once.log record second
  | .error _ => once

theorem applyInTurn_eq (engine : Engine) (schema : Schema) (log : Log) (base : Record)
    (first second : Document) :
    engine.applyInTurn schema log base first second =
      match run engine.config schema first.entries (outset engine log base first) with
      | (mid, none) =>
        let once := conclusion engine log first (mid, none)
        conclusion once.engine once.log second (run engine.config schema second.entries
          (outset once.engine once.log mid.record second))
      | (mid, some e) => conclusion engine log first (mid, some e) := by
  unfold applyInTurn
  rw [apply_eq_conclusion]
  cases run engine.config schema first.entries (outset engine log base first) with
  | mk mid error? =>
    cases error? with
    | none => exact apply_eq_conclusion _ schema _ mid.record second
    | some e => rfl

/-- In one application the run of the second document starts where that of the first has ended. -/
theorem apply_of_entries_append {doc first second : Document}
    (hentries : doc.entries = first.entries ++ second.entries) (engine : Engine) (schema : Schema)
    (log : Log) (base : Record) :
    let together := engine.apply schema log base doc
    let inTurn := engine.applyInTurn schema log base first second
    together.result = inTurn.result ∧ together.engine.stream = inTurn.engine.stream ∧
      together.engine.metrics.operatorsExecuted = inTurn.engine.metrics.operatorsExecuted := by
  have hstart : Alike True (outset engine log base doc) (outset engine log base first) :=
    ⟨rfl, fun _ => rfl⟩
  obtain ⟨herror, hmid⟩ := hstart.after_run engine.config schema (.inl trivial)
  obtain ⟨n, hn, hn'⟩ := (hstart.verdict_run engine.config schema (.inl trivial)).2
  rw [apply_eq_conclusion, applyInTurn_eq, hentries, run_append]
  cases hrun : run engine.config schema first.entries (outset engine log base doc) with
  | mk mid error? =>
    cases hrun' : run engine.config schema first.entries (outset engine log base first) with
    | mk mid' error?' =>
      rw [hrun, hrun'] at herror hmid
      rw [hrun] at hn
      rw [hrun'] at hn'
      obtain rfl : error? = error?' := herror
      have hexecuted : mid.executed = mid'.executed := hn.trans hn'.symm
      cases error? with
      | some e =>
        refine ⟨rfl, hmid.stream trivial, ?_⟩
        rw [executed_conclusion, executed_conclusion, hexecuted]
      | none =>
        -- The second application starts with other counters and another log than the run goes on
        -- with, but with the same record and the same stream.
        let once := conclusion engine log first (mid', none)
        let next := outset once.engine once.log mid'.record second
        have hnext : Alike True mid next := ⟨hmid.record, hmid.stream⟩
        obtain ⟨hverdict, k, hk, hk'⟩ := hnext.verdict_run engine.config schema (.inl trivial)
        have hk' : (run engine.config schema second.entries next).1.executed = k :=
          hk'.trans (Nat.zero_add k)
        obtain ⟨-, hlast⟩ := hnext.after_run engine.config schema (.inl trivial)
        refine ⟨hverdict, hlast.stream trivial, ?_⟩
        have hcount := executed_conclusion engine log first (mid', none)
        rw [executed_conclusion, executed_conclusion, hcount, hk', Nat.add_assoc, ← hexecuted]
        exact congrArg _ hk

/-- Two documents without a common operator can be applied as one document or in turn: the same
record is committed or the same entry fails, and as many entries are executed.  Two engines may
do it, if no entry draws from the random stream or both streams are in one state. -/
theorem apply_pushAll {engine engine' : Engine} {first second : Document}
    (hconfig : engine.config = engine'.config) (hsecond : second.Grouped)
    (hdisjoint : first.operators.Disjoint second.operators)
    (hdraw : engine.stream = engine'.stream ∨ Drawless (first.entries ++ second.entries))
    (schema : Schema) (log log' : Log) (base : Record) :
    let together := engine.apply schema log base (first.pushAll second.entries)
    let inTurn := engine'.applyInTurn schema log' base first second
    together.result = inTurn.result ∧
      (engine.stream = engine'.stream → together.engine.stream = inTurn.engine.stream) ∧
      ∃ n, together.engine.metrics.operatorsExecuted = engine.metrics.operatorsExecuted + n ∧
        inTurn.engine.metrics.operatorsExecuted = engine'.metrics.operatorsExecuted + n := by
  have hentries := Document.entries_pushAll hsecond hdisjoint
  obtain ⟨hresult, hstream, hexecuted⟩ := apply_of_entries_append hentries engine' schema log' base
  rw [← hentries] at hdraw
  obtain ⟨hresult', hstream', ⟨m, hm, hm'⟩, -⟩ := apply_alike hconfig hdraw schema log log' base
  refine ⟨hresult'.trans hresult, fun h => (hstream' h).trans hstream, m.operatorsExecuted, ?_, ?_⟩
  · rw [hm]
    rfl
  · rw [← hexecuted, hm']
    rfl

/-- A field that is set and then increased. -/
theorem apply_pushAll_set_inc :
    let engine := start {} (.ofSeed 0)
    let schema : Schema := ⟨[], [("n", .int)]⟩
    let first : Document := ⟨[(.global .set, [("n", .value (.int 2))])]⟩
    let second : Document := ⟨[(.numeric .inc, [("n", .value (.int 3))])]⟩
    (engine.apply schema (.start .info) [] (first.pushAll second.entries)).result =
        .ok [("n", .int 5)] ∧
      (engine.applyInTurn schema (.start .info) [] first second).result =
        .ok [("n", .int 5)] := by
  intro engine schema first second
  have htogether : (engine.apply schema (.start .info) []
      (first.pushAll second.entries)).result = .ok [("n", .int 5)] := rfl
  have hsecond : second.Grouped := ⟨by decide, by decide⟩
  have hset : Operator.global .set ∉ second.operators := by decide
  have hdisjoint : first.operators.Disjoint second.operators := List.singleton_disjoint.mpr hset
  obtain ⟨hresult, -⟩ := apply_pushAll rfl hsecond hdisjoint (.inl rfl) schema (.start .info)
    (.start .info) []
  exact ⟨htogether, hresult.symm.trans htogether⟩

/-- With a common operator the second setting comes before the increase. -/
example :
    let engine := start {} (.ofSeed 0)
    let schema : Schema := ⟨[], [("n", .int)]⟩
    let first : Document := ⟨[(.global .set, [("n", .value (.int 2))]),
      (.numeric .inc, [("n", .value (.int 3))])]⟩
    let second : Document := ⟨[(.global .set, [("n", .value (.int 10))])]⟩
    (engine.apply schema (.start .info) [] (first.pushAll second.entries)).result =
        .ok [("n", .int 13)] ∧
      (engine.applyInTurn schema (.start .info) [] first second).result =
        .ok [("n", .int 10)] := ⟨rfl, rfl⟩

end Engine
end Amend
