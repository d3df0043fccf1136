/-
The account that an engine gives of its work.  The counters and the log of an application follow
from its result and the number of entries that it has executed, so the counters of an engine are
sums over the calls that it has got.
-/
import Amend.Proofs.Engine.Comparison
import Mathlib.Algebra.GroupWithZero.Nat

namespace Amend

def Event.entry (event : Event) (fields : List (String × String)) : Log.Entry :=
  ⟨event.severity, event.name, fields⟩

namespace Log

def writeAll (log : Log) (new : List Entry) : Log := new.foldl write log

theorem writeAll_append (log : Log) (first second : List Entry) :
    log.writeAll (first ++ second) = (log.writeAll first).writeAll second := List.foldl_append

theorem writeAll_eq (log : Log) (new : List Entry) :
    log.writeAll new =
      ⟨log.threshold, log.entries ++ new.filter fun e => e.severity.reaches log.threshold⟩ := by
  induction new generalizing log with
  | nil => rw [List.filter_nil, List.append_nil]; rfl
  | cons e rest ih =>
    have hcons : log.writeAll (e :: rest) = (log.write e).writeAll rest := rfl
    rw [hcons, ih, write, enabled, List.filter_cons]
    cases e.severity.reaches log.threshold with
    | true => simp only [if_true, List.append_assoc, List.singleton_append]
    | false => rfl

/-- Where the least severity is written, every entry is. -/
theorem entries_writeAll_of_trace {log : Log} (h : log.threshold = .trace) (new : List Entry) :
    (log.writeAll new).entries = log.entries ++ new := by
  have hall : ∀ e ∈ new, e.severity.reaches log.threshold = true := by
    intro e _
    rw [h]
    exact decide_eq_true (Nat.zero_le _)
  rw [writeAll_eq, List.filter_eq_self.mpr hall]

end Log

namespace Metrics

instance : Add Metrics where
  add m n := ⟨m.appliesStarted + n.appliesStarted, m.appliesCommitted + n.appliesCommitted,
    m.appliesRejected + n.appliesRejected, m.operatorsExecuted + n.operatorsExecuted,
    m.validationFailures + n.validationFailures⟩

theorem add_eq (m n : Metrics) :
    m + n = ⟨m.appliesStarted + n.appliesStarted, m.appliesCommitted + n.appliesCommitted,
      m.appliesRejected + n.appliesRejected, m.operatorsExecuted + n.operatorsExecuted,
      m.validationFailures + n.validationFailures⟩ := rfl

theorem zero_add (m : Metrics) : ({} : Metrics) + m = m := by
  simp only [add_eq, Nat.zero_add]

theorem add_assoc (m n k : Metrics) : m + n + k = m + (n + k) := by
  simp only [add_eq, Nat.add_assoc]

end Metrics

namespace Engine

variable {config : Config} {schema : Schema} {entry : Entry} {entries : List Entry}
  {p q : Progress}

/-! ## Runs -/

/-- The index of the first entry with which the run fails, or the number of entries if it does not
fail at all. -/
def firstFailing (config : Config) (schema : Schema) (entries : List Entry) (p : Progress) : Nat :=
  (List.range entries.length).findIdx fun i => (run config schema (entries.take (i + 1)) p).2.isSome

theorem firstFailing_cons (entry : Entry) (rest : List Entry) (p : Progress) :
    firstFailing config schema (entry :: rest) p =
      match step config schema entry p with
      | (mid, none) => firstFailing config schema rest mid + 1
      | (_, some _) => 0 := by
  have hfirst :
      run config schema ((entry :: rest).take (0 + 1)) p = step config schema entry p := by
    rw [List.take_succ_cons, List.take_zero, run]
    cases step config schema entry p with
    | mk mid error? => cases error? <;> rfl
  have hlater (i : Nat) : (entry :: rest).take (i + 1 + 1) = entry :: rest.take (i + 1) := rfl
  unfold firstFailing
  rw [List.length_cons, List.range_succ_eq_map, List.findIdx_cons, hfirst]
  cases hs : step config schema entry p with
  | mk mid error? =>
    cases error? with
    | some e => rfl
    | none =>
      simp only [List.findIdx_map, Option.isSome_none, cond_false, Function.comp_def, hlater, run,
        hs]

/-- All entries come before it exactly where the run does not fail. -/
theorem firstFailing_eq_length_iff :
    firstFailing config schema entries p = entries.length ↔
      (run config schema entries p).2 = none := by
  induction entries generalizing p with
  | nil => exact ⟨fun _ => rfl, fun _ => rfl⟩
  | cons entry rest ih =>
    rw [firstFailing_cons, run]
    cases step config schema entry p with
    | mk mid error? =>
      cases error? with
      | none => exact Nat.succ_inj.trans ih
      | some e => exact iff_of_false (Nat.succ_ne_zero _).symm (Option.some_ne_none e)

def applied (entry : Entry) : Log.Entry :=
  Event.operatorApplied.entry [("operator", entry.operator.name), ("path", entry.path)]

/-- Asking for the severity beforehand changes nothing, since the log asks again. -/
theorem reportOperator_eq (entry : Entry) (log : Log) :
    reportOperator entry log = log.write (applied entry) := by
  unfold reportOperator
  split
  · rfl
  · next h => exact (if_neg h).symm

theorem step_account (config : Config) (schema : Schema) (entry : Entry) (p : Progress) :
    match step config schema entry p with
    | (mid, none) => mid.executed = p.executed + 1 ∧ mid.log = p.log.write (applied entry)
    | (mid, some _) => mid.executed = p.executed ∧ mid.log = p.log := by
  unfold step
  cases admitted config schema.rules entry with
  | error e => exact ⟨rfl, rfl⟩
  | ok operand =>
    simp only
    cases (Operator.dispatch config.maxPathDepth schema.types p.record p.stream entry.operator
      entry.path operand).error? with
    | some e => exact ⟨rfl, rfl⟩
    | none => exact ⟨rfl, reportOperator_eq entry p.log⟩

/-- A run executes and reports the entries before the first that fails. -/
theorem run_account (config : Config) (schema : Schema) (entries : List Entry) (p : Progress) :
    (run config schema entries p).1.executed =
        p.executed + firstFailing config schema entries p ∧
      (run config schema entries p).1.log =
        p.log.writeAll ((entries.take (firstFailing config schema entries p)).map applied) := by
  -- Each step that succeeds moves the index on and writes one entry; the first that fails ends
  -- both.
  induction entries generalizing p with
  | nil => exact ⟨rfl, rfl⟩
  | cons entry rest ih =>
    have hstep := step_account config schema entry p
    rw [firstFailing_cons, run]
    cases hs : step config schema entry p with
    | mk mid error? =>
      rw [hs] at hstep
      cases error? with
      | some e => exact hstep
      | none =>
        obtain ⟨hexecuted, hlog⟩ := hstep
        obtain ⟨ihexecuted, ihlog⟩ := ih mid
        rw [hexecuted] at ihexecuted
        rw [hlog] at ihlog
        exact ⟨ihexecuted.trans (Nat.add_right_comm _ _ _), ihlog⟩

/-- From places that are alike the same entry is the first to fail. -/
theorem Alike.firstFailing_eq {shared : Prop} (h : Alike shared p q) (config : Config)
    (schema : Schema) (hdraw : shared ∨ Drawless entries) :
    firstFailing config schema entries p = firstFailing config schema entries q := by
  unfold firstFailing
  congr 1
  funext i
  have htake : shared ∨ Drawless (entries.take (i + 1)) :=
    hdraw.imp_right fun hdraw entry he => hdraw entry (List.mem_of_mem_take he)
  rw [(h.after_run config schema htake).1]

/-! ## Applications -/

/-- What an application adds to the counters when it has executed `n` entries. -/
def counted (result : Except UpdateError Record) (n : Nat) : Metrics :=
  match result with
  | .ok _ => { appliesStarted := 1, appliesCommitted := 1, operatorsExecuted := n }
  | .error e =>
    { appliesStarted := 1, appliesRejected := 1, operatorsExecuted := n,
      validationFailures := if e.isValidation then 1 else 0 }

def closing (doc : Document) : Except UpdateError Record → List Log.Entry
  | .ok _ => [Event.applyCommit.entry [("entries", toString doc.size)]]
  | .error e =>
    (if e.isValidation then [Event.ruleValidationFailed.entry [("message", e.message)]] else []) ++
      [Event.applyRejected.entry [("code", e.code), ("message", e.message)]]

/-- The entries about an application that has executed the first `n` entries of its document. -/
def reported (doc : Document) (result : Except UpdateError Record) (n : Nat) : List Log.Entry :=
  Event.applyStart.entry [("entries", toString doc.size)] ::
    (doc.entries.take n).map applied ++ closing doc result

/-- The result of an application whose run has ended. -/
def verdict : Progress × Option UpdateError → Except UpdateError Record
  | (p, none) => .ok p.record
  | (_, some e) => .error e

theorem reportRejection_eq (e : UpdateError) (doc : Document) (log : Log) :
    reportRejection e log = log.writeAll (closing doc (.error e)) := by
  unfold reportRejection closing
  simp only
  split
  · rfl
  · rfl

/-- Runs from places that are alike end alike: with one result, after as many entries. -/
theorem Alike.verdict_run {shared : Prop} (h : Alike shared p q) (config : Config)
    (schema : Schema) (hdraw : shared ∨ Drawless entries) :
    verdict (run config schema entries p) = verdict (run config schema entries q) ∧
      ∃ n, (run config schema entries p).1.executed = p.executed + n ∧
        (run config schema entries q).1.executed = q.executed + n := by
  constructor
  · obtain ⟨herror, hafter⟩ := h.after_run config schema hdraw
    cases hp : run config schema entries p with
    | mk p' error? =>
      cases hq : run config schema entries q with
      | mk q' error?' =>
        rw [hp, hq] at herror hafter
        obtain rfl : error? = error?' := herror
        cases error? with
        | none => exact congrArg Except.ok hafter.record
        | some e => rfl
  · refine ⟨firstFailing config schema entries p, (run_account config schema entries p).1, ?_⟩
    rw [h.firstFailing_eq config schema hdraw]
    exact (run_account config schema entries q).1

/-- An application whose run has ended. -/
def conclusion (engine : Engine) (log : Log) (doc : Document)
    (ended : Progress × Option UpdateError) : Outcome :=
  let result := verdict ended
  let n := ended.1.executed
  ⟨result, ⟨engine.config, engine.metrics + counted result n, ended.1.stream⟩,
    log.writeAll (reported doc result n)⟩

theorem executed_conclusion (engine : Engine) (log : Log) (doc : Document)
    (ended : Progress × Option UpdateError) :
    (conclusion engine log doc ended).engine.metrics.operatorsExecuted =
      engine.metrics.operatorsExecuted + ended.1.executed := by
  unfold conclusion counted
  cases verdict ended with
  | ok record => rfl
  | error e => rfl

theorem executed_run_outset (engine : Engine) (schema : Schema) (log : Log) (base : Record)
    (doc : Document) :
    (run engine.config schema doc.entries (outset engine log base doc)).1.executed =
      firstFailing engine.config schema doc.entries (outset engine log base doc) :=
  (run_account engine.config schema doc.entries _).1.trans (Nat.zero_add _)

/-- The counters and the log of an application follow from its result and the number of entries
that its run has executed. -/
theorem apply_eq_conclusion (engine : Engine) (schema : Schema) (log : Log) (base : Record)
    (doc : Document) :
    engine.apply schema log base doc = conclusion engine log doc
      (run engine.config schema doc.entries (outset engine log base doc)) := by
  have hlog := (run_account engine.config schema doc.entries (outset engine log base doc)).2
  rw [← executed_run_outset] at hlog
  cases hrun : run engine.config schema doc.entries (outset engine log base doc) with
  | mk p error? =>
    rw [hrun] at hlog
    have hreported (result : Except UpdateError Record) :
        log.writeAll (reported doc result p.executed) = p.log.writeAll (closing doc result) := by
      rw [reported, Log.writeAll_append, show p.log = _ from hlog]
      rfl
    -- `apply` writes the place from which it starts out in full.
    rw [outset] at hrun
    unfold apply conclusion
    simp only [hrun, hreported]
    cases error? with
    | none => rfl
    | some e =>
      simp only [reportRejection_eq e doc]
      rfl

theorem config_apply (engine : Engine) (schema : Schema) (log : Log) (base : Record)
    (doc : Document) : (engine.apply schema log base doc).engine.config = engine.config := by
  rw [apply_eq_conclusion]
  rfl

/-- Engines of one configuration do the same, count the same and have the same to report, if no
entry draws from the random stream or both streams are in one state. -/
theorem apply_alike {engine engine' : Engine} {doc : Document}
    (hconfig : engine.config = engine'.config)
    (hdraw : engine.stream = engine'.stream ∨ Drawless doc.entries)
    (schema : Schema) (log log' : Log) (base : Record) :
    let outcome := engine.apply schema log base doc
    let outcome' := engine'.apply schema log' base doc
    outcome.result = outcome'.result ∧
      (engine.stream = engine'.stream → outcome.engine.stream = outcome'.engine.stream) ∧
      (∃ m, outcome.engine.metrics = engine.metrics + m ∧
        outcome'.engine.metrics = engine'.metrics + m) ∧
      ∃ new, outcome.log = log.writeAll new ∧ outcome'.log = log'.writeAll new := by
  have hstart : Alike (engine.stream = engine'.stream) (outset engine log base doc)
      (outset engine' log' base doc) := ⟨rfl, id⟩
  obtain ⟨hverdict, n, hn, hn'⟩ := hstart.verdict_run engine.config schema hdraw
  obtain ⟨-, hafter⟩ := hstart.after_run engine.config schema hdraw
  have hn := hn.trans (Nat.zero_add n)
  have hn' := hn'.trans (Nat.zero_add n)
  rw [apply_eq_conclusion, apply_eq_conclusion, ← hconfig]
  unfold conclusion
  rw [← hverdict, hn, hn']
  exact ⟨rfl, hafter.stream, ⟨_, rfl, rfl⟩, ⟨_, rfl, rfl⟩⟩

end Engine

/-! ## Sequences of applications -/

structure Call where
  schema : Schema
  log : Log
  base : Record
  doc : Document

namespace Call

def on (call : Call) (engine : Engine) : Engine.Outcome :=
  engine.apply call.schema call.log call.base call.doc

/-- The index of the first entry that fails in this call, or the number of entries. -/
def firstFailing (call : Call) (engine : Engine) : Nat :=
  Engine.firstFailing engine.config call.schema call.doc.entries
    (engine.outset call.log call.base call.doc)

end Call

namespace Engine

def Outcome.commits (outcome : Outcome) : Bool :=
  match outcome.result with
  | .ok _ => true
  | .error _ => false

/-- Whether a rule has rejected an operand. -/
def Outcome.failsValidation (outcome : Outcome) : Bool :=
  match outcome.result with
  | .ok _ => false
  | .error e => e.isValidation

/-- The engine after calls in turn. -/
def after (engine : Engine) : List Call → Engine
  | [] => engine
  | call :: rest => (call.on engine).engine.after rest

/-- Calls in turn, each with the engine as it finds it. -/
def made (engine : Engine) : List Call → List (Engine × Call)
  | [] => []
  | call :: rest => (engine, call) :: (call.on engine).engine.made rest

/-- The counters of all calls together. -/
def tally (made : List (Engine × Call)) : Metrics where
  appliesStarted := made.length
  appliesCommitted := made.countP fun c => (c.2.on c.1).commits
  appliesRejected := made.countP fun c => !(c.2.on c.1).commits
  operatorsExecuted := (made.map fun c => c.2.firstFailing c.1).sum
  validationFailures := made.countP fun c => (c.2.on c.1).failsValidation

theorem tally_cons (engine : Engine) (call : Call) (rest : List (Engine × Call)) :
    tally ((engine, call) :: rest) =
      counted (call.on engine).result (call.firstFailing engine) + tally rest := by
  simp only [tally, List.length_cons, List.countP_cons, List.map_cons, List.sum_cons,
    Metrics.add_eq, Metrics.mk.injEq]
  unfold counted Outcome.commits Outcome.failsValidation
  cases (call.on engine).result with
  | ok record => simp [Nat.add_comm]
  | error e => simp [Nat.add_comm]

theorem length_made (engine : Engine) (calls : List Call) :
    (engine.made calls).length = calls.length := by
  induction calls generalizing engine with
  | nil => rfl
  | cons call rest ih => exact congrArg (· + 1) (ih _)

/-- The counters of an engine have gone on by what its calls count. -/
theorem metrics_after (engine : Engine) (calls : List Call) :
    (engine.after calls).metrics = engine.metrics + tally (engine.made calls) := by
  induction calls generalizing engine with
  | nil => rfl
  | cons call rest ih =>
    have hcall : (call.on engine).engine.metrics =
        engine.metrics + counted (call.on engine).result (call.firstFailing engine) := by
      rw [Call.on, apply_eq_conclusion, Call.firstFailing, ← executed_run_outset]
      rfl
    rw [made, tally_cons, ← Metrics.add_assoc, ← hcall]
    exact ih (call.on engine).engine

/-- A new engine accounts for its calls: each is counted as started, and as committed or rejected,
those that fail validation besides, and every entry executed before the first that fails.  At the
least severity the log of each call has its start, the entries executed in order, and its end. -/
theorem calls_accounted (config : Config) (unseeded : Random.Stream) (calls : List Call) :
    let engine := start config unseeded
    let made := engine.made calls
    let m := (engine.after calls).metrics
    m.appliesStarted = calls.length ∧
      m.appliesCommitted + m.appliesRejected = calls.length ∧
      m.appliesCommitted = (made.countP fun c => (c.2.on c.1).commits) ∧
      m.validationFailures = (made.countP fun c => (c.2.on c.1).failsValidation) ∧
      m.operatorsExecuted = (made.map fun c => c.2.firstFailing c.1).sum ∧
      ∀ engine call, (engine, call) ∈ made → call.log.threshold = .trace →
        (call.on engine).log.entries = call.log.entries ++
          reported call.doc (call.on engine).result (call.firstFailing engine) := by
  intro engine made m
  have hm : m = tally made := (metrics_after engine calls).trans (Metrics.zero_add _)
  have hlength : made.length = calls.length := length_made engine calls
  rw [hm, ← hlength]
  refine ⟨rfl, ?_, rfl, rfl, rfl, ?_⟩
  · have hsplit : made.length = made.countP (fun c => (c.2.on c.1).commits) +
        made.countP (fun c => decide ¬(c.2.on c.1).commits = true) :=
      List.length_eq_countP_add_countP _
    simpa only [tally, Bool.not_eq_true, Bool.decide_eq_false] using hsplit.symm
  · intro engine call _ htrace
    rw [Call.on, apply_eq_conclusion, Call.firstFailing, ← executed_run_outset]
    exact Log.entries_writeAll_of_trace htrace _

/-- Of two appended texts one is too long: three entries are executed, and the log of the second
call tells why there is no fourth. -/
theorem calls_accounted_long_append :
    let engine := start {} (.ofSeed 0)
    let call (text : String) : Call :=
      ⟨⟨[("s", [.check (.maxLength 1)])], [("s", .string)]⟩, .start .trace, [("s", .str "a")],
        ⟨[(.global .set, [("t", .value .null)]), (.text .append, [("s", .value (.str text))])]⟩⟩
    let m := (engine.after [call "b", call "bc"]).metrics
    let log := ((call "bc").on ((call "b").on engine).engine).log
    let message :=
      "Validation failed for field 's' on rule $maxLength: expected length <= 1, got 2"
    m.appliesStarted = 2 ∧ m.validationFailures = 1 ∧ m.operatorsExecuted = 3 ∧
      log.entries = [
        ⟨.trace, "UPDATE_APPLY_START", [("entries", "2")]⟩,
        ⟨.trace, "UPDATE_OPERATOR_APPLIED", [("operator", "$set"), ("path", "t")]⟩,
        ⟨.warn, "RULE_VALIDATION_FAILED", [("message", message)]⟩,
        ⟨.warn, "UPDATE_APPLY_REJECTED",
          [("code", "AERO_UPDATE_VALIDATION_FAILED"), ("message", message)]⟩] := by
  intro engine call m log message
  obtain ⟨hstarted, -, -, hfailures, hexecuted, hlog⟩ :=
    calls_accounted {} (.ofSeed 0) [call "b", call "bc"]
  have hsecond : (((call "b").on engine).engine, call "bc") ∈ engine.made [call "b", call "bc"] :=
    List.mem_cons_of_mem _ List.mem_cons_self
  have hentries := hlog _ _ hsecond rfl
  exact ⟨hstarted, hfailures, hexecuted, hentries.trans (by decide +kernel)⟩

end Engine
end Amend
