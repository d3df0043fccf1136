/-
What an update does not depend on: how much of it is logged, and what the engine has done before.
The log of an application has the lines that it would have at the least severity, less those that
are below its own.
-/
import Amend.Proofs.Engine.Account

namespace Amend
namespace Engine

/-- The engine with another log level in its configuration. -/
def atLevel (engine : Engine) (level : Severity) : Engine :=
  { engine with config := { engine.config with logLevel := level } }

theorem apply_atLevel (engine : Engine) (level : Severity) (schema : Schema) (log : Log)
    (base : Record) (doc : Document) :
    (engine.atLevel level).apply schema log base doc =
      { engine.apply schema log base doc with
        engine := (engine.apply schema log base doc).engine.atLevel level } := by
  have hrun : run (engine.atLevel level).config schema doc.entries
      (outset (engine.atLevel level) log base doc) =
      run engine.config schema doc.entries (outset engine log base doc) :=
    run_logLevel level doc.entries _
  rw [apply_eq_conclusion, apply_eq_conclusion, hrun]
  rfl

theorem config_after (engine : Engine) (calls : List Call) :
    (engine.after calls).config = engine.config := by
  induction calls generalizing engine with
  | nil => rfl
  | cons call rest ih =>
    rw [after, ih, Call.on, config_apply]

/-- A document that draws nothing has one result and counts one amount, at every log level and
after all earlier calls.  The log gets the entries of the least severity that reach its own. -/
theorem apply_unobserved (engine : Engine) (schema : Schema) (base : Record) {doc : Document}
    (hdraw : Drawless doc.entries) (level : Severity) (calls : List Call) (log log' : Log) :
    let later := (engine.atLevel level).after calls
    let outcome := engine.apply schema log base doc
    let outcome' := later.apply schema log' base doc
    outcome'.result = outcome.result ∧
      (∃ m, outcome'.engine.metrics = later.metrics + m ∧
        outcome.engine.metrics = engine.metrics + m) ∧
      outcome'.log.entries = log'.entries ++
        (engine.apply schema (.start .trace) base doc).log.entries.filter fun e =>
          e.severity.reaches log'.threshold := by
  intro later outcome outcome'
  -- The later engine has another log level than `engine`, so it is compared with `engine.atLevel`.
  have hconfig : later.config = (engine.atLevel level).config := config_after _ calls
  obtain ⟨hresult, -, hmetrics, -⟩ := apply_alike hconfig (.inr hdraw) schema log' log base
  obtain ⟨-, -, -, new, hnew, htrace⟩ :=
    apply_alike hconfig (.inr hdraw) schema log' (.start .trace) base
  rw [apply_atLevel] at hresult hmetrics htrace
  have htrace : (engine.apply schema (.start .trace) base doc).log.entries = new := by
    rw [htrace]
    exact Log.entries_writeAll_of_trace rfl new
  refine ⟨hresult, hmetrics, ?_⟩
  rw [htrace, show outcome'.log = _ from hnew, Log.writeAll_eq]

/-- After a call that was rejected, an engine at another level rejects it again, for the same
reason.  Of the four entries the log gets the two about the rejection. -/
theorem apply_unobserved_warn :
    let engine := start {} (.ofSeed 0)
    let schema : Schema := ⟨[("s", [.check (.maxLength 1)])], [("s", .string)]⟩
    let base : Record := [("s", .str "a")]
    let doc : Document :=
      ⟨[(.global .set, [("t", .value .null)]), (.text .append, [("s", .value (.str "bc"))])]⟩
    let later := (engine.atLevel .fatal).after [⟨schema, .start .trace, base, doc⟩]
    let outcome := later.apply schema (.start .warn) base doc
    outcome.result = (engine.apply schema (.start .info) base doc).result ∧
      outcome.log.entries.map Log.Entry.event =
        ["RULE_VALIDATION_FAILED", "UPDATE_APPLY_REJECTED"] := by
  intro engine schema base doc later outcome
  have hdraw : Drawless doc.entries := by
    unfold Drawless
    decide
  obtain ⟨hresult, -, hlog⟩ := apply_unobserved engine schema base hdraw .fatal
    [⟨schema, .start .trace, base, doc⟩] (.start .info) (.start .warn)
  refine ⟨hresult, ?_⟩
  rw [hlog]
  decide +kernel

end Engine
end Amend
