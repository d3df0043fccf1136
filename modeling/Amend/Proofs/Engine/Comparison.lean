/-
Runs from two places.  What a run does to the record depends on the record, and on the random
stream only if an entry draws from it.  The counters, the log and the log level of the
configuration have no part in it.
-/
import Amend.Proofs.Engine.Independence

namespace Amend

namespace Operator

/-- Only `$random` depends on the stream, and only it moves the stream on. -/
theorem dispatch_stream_irrelevant {op : Operator} (hop : op ≠ .numeric .random) (maxDepth : Nat)
    (types : TypeMap) (record : Record) (stream stream' : Random.Stream) (path : String)
    (operand : Operand) :
    dispatch maxDepth types record stream' op path operand =
      { dispatch maxDepth types record stream op path operand with stream := stream' } := by
  unfold dispatch
  cases gate op path types with
  | error e => rfl
  | ok declared =>
    have htransform :
        transform op declared stream' operand = transform op declared stream operand :=
      funext fun current =>
        Engine.transform_stream_irrelevant hop declared stream' stream operand current
    simp only [htransform, if_neg hop]
    cases (Path.update maxDepth record path (transform op declared stream operand)).2 with
    | none => rfl
    | some failure => rfl

/-- An operator that draws nothing, or draws from one stream, makes two attempts that differ at
most in the stream. -/
theorem exists_dispatch_eq {op : Operator} {shared : Prop} {stream stream' : Random.Stream}
    (hdraw : shared ∨ op ≠ .numeric .random) (hstream : shared → stream = stream')
    (maxDepth : Nat) (types : TypeMap) (record : Record) (path : String) (operand : Operand) :
    ∃ after, (shared → (dispatch maxDepth types record stream op path operand).stream = after) ∧
      dispatch maxDepth types record stream' op path operand =
        { dispatch maxDepth types record stream op path operand with stream := after } := by
  rcases hdraw with hshared | hop
  · rw [← hstream hshared]
    exact ⟨_, fun _ => rfl, rfl⟩
  · have hstay := congrArg Attempt.stream
      (dispatch_stream_irrelevant hop maxDepth types record stream stream path operand)
    exact ⟨stream', fun hshared => hstay.trans (hstream hshared),
      dispatch_stream_irrelevant hop maxDepth types record stream stream' path operand⟩

end Operator

namespace Engine

variable {config : Config} {schema : Schema} {entry : Entry} {entries : List Entry}
  {p q : Progress} {shared : Prop}

/-- Whether no entry draws from the random stream. -/
def Drawless (entries : List Entry) : Prop :=
  ∀ entry ∈ entries, entry.operator ≠ .numeric .random

/-- The same record and, if it is shared, the same stream. -/
structure Alike (shared : Prop) (p q : Progress) : Prop where
  record : p.record = q.record
  stream : shared → p.stream = q.stream

/-- An entry that draws nothing, or draws from one stream, does the same in both places. -/
theorem Alike.after_step (h : Alike shared p q) (config : Config) (schema : Schema)
    (hdraw : shared ∨ entry.operator ≠ .numeric .random) :
    (step config schema entry p).2 = (step config schema entry q).2 ∧
      Alike shared (step config schema entry p).1 (step config schema entry q).1 := by
  obtain ⟨record, stream, executed, log⟩ := p
  obtain ⟨_, stream', executed', log'⟩ := q
  obtain ⟨rfl, hstream⟩ := h
  unfold step
  cases admitted config schema.rules entry with
  | error e => exact ⟨rfl, rfl, hstream⟩
  | ok operand =>
    obtain ⟨after, hafter, hsame⟩ := Operator.exists_dispatch_eq hdraw hstream
      config.maxPathDepth schema.types record entry.path operand
    simp only [hsame]
    cases (Operator.dispatch config.maxPathDepth schema.types record stream entry.operator
      entry.path operand).error? with
    | some e => exact ⟨rfl, rfl, hafter⟩
    | none => exact ⟨rfl, rfl, hafter⟩

theorem Alike.after_run (h : Alike shared p q) (config : Config) (schema : Schema)
    (hdraw : shared ∨ Drawless entries) :
    (run config schema entries p).2 = (run config schema entries q).2 ∧
      Alike shared (run config schema entries p).1 (run config schema entries q).1 := by
  refine run_related (List.forall₂_same.mpr fun entry he p q h => ?_) h
  exact h.after_step config schema (hdraw.imp_right fun hdraw => hdraw entry he)

/-- The log level of the configuration is for the log alone. -/
theorem run_logLevel (level : Severity) (entries : List Entry) (p : Progress) :
    run { config with logLevel := level } schema entries p = run config schema entries p := by
  induction entries generalizing p with
  | nil => rfl
  | cons entry rest ih => simp only [run, step, admitted, ih]

end Engine
end Amend
