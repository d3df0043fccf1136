/-
Applying update documents.  The entries of a document are applied one after the other to a copy
of the record, each with an operand that the rules of its path accept.  The first error rejects
the whole document; only a document without errors gives a new record.  The engine counts what
it does.
-/
import Amend.Engine.Config
import Amend.Engine.Document
import Amend.Log
import Amend.Operator.Dispatch
import Amend.Rule.Validate

namespace Amend

structure Metrics where
  appliesStarted : Nat := 0
  appliesCommitted : Nat := 0
  appliesRejected : Nat := 0
  operatorsExecuted : Nat := 0
  validationFailures : Nat := 0
deriving DecidableEq

namespace Metrics

/-- The counters as JSON. -/
def toJson (m : Metrics) : Value :=
  .obj [("applies_started", .int m.appliesStarted),
    ("applies_committed", .int m.appliesCommitted),
    ("applies_rejected", .int m.appliesRejected),
    ("operators_executed", .int m.operatorsExecuted),
    ("validation_failures", .int m.validationFailures)]

end Metrics

/-- An engine with its configuration, its counters and its random stream. -/
structure Engine where
  config : Config
  metrics : Metrics
  stream : Random.Stream

/-- What holds for the fields of a record: their rules and their declared kinds. -/
structure Schema where
  rules : RuleSet
  types : TypeMap

namespace Engine

/-- A new engine.  Its random stream starts from the seed of the configuration, or from
`unseeded` where there is none. -/
def start (config : Config) (unseeded : Random.Stream) : Engine :=
  ⟨config, {}, match config.randomSeed with
    | some seed => .ofSeed seed
    | none => unseeded⟩

/-- The operand with the normalized form of the part that its operator writes. -/
def normalized (policy : ValidationPolicy) (rules : RuleSet) (entry : Entry) :
    Except UpdateError Operand :=
  match entry.operand, entry.operator.written with
  | .value candidate, .whole => do
    .ok (.value (← rules.validate policy entry.path candidate))
  | .value (.obj members), .member name =>
    match Members.get? members name with
    | some part => do
      let value ← rules.validate policy entry.path part
      .ok (.value (.obj (Members.set members name value)))
    | none => .ok entry.operand
  | operand, _ => .ok operand

/-- The operand that an operator gets: the normalized one where it is another one than before and
the configuration asks for it. -/
def admitted (config : Config) (rules : RuleSet) (entry : Entry) : Except UpdateError Operand := do
  let operand ← normalized config.validationPolicy rules entry
  .ok (if config.applyNormalizedOperands && !operand.same entry.operand then operand
    else entry.operand)

/-- The log with the entry that an operator was applied, if entries about single operators are
written. -/
def reportOperator (entry : Entry) (log : Log) : Log :=
  if log.enabled .trace then
    log.report .operatorApplied [("operator", entry.operator.name), ("path", entry.path)]
  else log

/-- How far the application of a document has come. -/
structure Progress where
  record : Record
  stream : Random.Stream
  executed : Nat
  log : Log

/-- The progress after one entry, and the error if there was one. -/
def step (config : Config) (schema : Schema) (entry : Entry) (p : Progress) :
    Progress × Option UpdateError :=
  match admitted config schema.rules entry with
  | .error e => (p, some e)
  | .ok operand =>
    let attempt := Operator.dispatch config.maxPathDepth schema.types p.record p.stream
      entry.operator entry.path operand
    match attempt.error? with
    | some e => ({ p with record := attempt.record, stream := attempt.stream }, some e)
    | none =>
      ({ record := attempt.record
         stream := attempt.stream
         executed := p.executed + 1
         log := reportOperator entry p.log }, none)

/-- The progress after all entries, or after the first that fails with its error. -/
def run (config : Config) (schema : Schema) :
    List Entry → Progress → Progress × Option UpdateError
  | [], p => (p, none)
  | entry :: rest, p =>
    match step config schema entry p with
    | (p, none) => run config schema rest p
    | (p, some e) => (p, some e)

/-- The entries that report a rejection. -/
def reportRejection (e : UpdateError) (log : Log) : Log :=
  let message := ("message", e.message)
  let log := if e.isValidation then log.report .ruleValidationFailed [message] else log
  log.report .applyRejected [("code", e.code), message]

/-- What one application of a document leads to. -/
structure Outcome where
  result : Except UpdateError Record
  engine : Engine
  log : Log

/-- Applies a document to a record. -/
def apply (engine : Engine) (schema : Schema) (log : Log) (base : Record) (doc : Document) :
    Outcome :=
  let count := [("entries", toString doc.size)]
  let (p, error?) := run engine.config schema doc.entries
    ⟨base, engine.stream, 0, log.report .applyStart count⟩
  let m := engine.metrics
  let started := { m with
    appliesStarted := m.appliesStarted + 1
    operatorsExecuted := m.operatorsExecuted + p.executed }
  match error? with
  | none =>
    { result := .ok p.record
      engine := { engine with
        stream := p.stream
        metrics := { started with appliesCommitted := m.appliesCommitted + 1 } }
      log := p.log.report .applyCommit count }
  | some e =>
    { result := .error e
      engine := { engine with
        stream := p.stream
        metrics := { started with
          appliesRejected := m.appliesRejected + 1
          validationFailures := m.validationFailures + if e.isValidation then 1 else 0 } }
      log := reportRejection e p.log }

end Engine

/-- Applies a document by a new engine with the default configuration. -/
def applyOnce (unseeded : Random.Stream) (schema : Schema) (base : Record) (doc : Document) :
    Except UpdateError Record :=
  ((Engine.start {} unseeded).apply schema (.start .info) base doc).result

end Amend
