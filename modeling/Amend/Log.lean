/-
Log entries and their lines.  An event of the engine has a severity, and an entry is logged if its
severity is high enough.  A line is one JSON object: the event, the severity, and the fields sorted
by name.
-/
import Amend.Json.Value
import Amend.Unicode.Character

namespace Amend

inductive Severity where
  | trace
  | info
  | warn
  | error
  | fatal
deriving DecidableEq

namespace Severity

/-- The severities from the least to the greatest. -/
def all : List Severity := [.trace, .info, .warn, .error, .fatal]

def level : Severity → Nat
  | .trace => 0
  | .info => 1
  | .warn => 2
  | .error => 3
  | .fatal => 4

/-- The name in log entries. -/
def name : Severity → String
  | .trace => "TRACE"
  | .info => "INFO"
  | .warn => "WARN"
  | .error => "ERROR"
  | .fatal => "FATAL"

/-- The name in configurations. -/
def lowerName : Severity → String
  | .trace => "trace"
  | .info => "info"
  | .warn => "warn"
  | .error => "error"
  | .fatal => "fatal"

/-- Whether an entry of this severity is written when `threshold` is the least that is. -/
def reaches (s threshold : Severity) : Bool := decide (threshold.level ≤ s.level)

def ofLowerName? (name : String) : Option Severity := all.find? fun s => s.lowerName = name

/-- The severity with a name in letters of either case, or the complaint about it. -/
def ofText (text : String) : Except String Severity :=
  let lowered := String.ofList (text.toList.map Char.toLower)
  match ofLowerName? lowered with
  | some s => .ok s
  | none => .error s!"unknown log level '{lowered}'"

end Severity

/-- What an engine reports. -/
inductive Event where
  | configLoaded
  | applyStart
  | applyCommit
  | applyRejected
  | operatorApplied
  | ruleValidationFailed
deriving DecidableEq

namespace Event

def all : List Event :=
  [.configLoaded, .applyStart, .applyCommit, .applyRejected, .operatorApplied,
    .ruleValidationFailed]

def name : Event → String
  | .configLoaded => "CONFIG_LOADED"
  | .applyStart => "UPDATE_APPLY_START"
  | .applyCommit => "UPDATE_APPLY_COMMIT"
  | .applyRejected => "UPDATE_APPLY_REJECTED"
  | .operatorApplied => "UPDATE_OPERATOR_APPLIED"
  | .ruleValidationFailed => "RULE_VALIDATION_FAILED"

def severity : Event → Severity
  | .operatorApplied => .trace
  | .applyStart => .trace
  | .configLoaded => .info
  | .applyCommit => .info
  | .applyRejected => .warn
  | .ruleValidationFailed => .warn

def ofName? (name : String) : Option Event := all.find? fun e => e.name = name

end Event

namespace Log

structure Entry where
  severity : Severity
  event : String
  fields : List (String × String)
deriving DecidableEq

namespace Entry

/-- A character inside a string literal of a line.  No control character is left as it is. -/
def escapeChar (c : Char) : List Char :=
  if c = '"' then ['\\', '"']
  else if c = '\\' then ['\\', '\\']
  else if c = '\n' then ['\\', 'n']
  else if c = '\r' then ['\\', 'r']
  else if c = '\t' then ['\\', 't']
  else if Unicode.isControl c then Json.unicodeEscape c
  else [c]

def quote (s : String) : String := "\"" ++ String.ofList (s.toList.flatMap escapeChar) ++ "\""

def memberText (name value : String) : String := quote name ++ ":" ++ quote value

/-- Puts a field before the first one whose name is greater. -/
def insertField (field : String × String) : List (String × String) → List (String × String)
  | [] => [field]
  | f :: rest => if field.1 < f.1 then field :: f :: rest else f :: insertField field rest

/-- The fields sorted by name.  Fields of one name keep their order. -/
def sortedFields (fields : List (String × String)) : List (String × String) :=
  fields.foldl (fun sorted field => insertField field sorted) []

def members (e : Entry) : List (String × String) :=
  ("event", e.event) :: ("severity", e.severity.name) :: sortedFields e.fields

/-- The line of an entry, without its end. -/
def line (e : Entry) : String :=
  "\x7b" ++ String.intercalate "," (e.members.map fun m => memberText m.1 m.2) ++ "\x7d"

end Entry
end Log

/-- The entries written so far, and the least severity that is written. -/
structure Log where
  threshold : Severity
  entries : List Log.Entry
deriving DecidableEq

namespace Log

def start (threshold : Severity) : Log := ⟨threshold, []⟩

/-- Whether entries of a severity are written. -/
def enabled (log : Log) (severity : Severity) : Bool := severity.reaches log.threshold

/-- Writes an entry unless its severity is too low. -/
def write (log : Log) (entry : Entry) : Log :=
  if log.enabled entry.severity then { log with entries := log.entries ++ [entry] } else log

/-- Reports an event at its own severity. -/
def report (log : Log) (event : Event) (fields : List (String × String)) : Log :=
  log.write ⟨event.severity, event.name, fields⟩

def lines (log : Log) : List String := log.entries.map Entry.line

/-- A line as it is written, with its end. -/
def ended (line : String) : String := line ++ "\n"

end Log
end Amend
