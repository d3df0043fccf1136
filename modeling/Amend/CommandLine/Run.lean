/-
Running a command.  Its inputs are files, or the standard input for the path `-`.  The answer is
one JSON object: a status with data, or with the code and the message of an error.
-/
import Amend.CommandLine.Arguments
import Amend.Engine.Apply
import Amend.Rule.Json
import Amend.Schema

namespace Amend
namespace CommandLine

/-- Why a command fails. -/
inductive Failure where
  | config (message : String)
  | io (message : String)
  | input (message : String)
  /-- The engine refuses the request. -/
  | update (e : UpdateError)
deriving DecidableEq

namespace Failure

/-- An error of the engine.  One of the configuration is told apart. -/
def ofUpdate : UpdateError → Failure
  | .config message => .config message
  | e => .update e

def code : Failure → String
  | .config _ => "AERO_CLI_CONFIG_ERROR"
  | .io _ => "AERO_CLI_IO_ERROR"
  | .input _ => "AERO_CLI_INVALID_INPUT"
  | .update e => e.code

def message : Failure → String
  | .config message => message
  | .io message => message
  | .input message => message
  | .update e => e.message

/-- The failure in one line. -/
def display (f : Failure) : String := s!"{f.code}: {f.message}"

end Failure

/-- What a command can read: the text of a file, or why there is none, and likewise what is left
of the standard input. -/
structure Inputs where
  file : String → Except String String
  standard : Except String String

abbrev Read := StateT Inputs (Except Failure)

def fail {α : Type} (f : Failure) : Read α := fun _ => .error f

def ofUpdate {α : Type} : Except UpdateError α → Read α
  | .ok a => pure a
  | .error e => fail (.ofUpdate e)

/-- Whether a path is a dash, whatever slashes and dots follow it. -/
def isStandard (path : String) : Bool :=
  match Unicode.Ranges.splitOn '/' path.toList with
  | first :: rest => first == ['-'] && rest.all fun part => part.isEmpty || part == ['.']
  | [] => false

/-- The text behind a path.  The standard input is read to its end. -/
def readText (path : String) : Read String := fun inputs =>
  if isStandard path then
    match inputs.standard with
    | .ok text => .ok (text, { inputs with standard := .ok "" })
    | .error reason => .error (.io reason)
  else
    match inputs.file path with
    | .ok text => .ok (text, inputs)
    | .error reason => .error (.io s!"Failed to read {path}: {reason}")

def readJson (path : String) : Read Value := do
  let text ← readText path
  if (Unicode.trim text.toList).isEmpty then fail (.input s!"{path} is empty")
  else match Json.parse? text with
    | some value => pure value
    | none => fail (.input "JSON error: <parse error>")

def readObject (path : String) : Read Record := do
  match ← readJson path with
  | .obj members => pure members
  | _ => fail (.input s!"{path} must contain a JSON object")

def readRules : Option String → Read RuleSet
  | some path => do ofUpdate (RuleSet.ofJson (← readJson path))
  | none => pure []

def readTypes : Option String → Read TypeMap
  | some path => do ofUpdate (TypeMap.ofJson (← readJson path))
  | none => pure []

/-- What comes of a command: its data or its failure, and what was logged. -/
structure Outcome where
  result : Except Failure Value
  log : Log

/-- The configuration of a command.  A configuration is always a file. -/
def loadConfig (inputs : Inputs) (log : Log) : Option String → Except Failure Config × Log
  | none => (.ok {}, { log with threshold := ({} : Config).logLevel })
  | some path =>
    match Config.load path (inputs.file path) log with
    | (.ok config, log) => (.ok config, { log with threshold := config.logLevel })
    | (.error e, log) => (.error (.ofUpdate e), log)

/-- The inputs of an application, in the order in which they are read. -/
def readRequest (record update : String) (rules types : Option String) :
    Read (Record × Document × Schema) := do
  let base ← readObject record
  let doc ← ofUpdate (Document.ofJson (← readJson update))
  let rules ← readRules rules
  let types ← readTypes types
  pure (base, doc, ⟨rules, types⟩)

def apply (unseeded : Random.Stream) (config : Config) (log : Log)
    (request : Record × Document × Schema) : Outcome :=
  let (base, doc, schema) := request
  let outcome := (Engine.start config unseeded).apply schema log base doc
  match outcome.result with
  | .ok record => ⟨.ok (.obj record), outcome.log⟩
  | .error e => ⟨.error (.ofUpdate e), outcome.log⟩

/-- Validates one value, given as JSON text, by the rules of a field. -/
def validate (config : Config) (field value rules : String) : Read Value := do
  match Json.parse? value with
  | none => fail (.input "--value is not valid JSON: <parse error>")
  | some candidate =>
    let rules ← ofUpdate (RuleSet.ofJson (← readJson rules))
    let normalized ← ofUpdate (rules.validate config.validationPolicy field candidate)
    pure (.obj [("field", .str field), ("value", normalized)])

/-- The operators of each family. -/
def operatorsByFamily : Value :=
  .obj (Operator.Family.all.map fun family =>
    (family.name, .arr ((Operator.all.filter fun op => op.family = family).map fun op =>
      .str op.name)))

/-- Runs a command.  `unseeded` is the random stream for a configuration without a seed. -/
def run (unseeded : Random.Stream) (inputs : Inputs) (log : Log) : Command → Outcome
  | .apply record update rules types config =>
    match loadConfig inputs log config with
    | (.error f, log) => ⟨.error f, log⟩
    | (.ok config, log) =>
      match (readRequest record update rules types).run inputs with
      | .error f => ⟨.error f, log⟩
      | .ok (request, _) => apply unseeded config log request
  | .validate field value rules config =>
    match loadConfig inputs log config with
    | (.error f, log) => ⟨.error f, log⟩
    | (.ok config, log) =>
      match (validate config field value rules).run inputs with
      | .error f => ⟨.error f, log⟩
      | .ok (data, _) => ⟨.ok data, log⟩
  | .operators => ⟨.ok operatorsByFamily, log⟩

/-- The answer to a command. -/
def response : Except Failure Value → Value
  | .ok data => .obj [("status", .str "ok"), ("data", data)]
  | .error f =>
    .obj [("status", .str "error"), ("code", .str f.code), ("message", .str f.message)]

/-- What a run of the program gives back. -/
structure Report where
  exitCode : Nat
  output : List String
  errors : List String

namespace Outcome

def report (o : Outcome) : Report :=
  let output := [(response o.result).text]
  match o.result with
  | .ok _ => ⟨0, output, o.log.lines⟩
  | .error f => ⟨1, output, o.log.lines ++ [f.display]⟩

end Outcome
end CommandLine
end Amend
