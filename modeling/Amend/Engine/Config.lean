/-
The configuration of an engine.  Every setting has a default.  As JSON, a configuration is an
object with a member for each setting, or an array of settings in a fixed order.
-/
import Amend.Error
import Amend.Json.Reader
import Amend.Log
import Amend.Path.Resolver
import Amend.Rule.Validate

namespace Amend

namespace ValidationPolicy

def all : List ValidationPolicy := [.skipAbsent, .skipFalsy]

def name : ValidationPolicy → String
  | .skipAbsent => "skip_absent"
  | .skipFalsy => "skip_falsy"

def ofName? (name : String) : Option ValidationPolicy := all.find? fun p => p.name = name

end ValidationPolicy

structure Config where
  validationPolicy : ValidationPolicy := .skipAbsent
  /-- Whether operators get the normalized operands that validation returns. -/
  applyNormalizedOperands : Bool := true
  maxPathDepth : Nat := Path.defaultMaxDepth
  /-- The seed of the random stream, if it is to be reproducible. -/
  randomSeed : Option Nat := none
  logLevel : Severity := .info
deriving DecidableEq

namespace Config

/-- A name from a closed set, as a string or as the only member of an object, which is null. -/
def readName {α : Type} (ofName? : String → Option α) : Value → Option α
  | .str name => ofName? name
  | .obj [(name, .null)] => ofName? name
  | _ => none

def readSeed : Value → Option (Option Nat)
  | .null => some none
  | value => value.toUnsigned?.map some

/-- Changes one setting, given by its value. -/
structure Setting where
  name : String
  read : Value → Config → Option Config

/-- The settings in the order of the array form. -/
def settings : List Setting :=
  [⟨"validation_policy", fun v c =>
      (readName ValidationPolicy.ofName? v).map fun policy =>
        { c with validationPolicy := policy }⟩,
    ⟨"apply_normalized_operands", fun v c =>
      match v with
      | .bool b => some { c with applyNormalizedOperands := b }
      | _ => none⟩,
    ⟨"max_path_depth", fun v c => v.toUnsigned?.map fun n => { c with maxPathDepth := n }⟩,
    ⟨"random_seed", fun v c => (readSeed v).map fun seed => { c with randomSeed := seed }⟩,
    ⟨"log_level", fun v c =>
      (readName Severity.ofLowerName? v).map fun level => { c with logLevel := level }⟩]

def setting? (name : String) : Option Setting := settings.find? fun s => s.name = name

/-- Whether the member is no setting.  Such members are passed over. -/
def isUnknown (name : String) : Bool := (setting? name).isNone

/-- The configuration with the settings of an object.  No setting may come twice. -/
def ofMembers? (seen : List String) (c : Config) : List (String × Value) → Option Config
  | [] => some c
  | (name, value) :: rest =>
    match setting? name with
    | none => ofMembers? seen c rest
    | some s =>
      if seen.contains name then none
      else (s.read value c).bind fun c => ofMembers? (name :: seen) c rest

/-- The configuration with the settings of an array.  The last ones may be missing. -/
def ofItems? (c : Config) : List Setting → List Value → Option Config
  | _, [] => some c
  | [], _ :: _ => none
  | s :: settings, value :: rest => (s.read value c).bind fun c => ofItems? c settings rest

/-- Reads a configuration without looking at its limits. -/
def parse? (text : String) : Option Config :=
  match Json.parseMembers? isUnknown text with
  | some members => ofMembers? [] {} members
  | none =>
    match Json.parse? text with
    | some (.arr items) => ofItems? {} settings items
    | _ => none

/-- The greatest number of segments that can be allowed. -/
def depthLimit : Nat := 1024

def check (c : Config) : Except UpdateError Config :=
  if c.maxPathDepth = 0 then .error (.config "max_path_depth must be > 0")
  else if depthLimit < c.maxPathDepth then
    .error (.config s!"max_path_depth must be <= {depthLimit}, got {c.maxPathDepth}")
  else .ok c

/-- Reads a configuration. -/
def ofText (text : String) : Except UpdateError Config :=
  match parse? text with
  | some c => c.check
  | none => .error (.config "Invalid config JSON: <parse error>")

/-- Reads a configuration from the contents of a file, and reports that it was loaded. -/
def load (path : String) (contents : Except String String) (log : Log) :
    Except UpdateError Config × Log :=
  match contents with
  | .error reason => (.error (.config s!"Failed to read config {path}: {reason}"), log)
  | .ok text =>
    match ofText text with
    | .error e => (.error e, log)
    | .ok c =>
      (.ok c, log.report .configLoaded
        [("path", path), ("max_path_depth", toString c.maxPathDepth)])

/-- The configuration as JSON. -/
def toJson (c : Config) : Value :=
  .obj [("validation_policy", .str c.validationPolicy.name),
    ("apply_normalized_operands", .bool c.applyNormalizedOperands),
    ("max_path_depth", .int c.maxPathDepth),
    ("random_seed", match c.randomSeed with
      | some seed => .int seed
      | none => .null),
    ("log_level", .str c.logLevel.lowerName)]

end Config
end Amend
