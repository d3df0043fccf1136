/-
The command line: a command and its options.  An option is written `--name value` or
`--name=value`; a value that begins with a dash needs the second form, except for a single dash.
Nothing may be given twice, and nothing may be left over.
-/
import Amend.Json.Value

namespace Amend
namespace CommandLine

/-- Why no command is run. -/
inductive UsageError where
  | help
  | version
  | noCommand
  | unknownCommand
  | unknownArgument
  /-- An option without the value it needs. -/
  | noValue
  /-- A value for an option that takes none. -/
  | unneededValue
  | repeatedOption
  | missingOption
deriving DecidableEq

namespace UsageError

/-- The name of the kind of error. -/
def name : UsageError → String
  | .help => "DisplayHelp"
  | .version => "DisplayVersion"
  | .noCommand => "DisplayHelpOnMissingArgumentOrSubcommand"
  | .unknownCommand => "InvalidSubcommand"
  | .unknownArgument => "UnknownArgument"
  | .noValue => "InvalidValue"
  | .unneededValue => "TooManyValues"
  | .repeatedOption => "ArgumentConflict"
  | .missingOption => "MissingRequiredArgument"

def exitCode : UsageError → Nat
  | .help => 0
  | .version => 0
  | _ => 2

end UsageError

/-- An option of a command.  A path must not be empty. -/
structure OptionSpec where
  name : String
  isPath : Bool
  isRequired : Bool
deriving DecidableEq

def applyOptions : List OptionSpec :=
  [⟨"record", true, true⟩, ⟨"update", true, true⟩, ⟨"rules", true, false⟩,
    ⟨"types", true, false⟩, ⟨"config", true, false⟩]

def validateOptions : List OptionSpec :=
  [⟨"field", false, true⟩, ⟨"value", false, true⟩, ⟨"rules", true, true⟩,
    ⟨"config", true, false⟩]

/-- A command with its options. -/
inductive Command where
  | apply (record update : String) (rules types config : Option String)
  | validate (field value rules : String) (config : Option String)
  | operators
deriving DecidableEq

/-- An argument by its form. -/
inductive Argument where
  /-- Two dashes, after which nothing is an option. -/
  | escape
  | long (name : String) (value : Option String)
  /-- The first letter after a single dash. -/
  | short (letter : Char)
  | plain (text : String)

namespace Argument

def ofText (text : String) : Argument :=
  match text.toList with
  | ['-', '-'] => .escape
  | '-' :: '-' :: rest =>
    match rest.span (· != '=') with
    | (name, '=' :: value) => .long (String.ofList name) (some (String.ofList value))
    | (name, _) => .long (String.ofList name) none
  | '-' :: letter :: _ => .short letter
  | _ => .plain text

end Argument

/-- The values of options. -/
abbrev Values := Members String

/-- An option that waits for its value, or whose value has come and is not yet taken. -/
structure Pending where
  option : OptionSpec
  value : Option String

/-- Takes a value for an option. -/
def accept (option : OptionSpec) (value : String) (values : Values) : Except UsageError Values :=
  if values.contains option.name then .error .repeatedOption
  else if option.isPath && value = "" then .error .noValue
  else .ok (values.set option.name value)

/-- Takes the value that has come for the last option. -/
def settle (values : Values) : Option Pending → Except UsageError Values
  | none => .ok values
  | some ⟨option, some value⟩ => accept option value values
  | some ⟨_, none⟩ => .error .noValue

/-- The values of the options of one command. -/
def readOptions (options : List OptionSpec) (values : Values) (pending : Option Pending) :
    List String → Except UsageError Values
  | [] => settle values pending
  | arg :: rest =>
    match Argument.ofText arg with
    | .escape => if rest.isEmpty then settle values pending else .error .unknownArgument
    | .long "help" (some _) => .error .unneededValue
    | .long "help" none => do
      let _ ← settle values pending
      .error .help
    | .long name value =>
      match options.find? fun o => o.name = name with
      | none => .error .unknownArgument
      | some option => do
        let values ← settle values pending
        match value with
        | some value => readOptions options (← accept option value values) none rest
        | none => readOptions options values (some ⟨option, none⟩) rest
    | .short 'h' => do
      let _ ← settle values pending
      .error .help
    | .short _ => .error .unknownArgument
    | .plain text =>
      match pending with
      | some ⟨option, none⟩ => readOptions options values (some ⟨option, some text⟩) rest
      | _ => .error .unknownArgument

/-- The values of all options that a command needs, and of those it may have. -/
def readValues (options : List OptionSpec) (args : List String) : Except UsageError Values := do
  let values ← readOptions options [] none args
  if options.all fun o => !o.isRequired || values.contains o.name then .ok values
  else .error .missingOption

def readApply (args : List String) : Except UsageError Command := do
  let values ← readValues applyOptions args
  match values.get? "record", values.get? "update" with
  | some record, some update =>
    .ok (.apply record update (values.get? "rules") (values.get? "types") (values.get? "config"))
  | _, _ => .error .missingOption

def readValidate (args : List String) : Except UsageError Command := do
  let values ← readValues validateOptions args
  match values.get? "field", values.get? "value", values.get? "rules" with
  | some field, some value, some rules =>
    .ok (.validate field value rules (values.get? "config"))
  | _, _, _ => .error .missingOption

def readOperators (args : List String) : Except UsageError Command := do
  let _ ← readValues [] args
  .ok .operators

def commandNames : List String := ["apply", "validate", "operators", "help"]

/-- What the help command is asked about must be one command. -/
def readHelp : List String → UsageError
  | [] => .help
  | [name] => if commandNames.contains name then .help else .unknownCommand
  | _ => .unknownCommand

/-- Reads a command line without the name of the program. -/
def Command.ofArguments : List String → Except UsageError Command
  | [] => .error .noCommand
  | "apply" :: rest => readApply rest
  | "validate" :: rest => readValidate rest
  | "operators" :: rest => readOperators rest
  | "help" :: rest => .error (readHelp rest)
  | arg :: rest =>
    match Argument.ofText arg with
    | .escape =>
      match rest with
      | [] => .error .noCommand
      | name :: _ =>
        .error (if commandNames.contains name then .unknownArgument else .unknownCommand)
    | .long name value =>
      if name = "help" then .error (if value.isSome then .unneededValue else .help)
      else if name = "version" then .error (if value.isSome then .unneededValue else .version)
      else .error .unknownArgument
    | .short 'h' => .error .help
    | .short 'V' => .error .version
    | .short _ => .error .unknownArgument
    | .plain _ => .error .unknownCommand

end CommandLine
end Amend
