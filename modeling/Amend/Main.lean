/-
The program: reads the command line and the inputs it names, runs the command, and prints the
answer, the log and the exit code.
-/
import Amend.CommandLine.Run

namespace Amend
namespace CommandLine

/-- The text of bytes in UTF-8. -/
def decode (bytes : ByteArray) : Except String String :=
  match String.fromUTF8? bytes with
  | some text => .ok text
  | none => .error "stream did not contain valid UTF-8"

/-- Why the system refuses a file. -/
def reasonOf : IO.Error → String
  | .noFileOrDirectory _ code _ => s!"No such file or directory (os error {code})"
  | .permissionDenied _ code _ => s!"Permission denied (os error {code})"
  | other => toString other

def readFile (path : String) : IO (Except String String) := do
  try
    return decode (← IO.FS.readBinFile path)
  catch e => return .error (reasonOf e)

def readStandard : IO (Except String String) := do
  return decode (← (← IO.getStdin).readBinToEnd)

/-- The files that a command may read. -/
def Command.paths : Command → List String
  | .apply record update rules types config =>
    [record, update] ++ rules.toList ++ types.toList ++ config.toList
  | .validate _ _ rules config => rules :: config.toList
  | .operators => []

/-- Whether a command may read the standard input. -/
def Command.usesStandard : Command → Bool
  | .apply record update rules types _ =>
    ([record, update] ++ rules.toList ++ types.toList).any isStandard
  | .validate _ _ rules _ => isStandard rules
  | .operators => false

/-- Reads everything a command may ask for. -/
def gather (command : Command) : IO Inputs := do
  let contents ← command.paths.mapM fun path => return (path, ← readFile path)
  let standard ← if command.usesStandard then readStandard else pure (.ok "")
  return ⟨fun path => (contents.lookup path).getD (.error "not read"), standard⟩

end CommandLine
end Amend

open Amend CommandLine in
def main (args : List String) : IO UInt32 := do
  match Command.ofArguments args with
  | .error e =>
    IO.eprintln s!"error: {e.name}"
    return e.exitCode.toUInt32
  | .ok command =>
    let unseeded := Random.Stream.ofSeed (← IO.rand 0 0xFFFFFFFFFFFFFFFF)
    let report := (run unseeded (← gather command) (.start .info) command).report
    report.errors.forM fun line => IO.eprint (Log.ended line)
    report.output.forM IO.println
    return report.exitCode.toUInt32
