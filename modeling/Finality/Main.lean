import Finality.Cli.Command
import Finality.Host.Standard

/-!
# The program

The outer layer of the command line: it reads the environment and the file that is asked
for, runs `Cli.run`, prints its lines and gives its exit code. Faults go to the error
output.
-/

namespace Finality

/-- The variables that are set. -/
def readEnvironment : IO Environment := do
  let values ← Config.variableNames.mapM fun name => do
    return (name, ← IO.getEnv name)
  return values.filterMap fun (name, value) => value.map fun value => (name, value)

/-- What a path leads to. What is there and cannot be read counts as a directory. -/
def readEntry (path : String) : IO (Option Cli.FileEntry) := do
  try
    let content ← IO.FS.readBinFile path
    return some (.file content.data.toList)
  catch
    | .noFileOrDirectory .. => return none
    | _ => return some .directory

/-- The files among arguments, each under its plain path. -/
def readFiles (arguments : List String) : IO Cli.Files := do
  let entries ← arguments.mapM fun argument => do
    let path := Cli.plainPath argument
    return (path, ← readEntry path)
  return fun path => (entries.lookup path).join

/-- The message of a run that ended early. -/
def explain : Cli.Stop → String
  | .usage fault => fault.message
  | .roster fault => fault.message?.getD "validator file holds a member of another type"
  | .config fault => (fault.report?.map Report.text).getD "a duration has no unit"
  | .markup => "a tag is closed that is not open"
  | .value reason => reason.message
  | .cutPath => "a path holds the character that ends paths"
  | .brokenPath => "a path holds an unpaired surrogate"

end Finality

open Finality in
/-- Run the program. -/
def main (arguments : List String) : IO UInt32 := do
  let environment ← readEnvironment
  let files ← readFiles arguments
  match @Cli.run Host.standard environment files arguments with
  | .ok finished =>
    finished.lines.forM IO.println
    return UInt32.ofNat finished.exit
  | .error stop =>
    IO.eprintln (explain stop)
    return UInt32.ofNat stop.exit
