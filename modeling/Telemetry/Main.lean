/-
# The command line tool

Reads the host's name, the settings file and the clock, and prints what the
program answers.
-/
import Telemetry.Program

namespace Telemetry.Program

/-- What a file holds, if it can be read as text. -/
def readText (path : String) : IO (Option String) := do
  try
    return some (← IO.FS.readFile path)
  catch _ =>
    return none

/-- The name of the machine. -/
def hostName : IO String := do
  match ← readText "/etc/hostname" with
  | some name => return name.trimAscii.toString
  | none => return "localhost"

def printLine (level : Level) (text : String) : IO Unit := IO.println s!"{level.label} {text}"

def printLog (lines : List LogLine) : IO Unit := lines.forM fun l => printLine l.level l.printed

/-- The settings file that the arguments name. -/
def configText (args : List String) : IO (Option String) :=
  match Invocation.ofArgs? args with
  | some (.run { config? := some path, .. }) => readText path
  | _ => return none

end Telemetry.Program

open Telemetry Program in
/-- The entry point. -/
def main (args : List String) : IO UInt32 := do
  let host ← hostName
  let document? ← configText args
  let start ← IO.monoNanosNow
  IO.sleep 15
  let now ← IO.monoNanosNow
  let exit := run args host (fun _ => document?) ⟨start⟩ ⟨now⟩
  match exit with
  | .usage => IO.eprintln helpText
  | .information text => IO.println text
  | .failure _ => exit.errorText?.forM IO.eprint
  | .finished report =>
    printLog report.before
    report.snapshot.lines.forM (printLine .info)
    printLog report.after
  return UInt32.ofNat exit.status
