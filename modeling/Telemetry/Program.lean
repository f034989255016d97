/-
# The program

What the command line tool does with its arguments: it tells how it is used,
says why it cannot start, or runs the simulation. Everything that comes from
outside, the host's name, the settings file and the clock, is handed in.

Key definitions: `Exit`, `Program.run`.
-/
import Telemetry.CommandLine
import Telemetry.Simulation
import Telemetry.Text.Messages

namespace Telemetry

/-- How the program ends. -/
inductive Exit
  /-- The arguments are not taken. -/
  | usage
  /-- The text that was asked for. -/
  | information (text : String)
  | failure (e : StartError)
  | finished (report : Simulation.Report)
deriving DecidableEq, Repr

namespace Exit

/-- The exit status. -/
def status : Exit → Nat
  | .usage => 2
  | .information _ => 0
  | .failure _ => 1
  | .finished _ => 0

/-- The text for standard error, its line end included. -/
def errorText? : Exit → Option String
  | .failure e => some ("Error: " ++ e.message ++ "\n")
  | _ => none

/-- The first line of the text for standard error. The path in it may hold line
ends. -/
def errorLine? (e : Exit) : Option String := e.errorText?.map firstLine

end Exit

namespace Program

def helpText : String :=
  String.intercalate "\n"
    ["Simulates runtime traffic and prints the recorded metrics", "",
      "Usage: telemetry [OPTIONS]", "",
      "Options:",
      "      --app-id <APP_ID>  App id used as identity tag. Defaults to the host name",
      "      --config <CONFIG>  JSON metrics configuration. Overrides the other metric flags",
      "      --disable-metrics  Run with metrics disabled",
      "      --calls <CALLS>    Concurrent calls issued per actor type [default: 20]",
      "  -h, --help             Print help",
      "  -V, --version          Print version"]

def versionText : String := "telemetry 0.1.0"

/-- The program on the given arguments. `readFile` gives what a file holds, if
it can be read; `start` and `now` are clock readings. -/
def run (args : List String) (host : String) (readFile : String → Option String)
    (start now : Instant) : Exit :=
  match Invocation.ofArgs? args with
  | none => .usage
  | some .help => .information helpText
  | some .version => .information versionText
  | some (.run options) =>
    match options.settings host (options.config?.bind readFile) with
    | .error e => .failure e
    | .ok settings => .finished (Simulation.runInOrder settings options.calls start now)

end Program
end Telemetry
