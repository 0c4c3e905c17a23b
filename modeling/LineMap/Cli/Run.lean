import LineMap.Cli.Arguments
import LineMap.Cli.Report
import LineMap.Source.Load
/-!
# The command

Runs the command on a file system: reads the arguments, loads the file,
checks all offsets, and only then reports, so that a run that fails prints
nothing but the failure. A bad usage exits with two, an unreadable file or
an offset that is out of range with one; any other fault is not the
command's to report.
-/

namespace LineMap.Cli

/-- What a run of the command prints, and its exit code. Both streams are
taken to accept every text. -/
structure Outcome where
  exit : Nat
  stdout : String
  stderr : String
deriving DecidableEq

/-- How the command is used. -/
def usage : String :=
  "usage: srcloc [-h] [--json] file offsets [offsets ...]\n"

/-- What the command is for and what it takes. -/
def help : String :=
  usage ++ "
Resolve text offsets to line:column locations

positional arguments:
  file        Source file to read
  offsets     0-based offsets into the file

options:
  -h, --help  show this help message and exit
  --json      Print locations as JSON
"

/-- How a failure is reported. -/
def failure (message : String) : String :=
  "srcloc: error: " ++ message ++ "\n"

/-- Whether the command reports a fault and exits. -/
def isReported : Fault → Bool
  | .unreadable .. | .outOfRange .. => true
  | _ => false

/-- The source and the positions of a request; the file comes first. -/
def prepare (fs : FileSystem) (home : Option String) (request : Request) :
    Except Fault (Source × List Position) := do
  let source ← Source.load fs home request.file
  let positions ← request.offsets.mapM fun offset => Position.ofSize (.int offset)
  return (source, positions)

/-- The answer to a request. -/
def answer (fs : FileSystem) (home : Option String) (request : Request) : Except Fault Outcome :=
  match prepare fs home request with
  | .ok (source, positions) => do
    let report ←
      if request.json then jsonReport source positions else plainReport source positions
    return ⟨0, report, ""⟩
  | .error fault =>
    if isReported fault then .ok ⟨1, "", failure fault.message⟩ else .error fault

/-- **A run of the command.** -/
def run (fs : FileSystem) (home : Option String) (arguments : List String) :
    Except Fault Outcome :=
  match Command.ofArguments arguments with
  | .ok .help => .ok ⟨0, help, ""⟩
  | .ok (.locate request) => answer fs home request
  | .error mistake => .ok ⟨2, "", usage ++ failure mistake.message⟩

/-- The file that a run reads, if it reads one, where each name with a tilde
stands for its directory. -/
def fileOf? (directory? : String → Option String) (arguments : List String) : Option Path :=
  match Command.ofArguments arguments with
  | .ok (.locate request) => ((Path.ofString request.file).expandHome directory?).toOption
  | _ => none

end LineMap.Cli
