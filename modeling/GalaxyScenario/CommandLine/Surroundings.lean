import GalaxyScenario.CommandLine.Run
import GalaxyScenario.CommandLine.FileSystem

/-!
A whole run as a function of its arguments and of what surrounds it: the files and the standard
input. What is read of the standard input is gone for whoever reads it next.
-/
namespace GalaxyScenario.CommandLine

/-- What surrounds a run. -/
structure Surroundings where
  files : FileSystem
  stdin : ByteArray

namespace Surroundings

def takeInput (s : Surroundings) : Except FileFailure String × Surroundings :=
  (decodeText s.stdin, { s with stdin := .empty })

/-- The text at a path, and the surroundings once it is read. Nothing comes from a device other than
the standard input. -/
def read (s : Surroundings) (path : String) : Except FileFailure String × Surroundings :=
  match s.files.openToRead path with
  | .ok (.file number) => (decodeText ((s.files.content? number).getD .empty), s)
  | .ok (.device .input) => s.takeInput
  | .ok (.device _) => (.ok "", s)
  | .error failure => (.error failure, s)

def inputs (s : Surroundings) (o : Options) : Inputs :=
  let (map, rest) := if o.readsStdin then s.takeInput else s.read o.map
  ⟨map, o.config.map fun path => (rest.read path).1⟩

end Surroundings

/-- What of a text reaches a device when it is written to what was opened. -/
def Handle.reaching (handle : Handle) (device : Device) (text : String) : String :=
  if handle = .device device then text else ""

def Action.perform (files : FileSystem) : Action → Outcome × FileSystem
  | .finish outcome => (outcome, files)
  | .write said path content next =>
    match files.write path content.toUTF8 with
    | (.ok handle, written) =>
      ((next (.ok ())).after (handle.reaching .output content)
        (said ++ handle.reaching .errors content), written)
    | (.error cause, written) => ((next (.error cause)).after "" said, written)

def usage : String :=
  "\n".intercalate
    ["Compile a painted star map into a static galaxy scenario",
      "",
      "Usage: galaxy-compile [OPTIONS] <MAP>",
      "",
      "Arguments:",
      "  <MAP>  Map JSON exported by the editor (`-` reads stdin)",
      "",
      "Options:",
      "  -o, --output <OUTPUT>      Write the script here instead of stdout",
      "      --config <CONFIG>      Scenario config JSON; missing fields keep their defaults",
      "      --name <NAME>          Override the scenario name",
      "      --priority <PRIORITY>  Override the scenario priority",
      "      --fallback-home-stars  Use the first stars as home systems when none were painted",
      "      --check                Only run diagnostics; exit non-zero on errors",
      "  -v, --verbose              Debug-level logging",
      "  -h, --help                 Print help",
      "  -V, --version              Print version",
      ""]

def versionLine : String := "galaxy-compile 0.1.0\n"

def run (arguments : List String) (s : Surroundings) : Outcome × FileSystem :=
  match Invocation.ofArguments arguments with
  | .run options => (options.execute (s.inputs options)).perform s.files
  | .help => (⟨0, usage, ""⟩, s.files)
  | .version => (⟨0, versionLine, ""⟩, s.files)
  | .misuse => (⟨2, "", ""⟩, s.files)

end GalaxyScenario.CommandLine
