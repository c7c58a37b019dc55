import GalaxyScenario.CommandLine.Options
import GalaxyScenario.Config.Document
import GalaxyScenario.Finding
import GalaxyScenario.GalaxyMap.Document
import GalaxyScenario.Log
import GalaxyScenario.Script

/-!
A run of the command line. It reads a map and perhaps a configuration, reports what it finds, and
either stops there or compiles the map. The only thing it changes is the file for the script.
-/
namespace GalaxyScenario.CommandLine

structure Outcome where
  exitCode : Nat
  stdout : String
  stderr : String
  deriving DecidableEq, Repr

def Outcome.after (outcome : Outcome) (stdout stderr : String) : Outcome :=
  { outcome with stdout := stdout ++ outcome.stdout, stderr := stderr ++ outcome.stderr }

/-- The texts that a run asks for. -/
structure Inputs where
  map : Except FileFailure String
  config : Option (Except FileFailure String)

/-- What is left of a run once its texts are there. If a file has to be written, how the run ends
depends on how that went. -/
inductive Action where
  | finish (outcome : Outcome)
  | write (said path content : String) (next : Except FileFailure Unit → Outcome)

def runSource : String := "galaxy_compile"

def shownLog (verbose : Bool) (log : List LogRecord) : String :=
  String.join ((log.filter (LogRecord.isShown verbose)).map LogRecord.shown)

def findingRecord (f : Finding) : LogRecord :=
  ⟨if f.isError then .error else .warn, runSource, "[" ++ f.category ++ "] " ++ f.message⟩

def checkLine (starCount : Nat) (findings : List Finding) : String :=
  let errors := findings.countP (·.isError)
  "=== RESULT: " ++ toString starCount ++ " stars, " ++ toString errors ++ " errors, " ++
    toString (findings.length - errors) ++ " warnings ===\n"

namespace Options

def readsStdin (o : Options) : Bool := o.map == "-"

def loadMap (o : Options) (text : Except FileFailure String) : Except String GalaxyMap :=
  match o.readsStdin, text with
  | true, .error _ => .error "Failed to read map from stdin"
  | true, .ok text => (GalaxyMap.ofText text).mapError fun _ => "Failed to parse map from stdin"
  | false, text => (GalaxyMap.load o.map text).mapError fun _ => "Unable to load map " ++ o.map

/-- A configuration with the values from the command line in it. -/
def applyTo (o : Options) (config : Config) : Config :=
  { config with
    name := o.name.getD config.name
    priority := o.priority.getD config.priority
    fallbackHomes := o.fallbackHomes || config.fallbackHomes }

def loadConfig (o : Options) (text : Option (Except FileFailure String)) : Except String Config :=
  match o.config, text with
  | some path, some text =>
    ((Config.load path text).map o.applyTo).mapError fun _ =>
      "Unable to load scenario config " ++ path
  | _, _ => .ok (o.applyTo {})

def failure (reason : String) : Outcome := ⟨1, "", "Error: " ++ reason ++ "\n"⟩

def writeFailure (path : String) (cause : FileFailure) : String :=
  "Failed to write scenario to " ++ path ++ "\n\nCaused by:\n    " ++ cause.description

/-- A run that only checks a map. It fails when some finding is an error. -/
def checkMap (o : Options) (m : GalaxyMap) (config : Config) : Outcome :=
  let findings := m.findings config
  { exitCode := if hasErrors findings then 1 else 0
    stdout := checkLine m.stars.length findings
    stderr := shownLog o.verbose (findings.map findingRecord) }

def compileMap (o : Options) (m : GalaxyMap) (config : Config) : Action :=
  let compilation := m.compile config
  let log := (m.findings config).map findingRecord ++ compilation.log
  let details : LogRecord := ⟨.debug, runSource, compilation.stats.report⟩
  match o.output with
  | none => .finish ⟨0, compilation.script, shownLog o.verbose (log ++ [details])⟩
  | some path =>
    .write (shownLog o.verbose log) path compilation.script fun
      | .ok () => ⟨0, "", shownLog o.verbose [⟨.info, runSource, "Wrote " ++ path⟩, details]⟩
      | .error cause => failure (writeFailure path cause)

def execute (o : Options) (inputs : Inputs) : Action :=
  match o.loadMap inputs.map with
  | .error reason => .finish (failure reason)
  | .ok m =>
    match o.loadConfig inputs.config with
    | .error reason => .finish (failure reason)
    | .ok config => if o.check then .finish (o.checkMap m config) else o.compileMap m config

end Options
end GalaxyScenario.CommandLine
