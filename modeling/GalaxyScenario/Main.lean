import GalaxyScenario.CommandLine.Surroundings

/-! The program: a run in the directory it is started in. -/

open GalaxyScenario GalaxyScenario.CommandLine

/-- All bytes of a stream after those already read. -/
partial def readToEnd (stream : IO.FS.Stream) (read : ByteArray) : IO ByteArray := do
  let chunk ← stream.read 65536
  if chunk.isEmpty then return read else readToEnd stream (read ++ chunk)

def fileFailure : IO.Error → FileFailure
  | .noFileOrDirectory .. => .notFound
  | e => .other (toString e)

def readTextFile (path : String) : IO (Except FileFailure String) := do
  try return decodeText (← IO.FS.readBinFile path) catch e => return .error (fileFailure e)

def writeTextFile (path content : String) : IO (Except FileFailure Unit) := do
  try IO.FS.writeFile path content; return .ok () catch e => return .error (fileFailure e)

def readStdin : IO (Except FileFailure String) := do
  return decodeText (← readToEnd (← IO.getStdin) ByteArray.empty)

def readInputs (options : Options) : IO Inputs := do
  let map ← if options.readsStdin then readStdin else readTextFile options.map
  let config ← options.config.mapM readTextFile
  return { map, config }

def present (outcome : Outcome) : IO UInt32 := do
  IO.eprint outcome.stderr
  IO.print outcome.stdout
  return UInt32.ofNat outcome.exitCode

def main (arguments : List String) : IO UInt32 := do
  match Invocation.ofArguments arguments with
  | .help => IO.print usage; return 0
  | .version => IO.print versionLine; return 0
  | .misuse => IO.eprint usage; return 2
  | .run options =>
    match options.execute (← readInputs options) with
    | .finish outcome => present outcome
    | .write said path content next =>
      IO.eprint said
      present (next (← writeTextFile path content))
