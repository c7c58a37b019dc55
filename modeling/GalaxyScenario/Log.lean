import GalaxyScenario.Text.ControlSequence

/-! Messages about the work, for the person who started it. -/
namespace GalaxyScenario

inductive LogLevel where
  | error | warn | info | debug
  deriving DecidableEq, Repr

namespace LogLevel

def name : LogLevel → String
  | .error => "ERROR"
  | .warn => "WARN"
  | .info => "INFO"
  | .debug => "DEBUG"

/-- The name filled up to the width of the longest one. -/
def padded : LogLevel → String
  | .error => "ERROR"
  | .warn => "WARN "
  | .info => "INFO "
  | .debug => "DEBUG"

end LogLevel

structure LogRecord where
  level : LogLevel
  source : String
  message : String
  deriving DecidableEq, Repr

namespace LogRecord

/-- Whether the record is shown; details are shown on request. -/
def isShown (verbose : Bool) (record : LogRecord) : Bool :=
  verbose || record.level != .debug

def summary (record : LogRecord) : String :=
  record.level.name ++ " " ++ record.source ++ " " ++ record.message

/-- The record as it is written, with its line end. The lines of a message after its first are
indented. -/
def text (record : LogRecord) : String :=
  "[" ++ record.level.padded ++ " " ++ record.source ++ "] " ++
    "\n    ".intercalate (record.message.splitOn "\n") ++ "\n"

def shown (record : LogRecord) : String := Text.visible record.text

end LogRecord
end GalaxyScenario
