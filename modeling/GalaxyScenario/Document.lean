import GalaxyScenario.Json.Decode
import GalaxyScenario.Json.Parse
import GalaxyScenario.Text.Escaped

/-! Documents that are read from files, and what can go wrong with them. -/
namespace GalaxyScenario

inductive FileFailure where
  | notFound
  | notADirectory
  | isDirectory
  | notUtf8
  | unnameable
  | nameTooLong
  | tooManyLinks
  | other (description : String)
  deriving DecidableEq, Repr

def FileFailure.description : FileFailure → String
  | .notFound => "No such file or directory (os error 2)"
  | .notADirectory => "Not a directory (os error 20)"
  | .isDirectory => "Is a directory (os error 21)"
  | .notUtf8 => "stream did not contain valid UTF-8"
  | .unnameable => "file name contained an unexpected NUL byte"
  | .nameTooLong => "File name too long (os error 36)"
  | .tooManyLinks => "Too many levels of symbolic links (os error 40)"
  | .other description => description

def decodeText (bytes : ByteArray) : Except FileFailure String :=
  match String.fromUTF8? bytes with
  | some text => .ok text
  | none => .error .notUtf8

inductive DocumentError where
  | malformed
  | unreadable (path : String) (failure : FileFailure)
  deriving DecidableEq, Repr

/-- The message shown for the error, where `what` names the kind of document. -/
def DocumentError.message (what : String) : DocumentError → String
  | .malformed => "failed to parse " ++ what ++ ": "
  | .unreadable path failure =>
    "failed to read " ++ what ++ " from " ++ Text.quoted path ++ ": " ++ failure.description

def readDocument {α : Type} (decode : Json → Option α) (text : String) : Except DocumentError α :=
  match (Json.parse? text).bind decode with
  | some document => .ok document
  | none => .error .malformed

def loadDocument {α : Type} (decode : Json → Option α) (path : String)
    (text : Except FileFailure String) : Except DocumentError α :=
  match text with
  | .ok text => readDocument decode text
  | .error failure => .error (.unreadable path failure)

end GalaxyScenario
