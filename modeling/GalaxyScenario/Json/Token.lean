import GalaxyScenario.Json.Number
import GalaxyScenario.Json.Quoted

/-!
The tokens of a JSON text, found one character at a time. A number or a word ends at the first
character that cannot belong to one, and that character is then looked at anew.
-/
namespace GalaxyScenario.Json

/-- A token. Numbers and strings keep their spelling, which follows the grammar. -/
inductive Token where
  | openBrace | closeBrace | openBracket | closeBracket | comma | colon
  | null
  | bool (value : Bool)
  | number (spelling : List Char)
  | string (body : List Char)
  deriving DecidableEq, Repr

namespace Token

def isBlank (c : Char) : Bool := c == ' ' || c == '\t' || c == '\r' || c == '\n'

def isNumberChar (c : Char) : Bool :=
  c.isDigit || c == '-' || c == '+' || c == '.' || c == 'e' || c == 'E'

def punctuation? (c : Char) : Option Token :=
  match c with
  | '{' => some .openBrace
  | '}' => some .closeBrace
  | '[' => some .openBracket
  | ']' => some .closeBracket
  | ',' => some .comma
  | ':' => some .colon
  | _ => none

def ofWord? : List Char → Option Token
  | ['n', 'u', 'l', 'l'] => some .null
  | ['t', 'r', 'u', 'e'] => some (.bool true)
  | ['f', 'a', 'l', 's', 'e'] => some (.bool false)
  | _ => none

def ofNumber? (spelling : List Char) : Option Token :=
  (Number.ofChars? spelling).map fun _ => .number spelling

def ofBody? (body : List Char) : Option Token :=
  if Quoted.isBody body then some (.string body) else none

/-- The token that has been begun, with its characters so far in reverse. -/
inductive Begun where
  | nothing
  | number (read : List Char)
  | word (read : List Char)
  | string (read : List Char)
  | escape (read : List Char)
  deriving Repr

/-- The tokens found so far, in reverse, and the one that has been begun. -/
structure Scan where
  found : List Token
  begun : Begun
  deriving Repr

def begin? (found : List Token) (c : Char) : Option Scan :=
  if isBlank c then some ⟨found, .nothing⟩
  else if c = '"' then some ⟨found, .string []⟩
  else if c.isDigit ∨ c = '-' then some ⟨found, .number [c]⟩
  else if c.isLower then some ⟨found, .word [c]⟩
  else (punctuation? c).map fun token => ⟨token :: found, .nothing⟩

def step (scan : Scan) (c : Char) : Option Scan :=
  match scan.begun with
  | .nothing => begin? scan.found c
  | .number read =>
    if isNumberChar c then some ⟨scan.found, .number (c :: read)⟩
    else (ofNumber? read.reverse).bind fun token => begin? (token :: scan.found) c
  | .word read =>
    if c.isLower then some ⟨scan.found, .word (c :: read)⟩
    else (ofWord? read.reverse).bind fun token => begin? (token :: scan.found) c
  | .string read =>
    if c = '"' then (ofBody? read.reverse).map fun token => ⟨token :: scan.found, .nothing⟩
    else if c = '\\' then some ⟨scan.found, .escape (c :: read)⟩
    else some ⟨scan.found, .string (c :: read)⟩
  | .escape read => some ⟨scan.found, .string (c :: read)⟩

def finish (scan : Scan) : Option (List Token) :=
  match scan.begun with
  | .nothing => some scan.found.reverse
  | .number read => (ofNumber? read.reverse).map fun token => (token :: scan.found).reverse
  | .word read => (ofWord? read.reverse).map fun token => (token :: scan.found).reverse
  | .string _ | .escape _ => none

def scan? (cs : List Char) : Option (List Token) :=
  (cs.foldlM step ⟨[], .nothing⟩).bind finish

end Token
end GalaxyScenario.Json
