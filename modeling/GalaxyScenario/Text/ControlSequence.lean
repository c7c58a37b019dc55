/-!
Texts without terminal control. Control characters other than blanks are left out, and so are whole
control sequences, so that nothing that stands in a message can command a terminal. A sequence that
is never ended takes the rest of the text with it.
-/
namespace GalaxyScenario.Text

/-- Where a text stands with respect to control sequences. -/
inductive ControlState where
  | outside
  | escape
  | longEscape
  | parameters
  | deviceHead
  | deviceParameters
  | deviceTail
  | deviceString
  | systemCommand
  deriving DecidableEq, Repr

def isControlCode (n : Nat) : Bool := n < 0x20 || n == 0x7F

def isBlankControl (c : Char) : Bool := c == '\t' || c == '\n' || c == '\r' || c == '\x0c'

def holdsTerminator (c : Char) : Bool := (String.utf8EncodeChar c).contains 0x9C

namespace ControlState

def afterPrintable (s : ControlState) (c : Char) : ControlState :=
  let n := c.toNat
  match s with
  | .outside => .outside
  | .escape =>
    if n < 0x30 then .longEscape
    else
      match c with
      | '[' => .parameters
      | ']' => .systemCommand
      | 'P' => .deviceHead
      | 'X' | '^' | '_' => .deviceString
      | _ => .outside
  | .longEscape => if n < 0x30 then .longEscape else .outside
  | .parameters => if n < 0x40 then .parameters else .outside
  | .deviceHead =>
    if n < 0x30 then .deviceTail else if n < 0x40 then .deviceParameters else .deviceString
  | .deviceParameters =>
    if n < 0x30 then .deviceTail else if n < 0x3C then .deviceParameters else .deviceString
  | .deviceTail => if n < 0x30 then .deviceTail else .deviceString
  | .deviceString => .deviceString
  | .systemCommand => .systemCommand

/-- The state after a character that is not shown. An escape begins a new sequence anywhere, and
two control characters cancel any. -/
def after (s : ControlState) (c : Char) : ControlState :=
  let n := c.toNat
  if n = 0x1B then .escape
  else if n = 0x18 ∨ n = 0x1A then .outside
  else if isControlCode n then if n = 0x07 ∧ s = .systemCommand then .outside else s
  else if 0x80 ≤ n then if s = .deviceString ∧ holdsTerminator c then .outside else s
  else s.afterPrintable c

/-- Whether blanks are shown. Inside of strings and commands they are not. -/
def showsBlanks : ControlState → Bool
  | .outside | .escape | .longEscape | .parameters => true
  | _ => false

end ControlState

/-- How far a text has been read. After a blank that interrupts a sequence, characters are shown up
to the next control character, and there the sequence goes on. -/
structure Passage where
  state : ControlState := .outside
  interrupted : Bool := false
  deriving DecidableEq, Repr

namespace Passage

def shows (p : Passage) (c : Char) : Bool :=
  if isBlankControl c then p.state.showsBlanks
  else !isControlCode c.toNat && (p.interrupted || p.state == .outside)

/-- The passage after a character. A shown character beyond ASCII ends an interrupted sequence. -/
def after (p : Passage) (c : Char) : Passage :=
  if !p.shows c then ⟨p.state.after c, false⟩
  else if 0x80 ≤ c.toNat then {}
  else ⟨p.state, true⟩

def visible (p : Passage) : List Char → List Char
  | [] => []
  | c :: rest => if p.shows c then c :: (p.after c).visible rest else (p.after c).visible rest

end Passage

def visible (text : String) : String := String.ofList (({} : Passage).visible text.toList)

end GalaxyScenario.Text
