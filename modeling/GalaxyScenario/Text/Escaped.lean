import GalaxyScenario.Text.Unseen

/-!
File names in messages: in double quotes, with double quotes, backslashes and everything that does
not show written as escapes.
-/
namespace GalaxyScenario.Text

/-- A character in a quoted file name. -/
def escapeChar (c : Char) : List Char :=
  match c with
  | '"' => ['\\', '"']
  | '\\' => ['\\', '\\']
  | '\t' => ['\\', 't']
  | '\r' => ['\\', 'r']
  | '\n' => ['\\', 'n']
  | '\x00' => ['\\', '0']
  | c =>
    if isUnseen c then ['\\', 'u', '{'] ++ Nat.toDigits 16 c.toNat ++ ['}'] else [c]

def quoted (name : String) : String :=
  String.ofList ('"' :: (name.toList.flatMap escapeChar ++ ['"']))

end GalaxyScenario.Text
