import GalaxyScenario.Json.Basic
import GalaxyScenario.Json.Token

/-!
JSON values from tokens. The values that are still open form a stack, so values nest as deeply as
they like and each token takes one step.
-/
namespace GalaxyScenario.Json

/-- An open array or object: what it holds so far, in reverse, and for an object also the key
whose value comes next. -/
inductive Frame where
  | array (items : List Json)
  | object (members : List (List Char × Json)) (key : List Char)
  deriving Repr

/-- What may come next, inside the open values from the innermost out. -/
inductive Expects where
  | aValue (stack : List Frame)
  | firstItem (stack : List Frame)
  | firstKey (stack : List Frame)
  | nextKey (members : List (List Char × Json)) (stack : List Frame)
  | colon (members : List (List Char × Json)) (key : List Char) (stack : List Frame)
  | afterValue (value : Json) (stack : List Frame)
  deriving Repr

namespace Expects

def beginValue (stack : List Frame) : Token → Option Expects
  | .null => some (.afterValue .null stack)
  | .bool value => some (.afterValue (.bool value) stack)
  | .number spelling => some (.afterValue (.number spelling) stack)
  | .string body => some (.afterValue (.string body) stack)
  | .openBracket => some (.firstItem stack)
  | .openBrace => some (.firstKey stack)
  | _ => none

def step : Expects → Token → Option Expects
  | .aValue stack, token => beginValue stack token
  | .firstItem stack, .closeBracket => some (.afterValue (.array []) stack)
  | .firstItem stack, token => beginValue (.array [] :: stack) token
  | .firstKey stack, .closeBrace => some (.afterValue (.object []) stack)
  | .firstKey stack, .string key => some (.colon [] key stack)
  | .nextKey members stack, .string key => some (.colon members key stack)
  | .colon members key stack, .colon => some (.aValue (.object members key :: stack))
  | .afterValue value (.array items :: stack), .comma =>
    some (.aValue (.array (value :: items) :: stack))
  | .afterValue value (.array items :: stack), .closeBracket =>
    some (.afterValue (.array (value :: items).reverse) stack)
  | .afterValue value (.object members key :: stack), .comma =>
    some (.nextKey ((key, value) :: members) stack)
  | .afterValue value (.object members key :: stack), .closeBrace =>
    some (.afterValue (.object ((key, value) :: members).reverse) stack)
  | _, _ => none

def result? : Expects → Option Json
  | .afterValue value [] => some value
  | _ => none

end Expects

def ofTokens? (tokens : List Token) : Option Json :=
  (tokens.foldlM Expects.step (.aValue [])).bind Expects.result?

def parse? (text : String) : Option Json := (Token.scan? text.toList).bind ofTokens?

end GalaxyScenario.Json
