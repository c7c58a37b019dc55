import GalaxyScenario.Json.Number
import GalaxyScenario.Json.Quoted

/-! JSON values, with their numbers and strings as they are spelled, and the text of a value. -/
namespace GalaxyScenario

/-- A JSON value. A number is its spelling, and a string is what stands between its quotes. -/
inductive Json where
  | null
  | bool (value : Bool)
  | number (spelling : List Char)
  | string (body : List Char)
  | array (items : List Json)
  | object (members : List (List Char × Json))
  deriving Repr, Inhabited

namespace Json

def ofString (text : String) : Json := .string (Quoted.encode text.toList)

/-- The number with that value; there is none for NaN and the infinities. -/
def ofFloat (x : Float) : Json :=
  if Binary64.isFinite x then .number (Layout.json.chars x) else .null

def ofNat (n : Nat) : Json := .number (Decimal.digitList n)

def ofMembers (members : List (String × Json)) : Json :=
  .object (members.map fun (name, value) => (Quoted.encode name.toList, value))

def quote (body : List Char) : List Char := '"' :: (body ++ ['"'])

mutual

def chars : Json → List Char
  | .null => ['n', 'u', 'l', 'l']
  | .bool true => ['t', 'r', 'u', 'e']
  | .bool false => ['f', 'a', 'l', 's', 'e']
  | .number spelling => spelling
  | .string body => quote body
  | .array items => '[' :: itemChars items
  | .object members => '{' :: memberChars members

def itemChars : List Json → List Char
  | [] => [']']
  | [item] => chars item ++ [']']
  | item :: items => chars item ++ ',' :: itemChars items

def memberChars : List (List Char × Json) → List Char
  | [] => ['}']
  | [(key, value)] => quote key ++ ':' :: (chars value ++ ['}'])
  | (key, value) :: members => quote key ++ ':' :: (chars value ++ ',' :: memberChars members)

end

def text (j : Json) : String := String.ofList j.chars

end Json
end GalaxyScenario
