import GalaxyScenario.Json.Basic

/-! Reading typed values out of JSON values. -/
namespace GalaxyScenario.Json

def toBool? : Json → Option Bool
  | .bool value => some value
  | _ => none

def toFloat? : Json → Option Float
  | .number spelling => (Number.ofChars? spelling).bind Number.toFloat?
  | _ => none

def toUInt32? : Json → Option UInt32
  | .number spelling => (Number.ofChars? spelling).bind Number.toUInt32?
  | _ => none

def bodyText? (body : List Char) : Option String := (Quoted.decode? body).map String.ofList

def toText? : Json → Option String
  | .string body => bodyText? body
  | _ => none

def toListOf? {α : Type} (read : Json → Option α) : Json → Option (List α)
  | .array items => items.mapM read
  | _ => none

def toPairOf? {α β : Type} (read : α → α → β) (item : Json → Option α) : Json → Option β
  | .array [first, second] => do return read (← item first) (← item second)
  | _ => none

abbrev Fields := List (String × Json)

/-- The fields of a record. An object names its fields, in any order and at most once each, and
its other members are skipped. An array holds the values of the first fields in their order. -/
def fields? (names : List String) : Json → Option Fields
  | .array items => if items.length ≤ names.length then some (names.zip items) else none
  | .object members => do
    let named ← members.mapM fun (key, value) => (bodyText? key).map (·, value)
    let known := named.filter fun (name, _) => names.contains name
    if (known.map (·.1)).Nodup then some known else none
  | _ => none

def Fields.getD? {α : Type} (fields : Fields) (name : String) (read : Json → Option α)
    (default : α) : Option α :=
  match fields.lookup name with
  | some value => read value
  | none => some default

/-- The name of a value without parts, written as a text or as an object with that one key and
`null`. -/
def toName? : Json → Option String
  | .string body => bodyText? body
  | .object [(key, .null)] => bodyText? key
  | _ => none

def toNamed? {α : Type} (all : List α) (title : α → String) (j : Json) : Option α :=
  j.toName?.bind fun name => all.find? fun a => title a == name

end GalaxyScenario.Json
