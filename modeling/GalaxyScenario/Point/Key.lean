import GalaxyScenario.Point
import GalaxyScenario.Decimal.Numeral
import GalaxyScenario.Text.Blank

/-! Reading a star's key back into a position. -/
namespace GalaxyScenario

/-- Why a text is not the key of a position. -/
inductive KeyError where
  | arity (key : String)
  | notANumber (key component : String)
  deriving DecidableEq, Repr

namespace KeyError

def message : KeyError → String
  | .arity key => "star key `" ++ key ++ "` must have exactly two comma-separated components"
  | .notANumber key component =>
    "star key `" ++ key ++ "` has a non-numeric component `" ++ component ++ "`"

end KeyError

namespace Point

def components? (cs : List Char) : Option (List Char × List Char) :=
  match cs.dropWhile (· != ',') with
  | _ :: right => if right.contains ',' then none else some (cs.takeWhile (· != ','), right)
  | [] => none

def coordinate? (key : String) (component : List Char) : Except KeyError Float :=
  match Numeral.read? (Text.trim component) with
  | some value => .ok value
  | none => .error (.notANumber key (String.ofList component))

/-- The position that a key names. The first component that is no number is the one reported. -/
def ofKey (key : String) : Except KeyError Point :=
  match components? key.toList with
  | none => .error (.arity key)
  | some (left, right) => do
    let x ← coordinate? key left
    let y ← coordinate? key right
    return ⟨x, y⟩

end Point
end GalaxyScenario
