import GalaxyScenario.Binary64
import GalaxyScenario.GalaxyMap

/-!
Home systems: where empires start, and how likely. Each home system takes its turn among the
initializers and has a spawn weight with exactly one modifier. A favoured one has a large bonus;
any other one has a small bonus whenever a random age of the first leader leaves the remainder of
its index, so that the lowest ids are not always filled first.
-/
namespace GalaxyScenario

/-- The modifier of a home system's spawn weight. -/
inductive SpawnWeight where
  | preferred
  | tieBreak (residue : Nat)
  deriving DecidableEq, Repr

structure SpawnDirective where
  initializer : Nat
  weight : SpawnWeight
  deriving DecidableEq, Repr

namespace SpawnDirective

def initializerCount : Nat := 6

def tieBreakModulus : Nat := 10

def initializerOf (index : Nat) : Nat := index % initializerCount + 1

/-- The directive of a star, if it is a home system. Favour alone makes none. -/
def plan (index : Nat) (isPotential isPreferred : Bool) : Option SpawnDirective :=
  if isPotential then
    let weight := if isPreferred then .preferred else .tieBreak (index % tieBreakModulus)
    some ⟨initializerOf index, weight⟩
  else none

theorem isSome_plan (index : Nat) (isPotential isPreferred : Bool) :
    (plan index isPotential isPreferred).isSome = isPotential := by
  cases isPotential <;> rfl

end SpawnDirective

/-- Which stars are home systems: those with a painted key, or the first ones in the list. -/
inductive HomeSelection where
  | painted (keys : KeySet)
  | leading (count : Nat)

namespace HomeSelection

/-- How many of the first stars are home systems when none was painted: six pairs for each two
hundred stars, a begun pair counting in full. -/
def fallbackCount (starCount : Nat) : Nat :=
  Binary64.ceilNat (Float.ofNat starCount / 200.0 * 6.0) * 2

/-- The home systems of a map. Painted ones are used unless there are none and the first stars
are to stand in. -/
def ofMap (m : GalaxyMap) (fallback : Bool) : HomeSelection :=
  if fallback && m.potentialHomes.isEmpty then .leading (fallbackCount m.stars.length)
  else .painted m.potentialHomes

def selects (selection : HomeSelection) (index : Nat) (key : String) : Bool :=
  match selection with
  | .painted keys => keys.contains key
  | .leading count => decide (index < count)

/-- The number of home stars that the capacity for empires is taken from. -/
def count (selection : HomeSelection) (starCount : Nat) : Nat :=
  match selection with
  | .painted keys => keys.size
  | .leading n => min n starCount

end HomeSelection

namespace GalaxyMap

def directive (m : GalaxyMap) (selection : HomeSelection) (index : Nat) (key : String) :
    Option SpawnDirective :=
  SpawnDirective.plan index (selection.selects index key) (m.preferredHomes.contains key)

end GalaxyMap
end GalaxyScenario
