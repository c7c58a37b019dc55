import GalaxyScenario.Binary64

/-! How many empires the game may fill a galaxy with. -/
namespace GalaxyScenario

structure EmpireCapacity where
  max : UInt32
  default : UInt32
  deriving DecidableEq, Repr

namespace EmpireCapacity

/-- Home stars for each empire of the largest number: in no game is every start taken. -/
def starsPerEmpire : Float := 1.5

def ceiling : Nat := UInt32.size - 1

/-- The capacity of a galaxy with that many home stars: one empire for each one and a half of
them, and half of that as the default, both to the nearest whole number with halves going up. The
default is half of the number before it is cut down to the ceiling. -/
def ofHomeStars (count : Nat) : EmpireCapacity :=
  let most := Binary64.nearestNat (Float.ofNat count / starsPerEmpire)
  let half := Binary64.nearestNat (Float.ofNat most / 2.0)
  ⟨UInt32.ofNat (min most ceiling), UInt32.ofNat (min half ceiling)⟩

end EmpireCapacity
end GalaxyScenario
