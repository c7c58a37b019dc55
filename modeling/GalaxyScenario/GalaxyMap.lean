import GalaxyScenario.KeySet
import GalaxyScenario.Point

/-! The painted map: stars, hyperlanes, wormholes and the stars where empires may start. -/
namespace GalaxyScenario

structure Link where
  first : Point
  second : Point
  deriving BEq, Repr

/-- A painted map. The order of the stars decides their ids, and homes are given by keys of stars.
-/
structure GalaxyMap where
  stars : List Point := []
  hyperlanes : List Link := []
  wormholes : List Link := []
  potentialHomes : KeySet := ∅
  preferredHomes : KeySet := ∅

instance : Inhabited GalaxyMap := ⟨{}⟩

namespace GalaxyMap

def ofStars (stars : List Point) : GalaxyMap := { stars }

def addStar (m : GalaxyMap) (star : Point) : GalaxyMap := { m with stars := m.stars ++ [star] }

def addHyperlane (m : GalaxyMap) (link : Link) : GalaxyMap :=
  { m with hyperlanes := m.hyperlanes ++ [link] }

def addWormhole (m : GalaxyMap) (link : Link) : GalaxyMap :=
  { m with wormholes := m.wormholes ++ [link] }

def addPotentialHome (m : GalaxyMap) (star : Point) : GalaxyMap :=
  { m with potentialHomes := m.potentialHomes.insert star.key }

/-- The map in which a position is favoured; that alone does not make it a possible start. -/
def addPreferredHome (m : GalaxyMap) (star : Point) : GalaxyMap :=
  { m with preferredHomes := m.preferredHomes.insert star.key }

def isPotentialHome (m : GalaxyMap) (star : Point) : Bool := m.potentialHomes.contains star.key

def isPreferredHome (m : GalaxyMap) (star : Point) : Bool := m.preferredHomes.contains star.key

/-- The map with one home key put in the place of another, wherever it occurs. -/
def replaceHome (m : GalaxyMap) (old new : String) : GalaxyMap :=
  { m with
    potentialHomes := m.potentialHomes.replace old new
    preferredHomes := m.preferredHomes.replace old new }

inductive Edit where
  | star (p : Point)
  | hyperlane (link : Link)
  | wormhole (link : Link)
  | potentialHome (p : Point)
  | preferredHome (p : Point)
  deriving Repr

def apply (m : GalaxyMap) : Edit → GalaxyMap
  | .star p => m.addStar p
  | .hyperlane link => m.addHyperlane link
  | .wormhole link => m.addWormhole link
  | .potentialHome p => m.addPotentialHome p
  | .preferredHome p => m.addPreferredHome p

def applyAll (m : GalaxyMap) (edits : List Edit) : GalaxyMap := edits.foldl apply m

end GalaxyMap
end GalaxyScenario
