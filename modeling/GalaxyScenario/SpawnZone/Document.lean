import GalaxyScenario.Json.Decode
import GalaxyScenario.SpawnZone

/-! Directions as JSON documents, by their titles. -/
namespace GalaxyScenario.Direction

def toJson (direction : Direction) : Json := .ofString direction.title

def ofJson? : Json → Option Direction := Json.toNamed? all title

end GalaxyScenario.Direction
