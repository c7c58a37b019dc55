import GalaxyScenario.Json.Decode
import GalaxyScenario.SizeTier

/-! Size tiers as JSON documents, by their titles. -/
namespace GalaxyScenario.SizeTier

def toJson (tier : SizeTier) : Json := .ofString tier.title

def ofJson? : Json → Option SizeTier := Json.toNamed? all title

end GalaxyScenario.SizeTier
