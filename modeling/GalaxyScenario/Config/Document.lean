import GalaxyScenario.Config
import GalaxyScenario.Document

/-! Configurations as JSON documents. A setting that is not given has its default. -/
namespace GalaxyScenario.Config

/-- The names of the settings, in their order. -/
def fieldNames : List String :=
  ["name", "priority", "shapes", "width", "height", "fallen_empire_spawn_radius",
    "leader_age_variable", "fallback_home_stars"]

def toJson (c : Config) : Json :=
  .ofMembers
    [("name", .ofString c.name),
      ("priority", .ofNat c.priority.toNat),
      ("shapes", .array (c.shapes.map Json.ofString)),
      ("width", .ofFloat c.width),
      ("height", .ofFloat c.height),
      ("fallen_empire_spawn_radius", .ofFloat c.spawnRadius),
      ("leader_age_variable", .ofString c.leaderAgeVariable),
      ("fallback_home_stars", .bool c.fallbackHomes)]

/-- A configuration from a record of some of its settings. -/
def ofJson? (j : Json) : Option Config := do
  let fields ← j.fields? fieldNames
  let defaults : Config := {}
  return {
    name := ← fields.getD? "name" Json.toText? defaults.name
    priority := ← fields.getD? "priority" Json.toUInt32? defaults.priority
    shapes := ← fields.getD? "shapes" (Json.toListOf? Json.toText?) defaults.shapes
    width := ← fields.getD? "width" Json.toFloat? defaults.width
    height := ← fields.getD? "height" Json.toFloat? defaults.height
    spawnRadius := ← fields.getD? "fallen_empire_spawn_radius" Json.toFloat? defaults.spawnRadius
    leaderAgeVariable :=
      ← fields.getD? "leader_age_variable" Json.toText? defaults.leaderAgeVariable
    fallbackHomes := ← fields.getD? "fallback_home_stars" Json.toBool? defaults.fallbackHomes }

def documentName : String := "scenario config"

def ofText (text : String) : Except DocumentError Config := readDocument ofJson? text

def load (path : String) (text : Except FileFailure String) : Except DocumentError Config :=
  loadDocument ofJson? path text

end GalaxyScenario.Config
