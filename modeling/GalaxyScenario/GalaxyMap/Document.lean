import GalaxyScenario.Document
import GalaxyScenario.GalaxyMap

/-!
Maps as JSON documents, the form in which the editor exports them. Missing collections are empty,
and what a map does not have is skipped.
-/
namespace GalaxyScenario

namespace Point

def toJson (p : Point) : Json := .array [.ofFloat p.x, .ofFloat p.y]

def ofJson? : Json → Option Point := Json.toPairOf? Point.mk Json.toFloat?

end Point

namespace Link

def toJson (link : Link) : Json := .array [link.first.toJson, link.second.toJson]

def ofJson? : Json → Option Link := Json.toPairOf? Link.mk Point.ofJson?

end Link

namespace GalaxyMap

def fieldNames : List String :=
  ["stars", "connections", "wormholes", "potentialHomeStars", "preferredHomeStars"]

/-- A map as an object, with its home keys in the given orders. -/
def toJsonWith (m : GalaxyMap) (potentialHomes preferredHomes : List String) : Json :=
  .ofMembers
    [("stars", .array (m.stars.map Point.toJson)),
      ("connections", .array (m.hyperlanes.map Link.toJson)),
      ("wormholes", .array (m.wormholes.map Link.toJson)),
      ("potentialHomeStars", .array (potentialHomes.map Json.ofString)),
      ("preferredHomeStars", .array (preferredHomes.map Json.ofString))]

def toJson (m : GalaxyMap) : Json :=
  m.toJsonWith m.potentialHomes.toList m.preferredHomes.toList

/-- A set of keys from an array of texts, in which keys may be repeated. -/
def keySet? (j : Json) : Option KeySet := (j.toListOf? Json.toText?).map .ofList

/-- A map from a record of its collections. -/
def ofJson? (j : Json) : Option GalaxyMap := do
  let fields ← j.fields? fieldNames
  return {
    stars := ← fields.getD? "stars" (Json.toListOf? Point.ofJson?) []
    hyperlanes := ← fields.getD? "connections" (Json.toListOf? Link.ofJson?) []
    wormholes := ← fields.getD? "wormholes" (Json.toListOf? Link.ofJson?) []
    potentialHomes := ← fields.getD? "potentialHomeStars" keySet? ∅
    preferredHomes := ← fields.getD? "preferredHomeStars" keySet? ∅ }

def documentName : String := "galaxy map"

def ofText (text : String) : Except DocumentError GalaxyMap := readDocument ofJson? text

def load (path : String) (text : Except FileFailure String) : Except DocumentError GalaxyMap :=
  loadDocument ofJson? path text

end GalaxyMap
end GalaxyScenario
