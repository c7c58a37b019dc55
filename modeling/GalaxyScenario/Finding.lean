import GalaxyScenario.GalaxyMap
import GalaxyScenario.Config
import GalaxyScenario.Point.Key
import GalaxyScenario.StarIndex
import GalaxyScenario.Wormhole

/-!
Findings about a painted map. No map is refused: a finding says what will come out wrong, so that
the painter can decide, and changes nothing in the scenario.
-/
namespace GalaxyScenario

inductive Severity where
  | error | warning
  deriving DecidableEq, Repr

/-- Something in a map that will not come out as it was painted. -/
inductive Finding where
  | starOutside (star : Nat) (key : String) (width height : Float)
  | duplicateStar (star : Nat) (key : String) (first : Nat)
  | danglingHyperlane (hyperlane : Nat) (key : String)
  | longHyperlane (hyperlane : Nat) (first second : String) (length : Float)
  | danglingWormhole (wormhole : Nat) (key : String)
  | sharedWormholeEnd (key : String) (wormholes : List Nat)
  | homeNotCanonical (key canonical : String)
  | unknownHome (key : String)
  | preferredNotPotential (key : String)
  deriving Repr

/-- The longest hyperlane that the editor draws, half the extent of the canvas. -/
def longestHyperlane : Float := canvasExtent / 2.0

namespace Finding

/-- An end that is no star is an error; all else is a warning. -/
def severity : Finding → Severity
  | .danglingHyperlane .. | .danglingWormhole .. => .error
  | _ => .warning

def category : Finding → String
  | .starOutside .. => "star_bounds"
  | .duplicateStar .. => "duplicate_star"
  | .danglingHyperlane .. => "dangling_connection"
  | .longHyperlane .. => "long_connection"
  | .danglingWormhole .. => "dangling_wormhole"
  | .sharedWormholeEnd .. => "wormhole_reuse"
  | .homeNotCanonical .. | .unknownHome .. => "unknown_home_star"
  | .preferredNotPotential .. => "preferred_not_potential"

def indexList (indices : List Nat) : String :=
  "[" ++ ", ".intercalate (indices.map toString) ++ "]"

def message : Finding → String
  | .starOutside star key width height =>
    "Star #" ++ toString star ++ " at (" ++ key ++ ") lies outside the " ++
      Layout.plain.text width ++ "×" ++ Layout.plain.text height ++ " canvas"
  | .duplicateStar star key first =>
    "Star #" ++ toString star ++ " at (" ++ key ++ ") duplicates star #" ++ toString first ++
      " and is merged into it"
  | .danglingHyperlane hyperlane key =>
    "Hyperlane #" ++ toString hyperlane ++ " references (" ++ key ++ ") which is not a star"
  | .longHyperlane hyperlane first second length =>
    "Hyperlane #" ++ toString hyperlane ++ " (" ++ first ++ " → " ++ second ++ ") is " ++
      Decimal.tenths length ++ " long (max " ++ Layout.plain.text longestHyperlane ++ ")"
  | .danglingWormhole wormhole key =>
    "Wormhole pair #" ++ toString wormhole ++ " references (" ++ key ++ ") which is not a star"
  | .sharedWormholeEnd key wormholes =>
    "Star (" ++ key ++ ") is an endpoint of " ++ toString wormholes.length ++
      " wormhole pairs " ++ indexList wormholes
  | .homeNotCanonical key canonical =>
    "Home star (" ++ key ++ ") is not written canonically; use (" ++ canonical ++ ")"
  | .unknownHome key => "Home star (" ++ key ++ ") does not match any star"
  | .preferredNotPotential key =>
    "Preferred home star (" ++ key ++ ") is not a potential home star and is ignored"

def isError (f : Finding) : Bool := f.severity == .error

end Finding

namespace GalaxyMap

def starsOutside (m : GalaxyMap) (config : Config) : List Finding :=
  m.stars.zipIdx.filterMap fun (star, i) =>
    if star.x < 0.0 ∨ star.y < 0.0 ∨ config.width < star.x ∨ config.height < star.y then
      some (.starOutside i star.key config.width config.height)
    else none

def duplicateStars (m : GalaxyMap) : List Finding :=
  let roll : StarRoll := .ofStars m.stars
  roll.stars.filterMap fun star =>
    match roll.ids.idOfKey? star.key with
    | some first =>
      if first = star.index then none else some (.duplicateStar star.index star.key first)
    | none => none

/-- The ends of links that are no star, each with the index of its link. -/
def danglingEnds (ids : StarIndex) (links : List Link) : List (Nat × String) :=
  links.zipIdx.flatMap fun (link, i) =>
    [link.first.key, link.second.key].filterMap fun key =>
      if (ids.idOfKey? key).isNone then some (i, key) else none

def danglingHyperlanes (m : GalaxyMap) : List Finding :=
  (danglingEnds (.ofStars m.stars) m.hyperlanes).map fun (i, key) => .danglingHyperlane i key

def longHyperlanes (m : GalaxyMap) : List Finding :=
  m.hyperlanes.zipIdx.filterMap fun (link, i) =>
    let length := link.first.distance link.second
    if longestHyperlane < length then
      some (.longHyperlane i link.first.key link.second.key length)
    else none

def danglingWormholes (m : GalaxyMap) : List Finding :=
  (danglingEnds (.ofStars m.stars) m.wormholes).map fun (i, key) => .danglingWormhole i key

/-- The wormholes at each end, by key. A wormhole from a star to itself counts once there. -/
def wormholesByEnd (m : GalaxyMap) : Std.ExtTreeMap String (List Nat) compare :=
  let note (ends : Std.ExtTreeMap String (List Nat) compare) (key : String) (pair : Nat) :=
    ends.alter key fun pairs => some (pairs.getD [] ++ [pair])
  (Wormhole.endKeys m.wormholes).foldl
    (fun ends ((first, second), pair) =>
      let ends := note ends first pair
      if first == second then ends else note ends second pair)
    ∅

def sharedWormholeEnds (m : GalaxyMap) : List Finding :=
  m.wormholesByEnd.toList.filterMap fun (key, pairs) =>
    if 1 < pairs.length then some (.sharedWormholeEnd key pairs) else none

def starKeys (m : GalaxyMap) : KeySet := .ofList (m.stars.map Point.key)

/-- What is wrong with a home key that is no star's key: if it names the position of a star, the
key of that star is the one to use. -/
def unknownHome (starKeys : KeySet) (key : String) : Finding :=
  match Point.ofKey key with
  | .ok position =>
    if starKeys.contains position.key then .homeNotCanonical key position.key
    else .unknownHome key
  | .error _ => .unknownHome key

def unknownHomes (m : GalaxyMap) : List Finding :=
  let keys := m.starKeys
  ((m.potentialHomes ∪ m.preferredHomes).toList.filter fun key => !keys.contains key).map
    (unknownHome keys)

def preferredOnly (m : GalaxyMap) : List Finding :=
  (m.preferredHomes \ m.potentialHomes).toList.map .preferredNotPotential

def homeFindings (m : GalaxyMap) : List Finding := m.unknownHomes ++ m.preferredOnly

/-- All findings about a map under a configuration: on stars, hyperlanes, wormholes and home
stars, in this order. -/
def findings (m : GalaxyMap) (config : Config) : List Finding :=
  m.starsOutside config ++ m.duplicateStars ++ m.danglingHyperlanes ++ m.longHyperlanes ++
    m.danglingWormholes ++ m.sharedWormholeEnds ++ m.homeFindings

end GalaxyMap

def hasErrors (findings : List Finding) : Bool := findings.any (·.isError)

end GalaxyScenario
