import GalaxyScenario.Config
import GalaxyScenario.EmpireCapacity
import GalaxyScenario.HomeSystem
import GalaxyScenario.Log
import GalaxyScenario.SizeTier
import GalaxyScenario.SpawnZone
import GalaxyScenario.StarIndex
import GalaxyScenario.Wormhole

/-!
The scenario of a map: one system for each different star position, the hyperlanes between them,
and the settings that depend on how many there are. Nothing in a map is refused; what does not
name a star stays unresolved.
-/
namespace GalaxyScenario

structure StarSystem where
  id : Nat
  position : Point
  directive : Option SpawnDirective
  flags : List String
  deriving Repr

/-- The ends of a hyperlane, each one the id of a system if it is one. -/
structure Hyperlane where
  source : Option Nat
  target : Option Nat
  deriving DecidableEq, Repr

structure Scenario where
  config : Config
  capacity : EmpireCapacity
  tier : TierSettings
  systems : List StarSystem
  hyperlanes : List Hyperlane
  deriving Repr

structure ScenarioStats where
  tier : SizeTier
  systems : Nat
  hyperlanes : Nat
  homeSystems : Nat
  preferredSystems : Nat
  spawnZones : Nat
  wormholeFlags : Nat
  capacity : EmpireCapacity
  deriving DecidableEq, Repr

namespace StarSystem

def isHome (s : StarSystem) : Bool := s.directive.isSome

def isPreferred (s : StarSystem) : Bool := s.directive.any (·.weight == .preferred)

end StarSystem

namespace ScenarioStats

def report (s : ScenarioStats) : String :=
  "CompileStats \x7b tier: " ++ s.tier.title ++
    ", systems: " ++ toString s.systems ++
    ", hyperlanes: " ++ toString s.hyperlanes ++
    ", home_systems: " ++ toString s.homeSystems ++
    ", preferred_systems: " ++ toString s.preferredSystems ++
    ", fallen_empire_spawns: " ++ toString s.spawnZones ++
    ", wormhole_flags: " ++ toString s.wormholeFlags ++
    ", ai_empires_max: " ++ toString s.capacity.max.toNat ++
    ", ai_empires_default: " ++ toString s.capacity.default.toNat ++ " \x7d"

end ScenarioStats

namespace GalaxyMap

def spawnBounds (config : Config) : SpawnBounds :=
  ⟨config.width, config.height, config.spawnRadius⟩

def spawnZones (m : GalaxyMap) (config : Config) : List SpawnZone :=
  SpawnZone.plan (spawnBounds config) m.stars

def roll (m : GalaxyMap) : StarRoll := .ofStars m.stars

def homeSelection (m : GalaxyMap) (config : Config) : HomeSelection :=
  .ofMap m config.fallbackHomes

/-- The system of a star. The flags of its zones come before those of its wormholes. -/
def system (m : GalaxyMap) (config : Config) (zones : List SpawnZone)
    (ends : List ((String × String) × Nat)) (star : ListedStar) : StarSystem where
  id := star.index
  position := star.position.inGalaxy config.width config.height
  directive := m.directive (m.homeSelection config) star.index star.key
  flags := SpawnZone.flags zones star.index ++ Wormhole.flags ends star.key

def resolve (ids : StarIndex) (link : Link) : Hyperlane := ⟨ids.id? link.first, ids.id? link.second⟩

def empireCapacity (m : GalaxyMap) (config : Config) : EmpireCapacity :=
  .ofHomeStars ((m.homeSelection config).count m.stars.length)

/-- The size tier of a map. Stars that share a position all count. -/
def sizeTier (m : GalaxyMap) : SizeTier := .ofStarCount m.stars.length

end GalaxyMap

structure Compilation where
  scenario : Scenario
  stats : ScenarioStats
  log : List LogRecord
  deriving Repr

namespace ScenarioStats

def zoneRecord (zones stars : Nat) : LogRecord :=
  ⟨.debug, "galaxy_logic::fallen_empires",
    "Placed " ++ toString zones ++ " fallen empire spawn zones around " ++ toString stars ++
      " stars"⟩

def summaryRecord (s : ScenarioStats) (name : String) : LogRecord :=
  ⟨.info, "galaxy_logic::compiler",
    "Compiled '" ++ name ++ "': " ++ toString s.systems ++ " systems, " ++
      toString s.hyperlanes ++ " hyperlanes, " ++ toString s.homeSystems ++ " home systems (" ++
      toString s.preferredSystems ++ " preferred), " ++ toString s.spawnZones ++
      " fallen empire zones, tier=" ++ s.tier.name⟩

def log (s : ScenarioStats) (name : String) (starCount : Nat) : List LogRecord :=
  [zoneRecord s.spawnZones starCount, s.summaryRecord name]

end ScenarioStats

namespace GalaxyMap

/-- The scenario of a map under a configuration: one system for each first star at a position in
the order of the stars, and one hyperlane for each painted one in their order. -/
def compile (m : GalaxyMap) (config : Config) : Compilation :=
  let roll := m.roll
  let zones := m.spawnZones config
  let ends := Wormhole.endKeys m.wormholes
  let capacity := m.empireCapacity config
  let systems := roll.firsts.map (m.system config zones ends)
  let hyperlanes := m.hyperlanes.map (resolve roll.ids)
  let stats : ScenarioStats :=
    { tier := m.sizeTier
      systems := systems.length
      hyperlanes := hyperlanes.length
      homeSystems := systems.countP (·.isHome)
      preferredSystems := systems.countP (·.isPreferred)
      spawnZones := zones.length
      wormholeFlags := (roll.firsts.flatMap fun star => Wormhole.flags ends star.key).length
      capacity }
  { scenario := { config, capacity, tier := m.sizeTier.settings, systems, hyperlanes }
    stats
    log := stats.log config.name m.stars.length }

end GalaxyMap
end GalaxyScenario
