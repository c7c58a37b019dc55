import GalaxyScenario.Scenario

/-!
The text of a scenario: one block of sections separated by blank lines, each line inside it
indented by a tab. Spacing is part of the format, also where it is irregular.
-/
namespace GalaxyScenario

namespace Script

def opening : String := "static_galaxy_scenario = \x7b"

def closing : String := "\x7d"

/-- How the end of a hyperlane is written that is no star. -/
def unresolved : String := "undefined"

def braced (body : String) : String := "\x7b " ++ body ++ " \x7d"

def joinLines (lines : List String) : String := "\n".intercalate lines

def header (config : Config) : String :=
  joinLines <|
    ["\tname = \"" ++ config.name ++ "\"", "\tpriority = " ++ toString config.priority.toNat] ++
      config.shapes.map ("\tsupports_shape = " ++ ·) ++ ["\trandom_hyperlanes = no"]

def capacity (c : EmpireCapacity) : String :=
  joinLines
    ["\tnum_empires = " ++ braced ("min = 0 max = " ++ toString c.max.toNat) ++
        "\t#limits player customization",
      "\tnum_empire_default = " ++ toString c.default.toNat]

def range (name : String) (r : RangeSetting) : String :=
  joinLines
    ["\t" ++ name ++ " = " ++
        braced ("min = " ++ coordinateText r.min ++ " max = " ++ coordinateText r.max),
      "\t" ++ name ++ "_default = " ++ coordinateText r.default]

/-- The range of hyperlanes, which the game wants spaced in a way of its own. -/
def hyperlaneRange (r : RangeSetting) : String :=
  joinLines
    ["\tnum_hyperlanes = " ++
        braced ("min=" ++ coordinateText r.min ++ " max= " ++ coordinateText r.max),
      "\tnum_hyperlanes_default = " ++ coordinateText r.default]

def assignment (name value : String) : String := "\t" ++ name ++ " = " ++ value

def tier (t : TierSettings) : String :=
  joinLines
    [assignment "fallen_empire_default" (toString t.fallenEmpireDefault.toNat),
      assignment "fallen_empire_max" (toString t.fallenEmpireMax.toNat),
      assignment "marauder_empire_default" (toString t.marauderEmpireDefault.toNat),
      assignment "marauder_empire_max" (toString t.marauderEmpireMax.toNat),
      assignment "advanced_empire_default" (toString t.advancedEmpireDefault.toNat),
      assignment "colonizable_planet_odds" (Layout.pointed.text t.colonizablePlanetOdds),
      assignment "primitive_odds" (Layout.pointed.text t.primitiveOdds),
      assignment "crisis_strength" (Layout.pointed.text t.crisisStrength),
      assignment "extra_crisis_strength"
        (braced (toString t.extraCrisisStrength.1.toNat ++ " " ++
          toString t.extraCrisisStrength.2.toNat)),
      range "num_wormhole_pairs" t.wormholePairs,
      range "num_gateways" t.gateways,
      hyperlaneRange t.hyperlanes]

def initializer : Option SpawnDirective → String
  | some d => "initializer = random_empire_init_0" ++ toString d.initializer
  | none => ""

/-- The modifier of a spawn weight: a hundred for favoured systems, and ten for the others when
the variable leaves their residue. -/
def modifier (variableName : String) : SpawnWeight → String
  | .preferred => "modifier = " ++ braced "add = 100 always = yes"
  | .tieBreak residue =>
    "modifier = " ++ braced ("add = 10 check_variable_arithmetic = " ++
      braced ("which = " ++ variableName ++ " modulo = " ++
        toString SpawnDirective.tieBreakModulus ++ " value = " ++ toString residue))

/-- The clause on the spawn weight of a home system; empty for any other system. -/
def spawnWeight (variableName : String) : Option SpawnDirective → String
  | some d => "spawn_weight = " ++ braced ("base = 10 " ++ modifier variableName d.weight)
  | none => ""

def effect (flags : List String) : String :=
  if flags.isEmpty then ""
  else "effect = " ++ braced (" ".intercalate (flags.map ("set_star_flag = " ++ ·)))

/-- The line of a system. An empty clause keeps the spaces around it. -/
def system (variableName : String) (s : StarSystem) : String :=
  "\tsystem = " ++ braced ("id = \"" ++ toString s.id ++ "\" position = " ++
    braced ("x = " ++ coordinateText s.position.x ++ " y = " ++ coordinateText s.position.y) ++
    " " ++ initializer s.directive ++ " " ++ spawnWeight variableName s.directive ++
    " " ++ effect s.flags)

def laneEnd : Option Nat → String
  | some id => toString id
  | none => unresolved

def hyperlane (lane : Hyperlane) : String :=
  "\tadd_hyperlane = " ++
    braced ("from = \"" ++ laneEnd lane.source ++ "\" to = \"" ++ laneEnd lane.target ++ "\"")

end Script

namespace Scenario

def sections (s : Scenario) : List String :=
  [Script.opening, Script.header s.config, Script.capacity s.capacity, Script.tier s.tier,
    Script.joinLines (s.systems.map (Script.system s.config.leaderAgeVariable)),
    Script.joinLines (s.hyperlanes.map Script.hyperlane), Script.closing]

def script (s : Scenario) : String := "\n\n".intercalate s.sections

end Scenario

namespace Compilation

def script (c : Compilation) : String := c.scenario.script

end Compilation

namespace GalaxyMap

def compileScript (m : GalaxyMap) (config : Config) : String := (m.compile config).script

end GalaxyMap
end GalaxyScenario
