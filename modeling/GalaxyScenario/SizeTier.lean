/-! The size of a galaxy and the balance settings that go with it. -/
namespace GalaxyScenario

inductive SizeTier where
  | tiny | small | medium | large | huge
  deriving DecidableEq, Repr

structure RangeSetting where
  min : Float
  max : Float
  default : Float
  deriving Repr

/-- The balance settings of a scenario. -/
structure TierSettings where
  fallenEmpireDefault : UInt32
  fallenEmpireMax : UInt32
  marauderEmpireDefault : UInt32
  marauderEmpireMax : UInt32
  advancedEmpireDefault : UInt32
  colonizablePlanetOdds : Float
  primitiveOdds : Float
  crisisStrength : Float
  extraCrisisStrength : UInt32 × UInt32
  wormholePairs : RangeSetting
  gateways : RangeSetting
  hyperlanes : RangeSetting
  deriving Repr

namespace SizeTier

def all : List SizeTier := [.tiny, .small, .medium, .large, .huge]

def ofStarCount (count : Nat) : SizeTier :=
  if count < 400 then .tiny
  else if count < 600 then .small
  else if count < 800 then .medium
  else if count < 1000 then .large
  else .huge

def rank : SizeTier → Nat
  | .tiny => 0
  | .small => 1
  | .medium => 2
  | .large => 3
  | .huge => 4

def name : SizeTier → String
  | .tiny => "tiny"
  | .small => "small"
  | .medium => "medium"
  | .large => "large"
  | .huge => "huge"

def title : SizeTier → String
  | .tiny => "Tiny"
  | .small => "Small"
  | .medium => "Medium"
  | .large => "Large"
  | .huge => "Huge"

/-- The settings that every tier shares, around those that grow with it. -/
def settingsOf (fallen fallenMax marauder marauderMax advanced : UInt32) (crisis : Float) :
    TierSettings where
  fallenEmpireDefault := fallen
  fallenEmpireMax := fallenMax
  marauderEmpireDefault := marauder
  marauderEmpireMax := marauderMax
  advancedEmpireDefault := advanced
  colonizablePlanetOdds := 1.0
  primitiveOdds := 1.0
  crisisStrength := crisis
  extraCrisisStrength := (10, 25)
  wormholePairs := ⟨0.0, 5.0, 1.0⟩
  gateways := ⟨0.0, 5.0, 1.0⟩
  hyperlanes := ⟨0.5, 3.0, 1.0⟩

def settings : SizeTier → TierSettings
  | .tiny => settingsOf 0 1 1 1 0 0.5
  | .small => settingsOf 1 2 1 2 1 0.75
  | .medium => settingsOf 2 3 2 2 2 1.0
  | .large => settingsOf 3 4 2 3 3 1.25
  | .huge => settingsOf 4 6 3 3 4 1.5

end SizeTier
end GalaxyScenario
