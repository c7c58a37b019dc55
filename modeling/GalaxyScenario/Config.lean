/-!
The settings of a scenario that are not painted on the map. Every setting has a default, so a
configuration only has to name those it changes.
-/
namespace GalaxyScenario

def canvasExtent : Float := 900.0

/-- The settings of a scenario. The width and the height are those of the canvas the map was painted
on, and the radius is that of the empty circle kept for a fallen empire. -/
structure Config where
  name : String := "Painted Galaxy"
  priority : UInt32 := 10
  shapes : List String := ["elliptical"]
  width : Float := canvasExtent
  height : Float := canvasExtent
  spawnRadius : Float := 50.0
  leaderAgeVariable : String := "painted_galaxy_leader_age"
  fallbackHomes : Bool := false
  deriving BEq, Repr

instance : Inhabited Config := ⟨{}⟩

end GalaxyScenario
