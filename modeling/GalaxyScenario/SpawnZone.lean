import GalaxyScenario.Point

/-!
Zones for fallen empires: empty circles beside stars, found greedily. The search goes through the
stars in order and, at each, through the four directions. A candidate is accepted when it stays on
the canvas, no star lies inside it and no zone accepted before overlaps it. A star owns any number
of zones; the game's world generation finds them by the flags of the star.
-/
namespace GalaxyScenario

/-- The side of a star on which a zone lies. The second axis of the canvas grows to the south. -/
inductive Direction where
  | north | east | south | west
  deriving DecidableEq, Repr

namespace Direction

def all : List Direction := [.north, .east, .south, .west]

def rank : Direction → Nat
  | .north => 0
  | .east => 1
  | .south => 2
  | .west => 3

def unit : Direction → Float × Float
  | .north => (0.0, -1.0)
  | .east => (1.0, 0.0)
  | .south => (0.0, 1.0)
  | .west => (-1.0, 0.0)

def name : Direction → String
  | .north => "north"
  | .east => "east"
  | .south => "south"
  | .west => "west"

def title : Direction → String
  | .north => "North"
  | .east => "East"
  | .south => "South"
  | .west => "West"

end Direction

structure SpawnBounds where
  width : Float
  height : Float
  radius : Float
  deriving Repr

namespace SpawnBounds

/-- The centre of the zone on one side of a star. -/
def origin (bounds : SpawnBounds) (star : Point) (direction : Direction) : Point :=
  star.offset (direction.unit.1 * bounds.radius) (direction.unit.2 * bounds.radius)

def fits (bounds : SpawnBounds) (origin : Point) : Bool :=
  decide (bounds.radius ≤ origin.x) && decide (origin.x ≤ bounds.width - bounds.radius) &&
    decide (bounds.radius ≤ origin.y) && decide (origin.y ≤ bounds.height - bounds.radius)

/-- The square of the radius. A star closer than that to the centre lies in the zone. -/
def reach (bounds : SpawnBounds) : Float := bounds.radius * bounds.radius

/-- The square of the diameter. Zones with centres closer than that overlap. -/
def spacing (bounds : SpawnBounds) : Float := 4.0 * bounds.reach

end SpawnBounds

/-- A zone beside the star of that index, or a candidate for one. -/
structure SpawnZone where
  star : Nat
  direction : Direction
  origin : Point
  deriving Repr

namespace SpawnZone

def candidatesOf (bounds : SpawnBounds) (star : Point) (index : Nat) : List SpawnZone :=
  Direction.all.map fun direction => ⟨index, direction, bounds.origin star direction⟩

def candidates (bounds : SpawnBounds) (stars : List Point) : List SpawnZone :=
  stars.zipIdx.flatMap fun (star, index) => candidatesOf bounds star index

def holdsStar (bounds : SpawnBounds) (zone : SpawnZone) (star : Point) : Bool :=
  decide (star.distanceSquared zone.origin < bounds.reach)

def overlaps (bounds : SpawnBounds) (zone earlier : SpawnZone) : Bool :=
  decide (earlier.origin.distanceSquared zone.origin < bounds.spacing)

/-- Whether a candidate may join the zones accepted before it. -/
def admits (bounds : SpawnBounds) (stars : List Point) (accepted : List SpawnZone)
    (zone : SpawnZone) : Bool :=
  bounds.fits zone.origin && !stars.any (zone.holdsStar bounds) &&
    !accepted.any (zone.overlaps bounds)

/-- The accepted zones with the latest in front, after one more candidate. -/
def consider (bounds : SpawnBounds) (stars : List Point) (accepted : List SpawnZone)
    (zone : SpawnZone) : List SpawnZone :=
  if admits bounds stars accepted zone then zone :: accepted else accepted

def plan (bounds : SpawnBounds) (stars : List Point) : List SpawnZone :=
  ((candidates bounds stars).foldl (consider bounds stars) []).reverse

def ownerFlag : String := "painted_galaxy_fe_spawn"

def directionFlag (direction : Direction) : String := ownerFlag ++ "_" ++ direction.name

/-- The flags of the star with that index: none if it owns no zone, else the flag of an owner and
then one for each of its zones in the order they were accepted. -/
def flags (zones : List SpawnZone) (index : Nat) : List String :=
  match zones.filter (·.star == index) with
  | [] => []
  | owned => ownerFlag :: owned.map fun zone => directionFlag zone.direction

end SpawnZone
end GalaxyScenario
