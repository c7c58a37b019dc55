import GalaxyScenario.Decimal.Layout

/-!
Positions on the canvas. A star's identity is the text of its position: everything that refers to
a star does so through the key built here, never by comparing coordinates.
-/
namespace GalaxyScenario

structure Point where
  x : Float
  y : Float
  deriving BEq, Repr

/-- The text of a coordinate. Adding zero first leaves one zero, so both signs of zero are `0`. -/
def coordinateText (value : Float) : String := Layout.plain.text (value + 0.0)

namespace Point

/-- The key of the star at this position, such as `100,250.5`. -/
def key (p : Point) : String := coordinateText p.x ++ "," ++ coordinateText p.y

def distanceSquared (p q : Point) : Float :=
  let dx := p.x - q.x
  let dy := p.y - q.y
  dx * dx + dy * dy

def distance (p q : Point) : Float := (p.distanceSquared q).sqrt

def offset (p : Point) (dx dy : Float) : Point := ⟨p.x + dx, p.y + dy⟩

/-- The position in the game's galaxy, whose origin is the middle of the canvas and whose first
axis points the other way. -/
def inGalaxy (p : Point) (width height : Float) : Point :=
  ⟨-(p.x - width / 2.0), p.y - height / 2.0⟩

end Point
end GalaxyScenario
