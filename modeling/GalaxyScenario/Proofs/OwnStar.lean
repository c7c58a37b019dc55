import GalaxyScenario.Proofs.Binary64.Square
import GalaxyScenario.SpawnZone

/-! The star that a zone lies beside. The search tests it like every other star, and the centre of
the zone is meant to be one radius away from it, on the boundary. But the centre is rounded: where
that moves it towards the star, the star is found inside its own zone and blocks it. -/
namespace GalaxyScenario
open Binary64

namespace Binary64

variable {x y : Float}

theorem hasUnits_zero : HasUnits 0.0 0 := hasUnits_iff_represents.mpr (represents_zero .positive)

/-- Where a coordinate is not moved, its part of the distance is zero. -/
theorem hasUnits_unmoved_mul_self (hx : isFinite x = true) (hy : isFinite y = true) :
    HasUnits ((x - (x + 0.0 * y)) * (x - (x + 0.0 * y))) 0 := by
  obtain ⟨a, hx⟩ := isFinite_iff_exists_hasUnits.mp hx
  obtain ⟨b, hy⟩ := isFinite_iff_exists_hasUnits.mp hy
  have hzero : IsDouble 0 := ⟨0, 0, by decide, by decide, rfl⟩
  have hstep : HasUnits (0.0 * y) 0 :=
    HasUnits.mul hasUnits_zero hy hzero (by rw [Int.zero_mul, Int.zero_mul])
  have hmoved : HasUnits (x + 0.0 * y) a := by
    have hsum := hx.add hstep (by rw [Int.add_zero]; exact hx.isDouble)
    rwa [Int.add_zero] at hsum
  have hgap : HasUnits (x - (x + 0.0 * y)) 0 := by
    have hdiff := hx.sub hmoved (by rw [Int.sub_self]; exact hzero)
    rwa [Int.sub_self] at hdiff
  exact HasUnits.mul hgap hgap hzero (by rw [Int.zero_mul, Int.zero_mul])

end Binary64

/-- The coordinate that changes in a direction. -/
def Direction.along : Direction → Point → Float
  | .north, p | .south, p => p.y
  | .east, p | .west, p => p.x

namespace SpawnBounds

variable (bounds : SpawnBounds) (star : Point) (direction : Direction)

/-- How far the centre is from the star as subtraction finds it, with a sign. -/
def gap : Float := direction.along star - direction.along (bounds.origin star direction)

variable {bounds star direction}

theorem distanceSquared_origin_lt_iff (hx : isFinite star.x = true) (hy : isFinite star.y = true)
    (hradius : isFinite bounds.radius = true) {limit : Float} :
    star.distanceSquared (bounds.origin star direction) < limit ↔
      bounds.gap star direction * bounds.gap star direction < limit := by
  cases direction with
  | north | south => exact (hasUnits_unmoved_mul_self hx hradius).add_lt_iff.1
  | east | west => exact (hasUnits_unmoved_mul_self hy hradius).add_lt_iff.2

end SpawnBounds

namespace SpawnZone

variable {bounds : SpawnBounds} {star : Point}

/-- A zone holds its own star if the square of their distance, as subtraction finds it, is below
that of the radius. That is not so where the exact distance is no less than the radius. For radii
from `1e-150` to `1e150` it is so exactly where the distance comes out below the radius. -/
theorem holdsOwnStar_iff (direction : Direction) (index : Nat) (hx : isFinite star.x = true)
    (hy : isFinite star.y = true) (hradius : isFinite bounds.radius = true) :
    let zone : SpawnZone := ⟨index, direction, bounds.origin star direction⟩
    let gap := bounds.gap star direction
    (zone.holdsStar bounds star = true ↔ gap * gap < bounds.radius * bounds.radius) ∧
      (∀ radius place centre : Int, HasUnits bounds.radius radius →
        HasUnits (direction.along star) place → HasUnits (direction.along zone.origin) centre →
        radius.natAbs ≤ (place - centre).natAbs → zone.holdsStar bounds star = false) ∧
      (1e-150 ≤ bounds.radius → bounds.radius ≤ 1e150 →
        (zone.holdsStar bounds star = true ↔ -bounds.radius < gap ∧ gap < bounds.radius)) := by
  intro zone gap
  have hiff : zone.holdsStar bounds star = true ↔ gap * gap < bounds.radius * bounds.radius := by
    rw [holdsStar, decide_eq_true_iff]
    exact SpawnBounds.distanceSquared_origin_lt_iff hx hy hradius
  refine ⟨hiff, fun radius place centre hr hplace hcentre hle => ?_, fun hlow hhigh => ?_⟩
  · have hmagnitude : magnitudeBits gap = min (roundBits (place - centre).natAbs 1) infinityBits :=
      (hplace.nearest_sub hcentre).magnitude
    have hmono : magnitudeBits bounds.radius ≤ roundBits (place - centre).natAbs 1 := by
      rw [← hr.roundBits_eq]
      exact roundBits_mono Nat.one_pos Nat.one_pos (Nat.mul_le_mul_right 1 hle)
    have hfinite := hr.unitsOfBits_eq.1
    rw [← Bool.not_eq_true, hiff]
    exact hr.not_mul_self_lt (by omega) (by omega)
  · rw [hiff]
    exact mul_self_lt_iff_between gap hlow hhigh

/-- On a narrow canvas the zone to the south of the star at `(75, 60.1)` is the only one that fits.
Its centre is rounded to the north, so that it holds the star. -/
theorem holdsOwnStar_fraction :
    let bounds : SpawnBounds := ⟨150.0, 900.0, 50.0⟩
    let star : Point := ⟨75.0, 60.1⟩
    (⟨0, .south, bounds.origin star .south⟩ : SpawnZone).holdsStar bounds star = true ∧
      ∀ direction, bounds.fits (bounds.origin star direction) = decide (direction = .south) := by
  intro bounds star
  have hx : isFinite star.x = true := by decide +kernel
  have hy : isFinite star.y = true := by decide +kernel
  have hradius : isFinite bounds.radius = true := by decide +kernel
  have hlow : 1e-150 ≤ bounds.radius := by decide +kernel
  have hhigh : bounds.radius ≤ 1e150 := by decide +kernel
  have hsouth := (holdsOwnStar_iff .south 0 hx hy hradius).2.2 hlow hhigh
  refine ⟨hsouth.mpr ⟨by decide +kernel, by decide +kernel⟩, fun direction => ?_⟩
  cases direction <;> decide +kernel

end SpawnZone
end GalaxyScenario
