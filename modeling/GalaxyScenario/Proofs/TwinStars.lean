import GalaxyScenario.Proofs.Binary64.Packed
import GalaxyScenario.Proofs.StarIdentity
import GalaxyScenario.Proofs.ZoneSearch

/-! Stars that share a key. Their coordinates differ at most in the signs of zeros, so all tests of
the search for zones come out the same for both. A later twin gets no zone: what rejected the zone
of the earlier one rejects its own, and if that zone was accepted, its own lies on the same spot. -/
namespace GalaxyScenario
open Binary64

namespace Point

theorem distanceSquared_unsignedZeros (p q : Point) :
    p.unsignedZeros.distanceSquared q = p.distanceSquared q := by
  change (unsignedZero p.x - q.x) * (unsignedZero p.x - q.x) +
    (unsignedZero p.y - q.y) * (unsignedZero p.y - q.y) = _
  rw [sub_mul_self_unsignedZero, sub_mul_self_unsignedZero]
  rfl

theorem distanceSquared_congr {p q : Point} (h : p.unsignedZeros = q.unsignedZeros) (s : Point) :
    p.distanceSquared s = q.distanceSquared s := by
  rw [← distanceSquared_unsignedZeros, h, distanceSquared_unsignedZeros]

theorem distanceSquared_congr_right {p q : Point} (h : p.unsignedZeros = q.unsignedZeros)
    (s : Point) : s.distanceSquared p = s.distanceSquared q := by
  rw [distanceSquared_comm, distanceSquared_congr h, distanceSquared_comm]

theorem unsignedZeros_offset (p : Point) (dx dy : Float) :
    (p.unsignedZeros.offset dx dy).unsignedZeros = (p.offset dx dy).unsignedZeros := by
  change (⟨unsignedZero (unsignedZero p.x + dx), unsignedZero (unsignedZero p.y + dy)⟩ : Point) = _
  rw [unsignedZero_add, unsignedZero_add]
  rfl

/-- Twins with finite coordinates are at no distance. -/
theorem hasUnits_distanceSquared {p q : Point} (h : p.unsignedZeros = q.unsignedZeros)
    (hx : isFinite p.x = true) (hy : isFinite p.y = true) : HasUnits (p.distanceSquared q) 0 := by
  have hzero : IsDouble 0 := ⟨0, 0, by decide, by decide, rfl⟩
  have hsquare : ∀ x : Float, isFinite x = true → HasUnits ((x - x) * (x - x)) 0 := by
    intro x hx
    obtain ⟨a, hx⟩ := isFinite_iff_exists_hasUnits.mp hx
    have hsub := hx.sub hx (by rwa [Int.sub_self])
    rw [Int.sub_self] at hsub
    exact hsub.mul hsub hzero (by rw [Int.zero_mul, Int.zero_mul])
  rw [distanceSquared_congr_right h.symm]
  exact (hsquare p.x hx).add (hsquare p.y hy) hzero

end Point

namespace SpawnBounds

/-- The canvas is finite, and the radius is positive and has a positive square. -/
structure Regular (bounds : SpawnBounds) : Prop where
  width : isFinite bounds.width = true
  height : isFinite bounds.height = true
  radius : 0.0 < bounds.radius
  reach : 0.0 < bounds.radius * bounds.radius

theorem unsignedZeros_origin {p q : Point} (h : p.unsignedZeros = q.unsignedZeros)
    (bounds : SpawnBounds) (direction : Direction) :
    (bounds.origin p direction).unsignedZeros = (bounds.origin q direction).unsignedZeros := by
  rw [origin, ← Point.unsignedZeros_offset, h, Point.unsignedZeros_offset]
  rfl

theorem fits_congr {p q : Point} (h : p.unsignedZeros = q.unsignedZeros) (bounds : SpawnBounds) :
    bounds.fits p = bounds.fits q := by
  have hleft : ∀ x y : Float, x ≤ unsignedZero y ↔ x ≤ y := by
    intro x y
    rw [← unsignedZero_le_iff, unsignedZero_unsignedZero, unsignedZero_le_iff]
  have hright : ∀ x y : Float, unsignedZero x ≤ y ↔ x ≤ y := by
    intro x y
    rw [← unsignedZero_le_iff, unsignedZero_unsignedZero, unsignedZero_le_iff]
  have hself : ∀ p : Point, bounds.fits p.unsignedZeros = bounds.fits p := by
    intro p
    simp only [fits, Point.unsignedZeros, hleft, hright]
  rw [← hself, h, hself]

/-- A centre that fits on a finite canvas is finite, also for an infinite radius. -/
theorem Regular.isFinite_of_fits {bounds : SpawnBounds} (h : bounds.Regular) {o : Point}
    (ho : bounds.fits o = true) : isFinite o.x = true ∧ isFinite o.y = true := by
  simp only [fits, Bool.and_eq_true, decide_eq_true_eq] at ho
  obtain ⟨⟨⟨hleft, hright⟩, htop⟩, hbottom⟩ := ho
  exact ⟨isFinite_of_le_of_le h.radius hleft hright (sub_ne_infinite h.width h.radius),
    isFinite_of_le_of_le h.radius htop hbottom (sub_ne_infinite h.height h.radius)⟩

end SpawnBounds

namespace SpawnZone

variable {bounds : SpawnBounds} {stars stars' : List Point} {zones : List SpawnZone} {t p : Point}
  {i j : Nat} {d : Direction}

/-- What makes a candidate acceptable makes the same candidate of an earlier twin acceptable. -/
theorem Acceptable.twin (h : Acceptable bounds stars' zones ⟨j, d, bounds.origin p d⟩)
    (htwin : t.unsignedZeros = p.unsignedZeros) (hij : i ≤ j) (hstars : stars ⊆ stars') :
    Acceptable bounds stars zones ⟨i, d, bounds.origin t d⟩ where
  fits := (SpawnBounds.fits_congr (SpawnBounds.unsignedZeros_origin htwin bounds d) bounds).trans
    h.fits
  clear := by
    intro s hs
    have hclear := h.clear s (hstars hs)
    rwa [Point.distanceSquared_congr_right (SpawnBounds.unsignedZeros_origin htwin bounds d)]
  apart := by
    intro earlier hearlier hprecedes
    have hbefore : earlier.Precedes ⟨j, d, bounds.origin p d⟩ := by
      unfold Precedes at hprecedes ⊢
      dsimp only at hprecedes ⊢
      omega
    have hapart := h.apart earlier hearlier hbefore
    rwa [Point.distanceSquared_congr_right (SpawnBounds.unsignedZeros_origin htwin bounds d)]

/-- A star gets no zone beside the zones of stars that include an earlier twin. -/
theorem not_acceptable_of_twin (hbounds : bounds.Regular) (hplan : IsPlan bounds stars zones)
    (ht : stars[i]? = some t) (hij : i < j) (htwin : t.key = p.key) (hstars : stars ⊆ stars') :
    ¬ Acceptable bounds stars' zones ⟨j, d, bounds.origin p d⟩ := by
  intro h
  have htwin := Point.key_eq_key_iff.mp htwin
  have hfirst := h.twin htwin hij.le hstars
  have hmem := (hplan.accepted_iff i t d ht).mpr hfirst
  obtain ⟨hx, hy⟩ := hbounds.isFinite_of_fits hfirst.fits
  have hzero :=
    Point.hasUnits_distanceSquared (SpawnBounds.unsignedZeros_origin htwin bounds d) hx hy
  exact h.apart _ hmem (Or.inl hij) (hzero.lt_iff_zero_lt.mpr (zero_lt_four_mul hbounds.reach))

/-- A zone lies beside the first star of its key. -/
theorem IsPlan.isLeast_star (hbounds : bounds.Regular) (hplan : IsPlan bounds stars zones)
    {z : SpawnZone} (hz : z ∈ zones) :
    ∃ star, stars[z.star]? = some star ∧ IsLeast (placesOf stars star.key) z.star := by
  obtain ⟨star, hstar, horigin⟩ := hplan.placed z hz
  refine ⟨star, hstar, mem_placesOf.mpr ⟨star, hstar, rfl⟩, fun i hi => ?_⟩
  obtain ⟨twin, htwin, hkey⟩ := mem_placesOf.mp hi
  by_contra hlt
  have hacceptable := hplan.acceptable hz
  obtain ⟨j, d, o⟩ := z
  obtain rfl : o = bounds.origin star d := horigin
  exact not_acceptable_of_twin hbounds hplan htwin (Nat.lt_of_not_le hlt) hkey
    (List.Subset.refl stars) hacceptable

end SpawnZone
end GalaxyScenario
