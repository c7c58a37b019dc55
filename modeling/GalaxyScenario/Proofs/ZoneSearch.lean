import GalaxyScenario.Proofs.Binary64.Negation
import GalaxyScenario.Proofs.GreedySearch
import GalaxyScenario.Proofs.StarRoll
import GalaxyScenario.SpawnZone

/-! The zones of a map, characterised without the search that finds them. All comparisons are those
of doubles, so with NaN among the distances a zone is not closer than the limit without being at
least as far away; every statement is about not being closer. -/
namespace GalaxyScenario

theorem Point.distanceSquared_comm (p q : Point) : p.distanceSquared q = q.distanceSquared p := by
  unfold Point.distanceSquared
  dsimp only
  rw [Binary64.sub_mul_self_comm p.x q.x, Binary64.sub_mul_self_comm p.y q.y]

theorem Direction.rank_lt (d : Direction) : d.rank < 4 := by
  cases d <;> decide

theorem Direction.mem_all (d : Direction) : d ∈ all := by
  cases d <;> decide

theorem Direction.all_pairwise_rank : all.Pairwise (·.rank < ·.rank) := by decide

namespace SpawnZone

/-- The order of the search: the stars in their order, and the directions of one star from north
round to west. -/
def Precedes (a b : SpawnZone) : Prop :=
  a.star < b.star ∨ a.star = b.star ∧ a.direction.rank < b.direction.rank

def place (z : SpawnZone) : Nat := 4 * z.star + z.direction.rank

theorem precedes_iff_place_lt {a b : SpawnZone} : a.Precedes b ↔ a.place < b.place := by
  have ha := a.direction.rank_lt
  have hb := b.direction.rank_lt
  unfold Precedes place
  omega

theorem mem_candidates {bounds : SpawnBounds} {stars : List Point} {z : SpawnZone} :
    z ∈ candidates bounds stars ↔
      ∃ star, stars[z.star]? = some star ∧ z.origin = bounds.origin star z.direction := by
  simp only [candidates, candidatesOf, List.mem_flatMap, List.mem_map, Prod.exists,
    List.mk_mem_zipIdx_iff_getElem?]
  constructor
  · rintro ⟨star, i, hstar, d, -, rfl⟩
    exact ⟨star, hstar, rfl⟩
  · rintro ⟨star, hstar, horigin⟩
    refine ⟨star, z.star, hstar, z.direction, z.direction.mem_all, ?_⟩
    rw [← horigin]

theorem candidates_pairwise_place (bounds : SpawnBounds) (stars : List Point) :
    (candidates bounds stars).Pairwise fun a b => a.place < b.place := by
  refine List.pairwise_flatMap.mpr ⟨?_, ?_⟩
  · rintro ⟨star, i⟩ -
    refine List.pairwise_map.mpr ?_
    exact Direction.all_pairwise_rank.imp fun h => Nat.add_lt_add_left h (4 * i)
  · refine (zipIdx_pairwise_snd stars).imp ?_
    rintro ⟨star, i⟩ ⟨star', j⟩ hij a ha b hb
    obtain ⟨d, -, rfl⟩ := List.mem_map.mp ha
    obtain ⟨d', -, rfl⟩ := List.mem_map.mp hb
    exact precedes_iff_place_lt.mp (Or.inl hij)

/-- The tests of a candidate that do not depend on other zones. -/
def eligible (bounds : SpawnBounds) (stars : List Point) (z : SpawnZone) : Bool :=
  bounds.fits z.origin && !stars.any (z.holdsStar bounds)

/-- Whether a zone that is kept blocks a later candidate. -/
def blocks (bounds : SpawnBounds) (earlier z : SpawnZone) : Bool := z.overlaps bounds earlier

theorem plan_eq_greedy (bounds : SpawnBounds) (stars : List Point) :
    plan bounds stars =
      greedy (eligible bounds stars) (blocks bounds) (candidates bounds stars) := rfl

/-- A candidate that belongs to the zones: it fits the canvas, no star lies in it, and it overlaps
no zone before it. -/
structure Acceptable (bounds : SpawnBounds) (stars : List Point) (zones : List SpawnZone)
    (z : SpawnZone) : Prop where
  fits : bounds.fits z.origin = true
  clear : ∀ s ∈ stars, ¬ s.distanceSquared z.origin < bounds.radius * bounds.radius
  apart : ∀ earlier ∈ zones, earlier.Precedes z →
    ¬ earlier.origin.distanceSquared z.origin < 4.0 * (bounds.radius * bounds.radius)

theorem acceptable_iff {bounds : SpawnBounds} {stars : List Point} {zones : List SpawnZone}
    {z : SpawnZone} : Acceptable bounds stars zones z ↔ z.eligible bounds stars = true ∧
      ∀ earlier ∈ zones, earlier.place < z.place → blocks bounds earlier z = false := by
  have hclear : stars.any (z.holdsStar bounds) = false ↔
      ∀ s ∈ stars, ¬ s.distanceSquared z.origin < bounds.radius * bounds.radius := by
    rw [List.any_eq_false]
    exact forall₂_congr fun s _ => not_congr decide_eq_true_iff
  have hapart : ∀ earlier : SpawnZone, blocks bounds earlier z = false ↔
      ¬ earlier.origin.distanceSquared z.origin < 4.0 * (bounds.radius * bounds.radius) :=
    fun _ => decide_eq_false_iff_not
  simp only [eligible, Bool.and_eq_true, Bool.not_eq_true', hclear, hapart,
    ← precedes_iff_place_lt]
  constructor
  · rintro ⟨hfits, hclear, hapart⟩
    exact ⟨⟨hfits, hclear⟩, hapart⟩
  · rintro ⟨⟨hfits, hclear⟩, hapart⟩
    exact ⟨hfits, hclear, hapart⟩

/-- What the zones of a map have to be: the acceptable candidates in the order of the search. -/
structure IsPlan (bounds : SpawnBounds) (stars : List Point) (zones : List SpawnZone) : Prop where
  ordered : zones.Pairwise Precedes
  placed : ∀ z ∈ zones, ∃ star,
    stars[z.star]? = some star ∧ z.origin = bounds.origin star z.direction
  accepted_iff : ∀ i star direction, stars[i]? = some star →
    (⟨i, direction, bounds.origin star direction⟩ ∈ zones ↔
      Acceptable bounds stars zones ⟨i, direction, bounds.origin star direction⟩)

theorem keepsExactly_iff {bounds : SpawnBounds} {stars : List Point} {zones : List SpawnZone} :
    KeepsExactly (eligible bounds stars) (blocks bounds) place (candidates bounds stars) zones ↔
      ∀ i star direction, stars[i]? = some star →
        (⟨i, direction, bounds.origin star direction⟩ ∈ zones ↔
          Acceptable bounds stars zones ⟨i, direction, bounds.origin star direction⟩) := by
  simp only [KeepsExactly, mem_candidates, acceptable_iff]
  constructor
  · intro h i star direction hstar
    exact h ⟨i, direction, bounds.origin star direction⟩ ⟨star, hstar, rfl⟩
  · rintro h ⟨i, direction, origin⟩ ⟨star, hstar, horigin⟩
    obtain rfl : origin = bounds.origin star direction := horigin
    exact h i star direction hstar

/-- The search finds zones as they have to be. -/
theorem isPlan_plan (bounds : SpawnBounds) (stars : List Point) :
    IsPlan bounds stars (plan bounds stars) := by
  have hordered := candidates_pairwise_place bounds stars
  have hsublist := greedy_sublist (eligible bounds stars) (blocks bounds) (candidates bounds stars)
  rw [plan_eq_greedy]
  constructor
  case ordered => exact (hordered.sublist hsublist).imp precedes_iff_place_lt.mpr
  case placed =>
    intro z hz
    exact mem_candidates.mp (hsublist.subset hz)
  case accepted_iff => exact keepsExactly_iff.mp (greedy_keepsExactly _ _ place hordered)

/-- No other zones are as they have to be. -/
theorem IsPlan.eq_plan {bounds : SpawnBounds} {stars : List Point} {zones : List SpawnZone}
    (h : IsPlan bounds stars zones) : zones = plan bounds stars := by
  have hplan := isPlan_plan bounds stars
  have hsub : ∀ {zones}, IsPlan bounds stars zones → zones ⊆ candidates bounds stars :=
    fun h z hz => mem_candidates.mpr (h.placed z hz)
  exact (keepsExactly_iff.mpr h.accepted_iff).eq (keepsExactly_iff.mpr hplan.accepted_iff)
    (hsub h) (hsub hplan) (h.ordered.imp precedes_iff_place_lt.mp)
    (hplan.ordered.imp precedes_iff_place_lt.mp)

section Consequences

variable {bounds : SpawnBounds} {stars : List Point} {zones : List SpawnZone}

theorem IsPlan.acceptable (h : IsPlan bounds stars zones) {z : SpawnZone} (hz : z ∈ zones) :
    Acceptable bounds stars zones z := by
  obtain ⟨star, hstar, horigin⟩ := h.placed z hz
  obtain ⟨i, direction, origin⟩ := z
  obtain rfl : origin = bounds.origin star direction := horigin
  exact (h.accepted_iff i star direction hstar).mp hz

theorem IsPlan.separated (h : IsPlan bounds stars zones) :
    zones.Pairwise fun a b =>
      ¬ a.origin.distanceSquared b.origin < 4.0 * (bounds.radius * bounds.radius) ∧
        ¬ b.origin.distanceSquared a.origin < 4.0 * (bounds.radius * bounds.radius) := by
  refine h.ordered.imp_of_mem ?_
  intro a b ha hb hab
  have hapart := (h.acceptable hb).apart a ha hab
  exact ⟨hapart, by rwa [Point.distanceSquared_comm]⟩

/-- A candidate that is not among the zones leaves the canvas, has a star in it or overlaps a zone
before it. -/
theorem IsPlan.rejected (h : IsPlan bounds stars zones) {i : Nat} {star : Point}
    {direction : Direction} (hstar : stars[i]? = some star)
    (hz : ⟨i, direction, bounds.origin star direction⟩ ∉ zones) :
    bounds.fits (bounds.origin star direction) = false ∨
      (∃ s ∈ stars, s.distanceSquared (bounds.origin star direction) <
        bounds.radius * bounds.radius) ∨
      ∃ z ∈ zones, z.Precedes ⟨i, direction, bounds.origin star direction⟩ ∧
        z.origin.distanceSquared (bounds.origin star direction) <
          4.0 * (bounds.radius * bounds.radius) := by
  by_contra hnone
  simp only [not_or, not_exists, not_and, Bool.not_eq_false] at hnone
  obtain ⟨hfits, hclear, hapart⟩ := hnone
  exact hz ((h.accepted_iff i star direction hstar).mpr ⟨hfits, hclear, hapart⟩)

end Consequences

/-- The search finds the only list of zones that keeps exactly the acceptable candidates in the
order of the search. Each candidate it rejects has a reason, and neither a star nor another zone
comes too close to a zone it accepts. -/
theorem isPlan_iff_eq_plan (bounds : SpawnBounds) (stars : List Point) :
    (∀ zones, IsPlan bounds stars zones ↔ zones = plan bounds stars) ∧
      (∀ i star direction, stars[i]? = some star →
        ⟨i, direction, bounds.origin star direction⟩ ∉ plan bounds stars →
          bounds.fits (bounds.origin star direction) = false ∨
            (∃ s ∈ stars, s.distanceSquared (bounds.origin star direction) <
              bounds.radius * bounds.radius) ∨
            ∃ z ∈ plan bounds stars,
              z.Precedes ⟨i, direction, bounds.origin star direction⟩ ∧
                z.origin.distanceSquared (bounds.origin star direction) <
                  4.0 * (bounds.radius * bounds.radius)) ∧
      ((plan bounds stars).Pairwise fun a b =>
        ¬ a.origin.distanceSquared b.origin < 4.0 * (bounds.radius * bounds.radius) ∧
          ¬ b.origin.distanceSquared a.origin < 4.0 * (bounds.radius * bounds.radius)) ∧
      ∀ z ∈ plan bounds stars, ∀ s ∈ stars,
        ¬ s.distanceSquared z.origin < bounds.radius * bounds.radius := by
  have hplan := isPlan_plan bounds stars
  refine ⟨?_, ?_, hplan.separated, ?_⟩
  · intro zones
    constructor
    · exact IsPlan.eq_plan
    · rintro rfl
      exact hplan
  · intro i star direction hstar hz
    exact hplan.rejected hstar hz
  · intro z hz
    exact (hplan.acceptable hz).clear

end SpawnZone
end GalaxyScenario
