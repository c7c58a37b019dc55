import GalaxyScenario.Proofs.Binary64.Whole
import GalaxyScenario.Proofs.ZoneSearch

/-! The search for zones on a grid of whole numbers. Where all inputs are whole and at most `2 ^ 24`
in size, no step of the search in doubles is rounded: coordinates of centres stay within `2 ^ 25`,
differences within `2 ^ 26` and squares of distances within `2 ^ 53`. Both searches then accept the
same candidates. -/
namespace GalaxyScenario
open Binary64

structure GridPoint where
  x : Int
  y : Int
  deriving DecidableEq, Repr

namespace GridPoint

def distanceSquared (p q : GridPoint) : Int := (p.x - q.x) ^ 2 + (p.y - q.y) ^ 2

def Within (limit : Nat) (p : GridPoint) : Prop := p.x.natAbs ≤ limit ∧ p.y.natAbs ≤ limit

end GridPoint

def Direction.step : Direction → Int × Int
  | .north => (0, -1)
  | .east => (1, 0)
  | .south => (0, 1)
  | .west => (-1, 0)

structure GridBounds where
  width : Int
  height : Int
  radius : Int
  deriving DecidableEq, Repr

namespace GridBounds

/-- The centre of the zone on one side of a star. -/
def origin (bounds : GridBounds) (star : GridPoint) (direction : Direction) : GridPoint :=
  ⟨star.x + direction.step.1 * bounds.radius, star.y + direction.step.2 * bounds.radius⟩

/-- The position is at least the radius away from each edge of the canvas. -/
def Fits (bounds : GridBounds) (p : GridPoint) : Prop :=
  bounds.radius ≤ p.x ∧ p.x ≤ bounds.width - bounds.radius ∧
    bounds.radius ≤ p.y ∧ p.y ≤ bounds.height - bounds.radius

instance (bounds : GridBounds) (p : GridPoint) : Decidable (bounds.Fits p) :=
  inferInstanceAs (Decidable (_ ∧ _ ∧ _ ∧ _))

def Within (limit : Nat) (bounds : GridBounds) : Prop :=
  bounds.width.natAbs ≤ limit ∧ bounds.height.natAbs ≤ limit ∧ bounds.radius.natAbs ≤ limit

end GridBounds

structure GridZone where
  star : Nat
  direction : Direction
  origin : GridPoint
  deriving DecidableEq, Repr

namespace GridZone

def candidates (bounds : GridBounds) (stars : List GridPoint) : List GridZone :=
  stars.zipIdx.flatMap fun (star, index) =>
    Direction.all.map fun direction => ⟨index, direction, bounds.origin star direction⟩

/-- The tests of a candidate that do not depend on other zones. -/
def eligible (bounds : GridBounds) (stars : List GridPoint) (z : GridZone) : Bool :=
  decide (bounds.Fits z.origin) &&
    !stars.any fun star => decide (star.distanceSquared z.origin < bounds.radius ^ 2)

/-- Whether a zone that is kept blocks a later candidate. -/
def blocks (bounds : GridBounds) (earlier z : GridZone) : Bool :=
  decide (earlier.origin.distanceSquared z.origin < 4 * bounds.radius ^ 2)

/-- The zones of a list of stars, in the order of the search. -/
def plan (bounds : GridBounds) (stars : List GridPoint) : List GridZone :=
  greedy (eligible bounds stars) (blocks bounds) (candidates bounds stars)

theorem eligible_of_mem_plan {bounds : GridBounds} {stars : List GridPoint} {z : GridZone}
    (h : z ∈ plan bounds stars) : bounds.Fits z.origin ∧
      ∀ star ∈ stars, bounds.radius ^ 2 ≤ star.distanceSquared z.origin := by
  have heligible := eligible_of_mem_greedy h
  rw [eligible, Bool.and_eq_true, decide_eq_true_iff, Bool.not_eq_true', List.any_eq_false]
    at heligible
  refine ⟨heligible.1, fun star hstar => ?_⟩
  exact Int.not_lt.mp fun hlt => heligible.2 star hstar (decide_eq_true hlt)

theorem plan_separated (bounds : GridBounds) (stars : List GridPoint) :
    (plan bounds stars).Pairwise fun a b =>
      4 * bounds.radius ^ 2 ≤ a.origin.distanceSquared b.origin := by
  refine (greedy_pairwise (eligible bounds stars) (blocks bounds) _).imp ?_
  intro a b h
  exact Int.not_lt.mp (decide_eq_false_iff_not.mp h)

end GridZone

/-- The position has the coordinates of a position on the grid. -/
def Point.IsAt (p : Point) (g : GridPoint) : Prop := IsWhole p.x g.x ∧ IsWhole p.y g.y

theorem Point.IsAt.eq {p : Point} {g h : GridPoint} (hg : p.IsAt g) (hh : p.IsAt h) : g = h := by
  obtain ⟨gx, gy⟩ := g
  obtain ⟨hx, hy⟩ := h
  rw [GridPoint.mk.injEq]
  exact ⟨hg.1.eq hh.1, hg.2.eq hh.2⟩

/-- The canvas and the radius are those of the grid. -/
def SpawnBounds.Are (bounds : SpawnBounds) (grid : GridBounds) : Prop :=
  IsWhole bounds.width grid.width ∧ IsWhole bounds.height grid.height ∧
    IsWhole bounds.radius grid.radius

/-- The zone lies beside the same star, on the same side and around the same centre. -/
def SpawnZone.IsAt (z : SpawnZone) (g : GridZone) : Prop :=
  z.star = g.star ∧ z.direction = g.direction ∧ z.origin.IsAt g.origin

section Exactness

variable {bounds : SpawnBounds} {grid : GridBounds}

theorem Direction.isWhole_unit (d : Direction) :
    IsWhole d.unit.1 d.step.1 ∧ IsWhole d.unit.2 d.step.2 := by
  cases d with
  | north => exact ⟨isWhole_zero, isWhole_neg_one⟩
  | east => exact ⟨isWhole_one, isWhole_zero⟩
  | south => exact ⟨isWhole_zero, isWhole_one⟩
  | west => exact ⟨isWhole_neg_one, isWhole_zero⟩

theorem Direction.natAbs_step_mul_le (d : Direction) (n : Int) :
    (d.step.1 * n).natAbs ≤ n.natAbs ∧ (d.step.2 * n).natAbs ≤ n.natAbs := by
  cases d <;> simp [step]

/-- The centre of a zone is not rounded. -/
theorem isAt_origin {star : Point} {g : GridPoint}
    (hradius : IsWhole bounds.radius grid.radius) (hr : grid.radius.natAbs ≤ 2 ^ 24)
    (hstar : star.IsAt g) (hg : g.Within (2 ^ 24)) (d : Direction) :
    (bounds.origin star d).IsAt (grid.origin g d) ∧ (grid.origin g d).Within (2 ^ 25) := by
  obtain ⟨hx, hy⟩ := hstar
  obtain ⟨hgx, hgy⟩ := hg
  obtain ⟨hux, huy⟩ := d.isWhole_unit
  obtain ⟨hsx, hsy⟩ := d.natAbs_step_mul_le grid.radius
  have hdx := hux.mul hradius (by omega)
  have hdy := huy.mul hradius (by omega)
  unfold GridPoint.Within GridBounds.origin
  exact ⟨⟨hx.add hdx (by omega), hy.add hdy (by omega)⟩, by dsimp only; omega, by dsimp only; omega⟩

theorem natAbs_mul_self_le {n : Int} {k : Nat} (h : n.natAbs ≤ 2 ^ k) :
    (n * n).natAbs ≤ 2 ^ (k + k) := by
  rw [Int.natAbs_mul, Nat.pow_add]
  exact Nat.mul_le_mul h h

theorem isWhole_distanceSquared {p q : Point} {g h : GridPoint} (hp : p.IsAt g) (hq : q.IsAt h)
    (hg : g.Within (2 ^ 25)) (hh : h.Within (2 ^ 25)) :
    IsWhole (p.distanceSquared q) (g.distanceSquared h) := by
  obtain ⟨hgx, hgy⟩ := hg
  obtain ⟨hhx, hhy⟩ := hh
  have hx := natAbs_mul_self_le (n := g.x - h.x) (k := 26) (by omega)
  have hy := natAbs_mul_self_le (n := g.y - h.y) (k := 26) (by omega)
  have hdx : IsWhole (p.x - q.x) (g.x - h.x) := hp.1.sub hq.1 (by omega)
  have hdy : IsWhole (p.y - q.y) (g.y - h.y) := hp.2.sub hq.2 (by omega)
  rw [GridPoint.distanceSquared, sq, sq]
  exact (hdx.mul hdx (by omega)).add (hdy.mul hdy (by omega)) (by omega)

theorem isWhole_reach (hradius : IsWhole bounds.radius grid.radius)
    (hr : grid.radius.natAbs ≤ 2 ^ 24) :
    IsWhole bounds.reach (grid.radius ^ 2) ∧ IsWhole bounds.spacing (4 * grid.radius ^ 2) := by
  have hsquare := natAbs_mul_self_le hr
  have hreach : IsWhole bounds.reach (grid.radius * grid.radius) :=
    hradius.mul hradius (by omega)
  rw [sq]
  exact ⟨hreach, isWhole_four.mul hreach (by omega)⟩

theorem fits_eq (hbounds : bounds.Are grid) (hwithin : grid.Within (2 ^ 24)) {p : Point}
    {g : GridPoint} (hp : p.IsAt g) : bounds.fits p = decide (grid.Fits g) := by
  obtain ⟨hwidth, hheight, hradius⟩ := hbounds
  obtain ⟨hw, hh, hr⟩ := hwithin
  have hright := hwidth.sub hradius (by omega)
  have hbottom := hheight.sub hradius (by omega)
  rw [Bool.eq_iff_iff, decide_eq_true_iff]
  simp only [SpawnBounds.fits, Bool.and_eq_true, decide_eq_true_iff, hradius.le_iff hp.1,
    hradius.le_iff hp.2, hp.1.le_iff hright, hp.2.le_iff hbottom, GridBounds.Fits, and_assoc]

theorem eligible_eq {stars : List Point} {gridStars : List GridPoint} (hbounds : bounds.Are grid)
    (hwithin : grid.Within (2 ^ 24))
    (hstars : List.Forall₂ (fun p g => p.IsAt g ∧ g.Within (2 ^ 24)) stars gridStars)
    {z : SpawnZone} {g : GridZone} (hz : z.IsAt g) (hg : g.origin.Within (2 ^ 25)) :
    z.eligible bounds stars = g.eligible grid gridStars := by
  have hany : stars.any (z.holdsStar bounds) =
      gridStars.any fun star => decide (star.distanceSquared g.origin < grid.radius ^ 2) := by
    refine any_eq_of_forall₂ hstars ?_
    rintro p q ⟨hp, hqx, hqy⟩
    have hdistance := isWhole_distanceSquared hp hz.2.2 ⟨by omega, by omega⟩ hg
    exact decide_eq_decide.mpr (hdistance.lt_iff (isWhole_reach hbounds.2.2 hwithin.2.2).1)
  rw [SpawnZone.eligible, GridZone.eligible, fits_eq hbounds hwithin hz.2.2, hany]

theorem blocks_eq (hbounds : bounds.Are grid) (hwithin : grid.Within (2 ^ 24))
    {z z' : SpawnZone} {g g' : GridZone} (hz : z.IsAt g) (hg : g.origin.Within (2 ^ 25))
    (hz' : z'.IsAt g') (hg' : g'.origin.Within (2 ^ 25)) :
    SpawnZone.blocks bounds z z' = GridZone.blocks grid g g' := by
  have hdistance := isWhole_distanceSquared hz.2.2 hz'.2.2 hg hg'
  exact decide_eq_decide.mpr (hdistance.lt_iff (isWhole_reach hbounds.2.2 hwithin.2.2).2)

theorem forall₂_zipIdx {α β : Type} {R : α → β → Prop} {as : List α} {bs : List β}
    (h : List.Forall₂ R as bs) (i : Nat) :
    List.Forall₂ (fun a b => R a.1 b.1 ∧ a.2 = b.2) (as.zipIdx i) (bs.zipIdx i) := by
  induction h generalizing i with
  | nil => exact List.Forall₂.nil
  | cons hab _ ih => exact List.Forall₂.cons ⟨hab, rfl⟩ (ih (i + 1))

theorem candidates_forall₂ {stars : List Point} {gridStars : List GridPoint}
    (hbounds : bounds.Are grid) (hwithin : grid.Within (2 ^ 24))
    (hstars : List.Forall₂ (fun p g => p.IsAt g ∧ g.Within (2 ^ 24)) stars gridStars) :
    List.Forall₂ (fun z g => z.IsAt g ∧ g.origin.Within (2 ^ 25))
      (SpawnZone.candidates bounds stars) (GridZone.candidates grid gridStars) := by
  refine List.rel_flatMap (forall₂_zipIdx hstars 0) ?_
  rintro ⟨star, i⟩ ⟨g, j⟩ ⟨⟨hstar, hg⟩, rfl⟩
  have hall : List.Forall₂ Eq Direction.all Direction.all := List.forall₂_refl Direction.all
  refine List.rel_map ?_ hall
  rintro d d' rfl
  obtain ⟨horigin, hin⟩ := isAt_origin hbounds.2.2 hwithin.2.2 hstar hg d
  exact ⟨⟨rfl, rfl, horigin⟩, hin⟩

end Exactness

/-- On whole inputs up to `2 ^ 24` in size the search in doubles finds the zones that the search in
whole numbers finds. These are at least a radius away from the edges of the canvas and from every
star, and at least a diameter from each other. -/
theorem SpawnZone.plan_isAt_gridPlan {bounds : SpawnBounds} {stars : List Point}
    {grid : GridBounds} {gridStars : List GridPoint} (hbounds : bounds.Are grid)
    (hwithin : grid.Within (2 ^ 24))
    (hstars : List.Forall₂ (fun p g => p.IsAt g ∧ g.Within (2 ^ 24)) stars gridStars) :
    List.Forall₂ SpawnZone.IsAt (plan bounds stars) (GridZone.plan grid gridStars) ∧
      (∀ z ∈ GridZone.plan grid gridStars, grid.Fits z.origin ∧
        ∀ star ∈ gridStars, grid.radius ^ 2 ≤ star.distanceSquared z.origin) ∧
      (GridZone.plan grid gridStars).Pairwise fun a b =>
        4 * grid.radius ^ 2 ≤ a.origin.distanceSquared b.origin := by
  refine ⟨?_, fun z hz => GridZone.eligible_of_mem_plan hz, GridZone.plan_separated grid gridStars⟩
  rw [plan_eq_greedy]
  have hrun := greedy_forall₂ (candidates_forall₂ hbounds hwithin hstars)
    (fun z g hz => eligible_eq hbounds hwithin hstars hz.1 hz.2)
    (fun z z' g g' hz hz' => blocks_eq hbounds hwithin hz.1 hz.2 hz'.1 hz'.2)
  exact hrun.imp fun z g hz => hz.1

/-- Zones that touch a star or each other are accepted: four of them around two stars that are a
diameter apart, where the two between the stars touch as well. -/
theorem SpawnZone.plan_isAt_touching :
    List.Forall₂ SpawnZone.IsAt (plan ⟨60.0, 40.0, 10.0⟩ [⟨20.0, 20.0⟩, ⟨40.0, 20.0⟩])
      [⟨0, .north, ⟨20, 10⟩⟩, ⟨0, .south, ⟨20, 30⟩⟩, ⟨1, .north, ⟨40, 10⟩⟩,
        ⟨1, .south, ⟨40, 30⟩⟩] := by
  have h60 : IsWhole 60.0 60 := isWhole_of_units false 60 (by decide +kernel)
  have h40 : IsWhole 40.0 40 := isWhole_of_units false 40 (by decide +kernel)
  have h20 : IsWhole 20.0 20 := isWhole_of_units false 20 (by decide +kernel)
  have h10 : IsWhole 10.0 10 := isWhole_of_units false 10 (by decide +kernel)
  have hbounds : SpawnBounds.Are ⟨60.0, 40.0, 10.0⟩ ⟨60, 40, 10⟩ := ⟨h60, h40, h10⟩
  have hwithin : GridBounds.Within (2 ^ 24) ⟨60, 40, 10⟩ := ⟨by decide, by decide, by decide⟩
  have hfirst : Point.IsAt ⟨20.0, 20.0⟩ ⟨20, 20⟩ ∧ GridPoint.Within (2 ^ 24) ⟨20, 20⟩ :=
    ⟨⟨h20, h20⟩, by decide, by decide⟩
  have hsecond : Point.IsAt ⟨40.0, 20.0⟩ ⟨40, 20⟩ ∧ GridPoint.Within (2 ^ 24) ⟨40, 20⟩ :=
    ⟨⟨h40, h20⟩, by decide, by decide⟩
  have hplan : GridZone.plan ⟨60, 40, 10⟩ [⟨20, 20⟩, ⟨40, 20⟩] =
      [⟨0, .north, ⟨20, 10⟩⟩, ⟨0, .south, ⟨20, 30⟩⟩, ⟨1, .north, ⟨40, 10⟩⟩,
        ⟨1, .south, ⟨40, 30⟩⟩] := by decide +kernel
  rw [← hplan]
  exact (SpawnZone.plan_isAt_gridPlan hbounds hwithin (.cons hfirst (.cons hsecond .nil))).1

end GalaxyScenario
