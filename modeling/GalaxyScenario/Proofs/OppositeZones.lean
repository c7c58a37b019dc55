import GalaxyScenario.Proofs.GridSearch

/-! The zones around one place. Two of them on adjacent sides, or on one side twice, overlap: their
centres are at most `√2` radii apart. So stars at one whole place have at most two zones together,
on opposite sides. Nothing in the search says so; it follows from the distance of accepted zones. -/
namespace GalaxyScenario
open Binary64

namespace Direction

def Opposes (d e : Direction) : Prop := e.step = (-d.step.1, -d.step.2)

instance (d e : Direction) : Decidable (d.Opposes e) := inferInstanceAs (Decidable (_ = _))

theorem step_gap_le {d e : Direction} (h : ¬ d.Opposes e) :
    (d.step.1 - e.step.1) ^ 2 + (d.step.2 - e.step.2) ^ 2 ≤ 2 := by
  revert h
  cases d <;> cases e <;> decide

theorem eq_of_opposes {d e f : Direction} (hd : d.Opposes e) (hf : f.Opposes e) : d = f := by
  revert hd hf
  cases d <;> cases e <;> cases f <;> decide

theorem not_opposes_self (d : Direction) : ¬ d.Opposes d := by
  cases d <;> decide

theorem Opposes.symm {d e : Direction} (h : d.Opposes e) : e.Opposes d := by
  revert h
  cases d <;> cases e <;> decide

/-- Directions that are the same or opposite are on one axis. -/
theorem subset_axis {S : Set Direction} (h : ∀ d ∈ S, ∀ e ∈ S, d = e ∨ d.Opposes e) :
    S ⊆ {.north, .south} ∨ S ⊆ {.east, .west} := by
  rcases S.eq_empty_or_nonempty with rfl | ⟨d, hd⟩
  · exact Or.inl (Set.empty_subset _)
  · have hside := h d hd
    cases d with
    | north | south =>
      left
      intro e he
      rcases hside e he with rfl | hopposes
      · simp
      · cases e <;> simp_all [Opposes, step]
    | east | west =>
      right
      intro e he
      rcases hside e he with rfl | hopposes
      · simp
      · cases e <;> simp_all [Opposes, step]

theorem length_le_two {l : List Direction} (h : l.Pairwise Opposes) : l.length ≤ 2 := by
  match l, h with
  | [], _ | [_], _ | [_, _], _ => simp
  | d :: e :: f :: rest, h =>
    simp only [List.pairwise_cons, List.mem_cons, forall_eq_or_imp] at h
    obtain ⟨⟨hde, hdf, -⟩, ⟨hef, -⟩, -⟩ := h
    obtain rfl := eq_of_opposes hdf hef
    exact absurd hde (not_opposes_self d)

end Direction

theorem GridBounds.distanceSquared_origin (grid : GridBounds) (g : GridPoint) (d e : Direction) :
    (grid.origin g d).distanceSquared (grid.origin g e) =
      ((d.step.1 - e.step.1) ^ 2 + (d.step.2 - e.step.2) ^ 2) * grid.radius ^ 2 := by
  simp only [GridBounds.origin, GridPoint.distanceSquared]
  ring

namespace SpawnZone

variable {bounds : SpawnBounds} {stars : List Point} {radius : Int} {p q : Point} {g : GridPoint}

/-- The zone lies beside a star at the place. -/
def IsBeside (z : SpawnZone) (stars : List Point) (place : GridPoint) : Prop :=
  ∃ star, stars[z.star]? = some star ∧ star.IsAt place

/-- The sides on which the stars at one place have zones. -/
def sidesAt (zones : List SpawnZone) (stars : List Point) (place : GridPoint) : Set Direction :=
  {d | ∃ z ∈ zones, z.direction = d ∧ z.IsBeside stars place}

/-- Zones around one place overlap unless they are on opposite sides. -/
theorem distanceSquared_origin_lt (hradius : IsWhole bounds.radius radius) (hpos : 1 ≤ radius)
    (hmax : radius ≤ 2 ^ 24) (hp : p.IsAt g) (hq : q.IsAt g) (hg : g.Within (2 ^ 24))
    {d e : Direction} (hside : ¬ d.Opposes e) :
    (bounds.origin p d).distanceSquared (bounds.origin q e) <
      4.0 * (bounds.radius * bounds.radius) := by
  -- The extent of the canvas has no part in where the centres are.
  obtain ⟨grid, rfl⟩ : ∃ grid : GridBounds, grid.radius = radius := ⟨⟨0, 0, radius⟩, rfl⟩
  have hr : grid.radius.natAbs ≤ 2 ^ 24 := by omega
  obtain ⟨hpd, hin⟩ := isAt_origin hradius hr hp hg d
  obtain ⟨hqe, hin'⟩ := isAt_origin hradius hr hq hg e
  have hdistance := isWhole_distanceSquared hpd hqe hin hin'
  refine (hdistance.lt_iff (isWhole_reach hradius hr).2).mpr ?_
  rw [GridBounds.distanceSquared_origin]
  have hgap := Direction.step_gap_le hside
  have hsquare : 0 < grid.radius ^ 2 := by positivity
  nlinarith

/-- Zones that are apart and lie around one place are on opposite sides. -/
theorem opposes_of_apart (hradius : IsWhole bounds.radius radius) (hpos : 1 ≤ radius)
    (hmax : radius ≤ 2 ^ 24) (hg : g.Within (2 ^ 24)) {a b : SpawnZone}
    (ha : a ∈ plan bounds stars) (hb : b ∈ plan bounds stars) (hag : a.IsBeside stars g)
    (hbg : b.IsBeside stars g)
    (hapart : ¬ a.origin.distanceSquared b.origin < 4.0 * (bounds.radius * bounds.radius)) :
    a.direction.Opposes b.direction := by
  have hplan := isPlan_plan bounds stars
  obtain ⟨p, hp, hpg⟩ := hag
  obtain ⟨q, hq, hqg⟩ := hbg
  obtain ⟨p', hp', horigin⟩ := hplan.placed a ha
  obtain ⟨q', hq', horigin'⟩ := hplan.placed b hb
  obtain rfl : p' = p := Option.some.inj (hp'.symm.trans hp)
  obtain rfl : q' = q := Option.some.inj (hq'.symm.trans hq)
  by_contra hside
  rw [horigin, horigin'] at hapart
  exact hapart (distanceSquared_origin_lt hradius hpos hmax hpg hqg hg hside)

/-- The flags of a star are those of at most two zones. -/
theorem length_flags_of_opposes {zones : List SpawnZone} {index : Nat}
    (h : (zones.filter (·.star == index)).Pairwise fun a b => a.direction.Opposes b.direction) :
    (flags zones index).length = 0 ∨ (flags zones index).length = 2 ∨
      (flags zones index).length = 3 := by
  have htwo := Direction.length_le_two (List.pairwise_map.mpr h)
  rw [List.length_map] at htwo
  unfold flags
  split
  · exact Or.inl rfl
  · rename_i hsome
    have hpos := List.length_pos_iff.mpr hsome
    rw [List.length_cons, List.length_map]
    omega

/-- Beside whole stars, the zones of all stars at one place lie on two opposite sides at most, so a
star carries no flags or those of one or two zones. -/
theorem sidesAt_plan_opposite (hradius : IsWhole bounds.radius radius) (hpos : 1 ≤ radius)
    (hmax : radius ≤ 2 ^ 24)
    (hstars : ∀ star ∈ stars, ∃ g : GridPoint, star.IsAt g ∧ g.Within (2 ^ 24)) :
    (∀ place, sidesAt (plan bounds stars) stars place ⊆ {.north, .south} ∨
        sidesAt (plan bounds stars) stars place ⊆ {.east, .west}) ∧
      ∀ index, (flags (plan bounds stars) index).length = 0 ∨
        (flags (plan bounds stars) index).length = 2 ∨
        (flags (plan bounds stars) index).length = 3 := by
  have hplan := isPlan_plan bounds stars
  have hopposes : (plan bounds stars).Pairwise fun a b => ∀ place,
      a.IsBeside stars place → b.IsBeside stars place → a.direction.Opposes b.direction := by
    refine hplan.separated.imp_of_mem fun ha hb hapart place hag hbg => ?_
    obtain ⟨star, hstar, hplace⟩ := hag
    obtain ⟨g, hg, hin⟩ := hstars star (List.mem_of_getElem? hstar)
    obtain rfl := hplace.eq hg
    exact opposes_of_apart hradius hpos hmax hin ha hb ⟨star, hstar, hplace⟩ hbg hapart.1
  constructor
  · intro place
    apply Direction.subset_axis
    rintro _ ⟨a, ha, rfl, hag⟩ _ ⟨b, hb, rfl, hbg⟩
    by_cases heq : a = b
    · exact Or.inl (congrArg direction heq)
    · have hsymm : Std.Symm fun a b : SpawnZone => ∀ place, a.IsBeside stars place →
          b.IsBeside stars place → a.direction.Opposes b.direction :=
        ⟨fun _ _ h place hb ha => (h place ha hb).symm⟩
      exact Or.inr (hopposes.forall ha hb heq place hag hbg)
  · intro index
    apply length_flags_of_opposes
    refine List.pairwise_filter.mpr (hopposes.imp_of_mem fun {a b} ha _ h haindex hbindex => ?_)
    rw [beq_iff_eq] at haindex hbindex
    obtain ⟨star, hstar, -⟩ := hplan.placed a ha
    obtain ⟨g, hg, -⟩ := hstars star (List.mem_of_getElem? hstar)
    have hstar' : stars[b.star]? = some star := by rw [hbindex, ← haindex, hstar]
    exact h g ⟨star, hstar, hg⟩ ⟨star, hstar', hg⟩

/-- Of two stars at one place, under a canvas without an end to the east and of a fractional height,
the first has both zones. -/
theorem sidesAt_plan_twins :
    let bounds : SpawnBounds := ⟨1.0 / 0.0, 900.25, 50.0⟩
    let stars : List Point := [⟨450.0, 450.0⟩, ⟨450.0, 450.0⟩]
    (sidesAt (plan bounds stars) stars ⟨450, 450⟩ ⊆ {.north, .south} ∨
        sidesAt (plan bounds stars) stars ⟨450, 450⟩ ⊆ {.east, .west}) ∧
      (flags (plan bounds stars) 0).length = 3 ∧ (flags (plan bounds stars) 1).length = 0 := by
  intro bounds stars
  have hradius : IsWhole bounds.radius 50 := isWhole_of_units false 50 (by decide +kernel)
  have h450 : IsWhole 450.0 450 := isWhole_of_units false 450 (by decide +kernel)
  have hstars : ∀ star ∈ stars, ∃ g : GridPoint, star.IsAt g ∧ g.Within (2 ^ 24) := by
    intro star hstar
    obtain rfl : star = ⟨450.0, 450.0⟩ := by simpa [stars] using hstar
    exact ⟨⟨450, 450⟩, ⟨h450, h450⟩, by decide, by decide⟩
  have hsides := sidesAt_plan_opposite hradius (by decide) (by decide) hstars
  exact ⟨hsides.1 ⟨450, 450⟩, by decide +kernel, by decide +kernel⟩

end SpawnZone
end GalaxyScenario
