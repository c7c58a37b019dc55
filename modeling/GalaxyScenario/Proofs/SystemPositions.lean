import GalaxyScenario.Proofs.Decimal.Halves
import GalaxyScenario.Proofs.GridSearch
import GalaxyScenario.Proofs.References

/-! Where systems stand in the galaxy when the stars and the canvas have whole coordinates. The
middle of the canvas is then half of a whole number in both coordinates, and so is every position as
seen from there. Up to `2 ^ 50` no step towards a position is rounded, so its text is the exact
decimal, and stars that do not share a key are written to stand at different places. -/
namespace GalaxyScenario
open Binary64

namespace Point

variable {p q : Point} {g : GridPoint} {w h : Float} {width height : Int}

/-- No step is rounded on the way to the position in the galaxy. -/
theorem IsAt.inGalaxy (hp : p.IsAt g) (hg : g.Within (2 ^ 50)) (hw : IsWhole w width)
    (hh : IsWhole h height) (hwidth : width.natAbs ≤ 2 ^ 50) (hheight : height.natAbs ≤ 2 ^ 50) :
    IsRational (p.inGalaxy w h).x (width / 2 - g.x) ∧
      IsRational (p.inGalaxy w h).y (g.y - height / 2) := by
  obtain ⟨hx, hy⟩ := hp
  obtain ⟨hgx, hgy⟩ := hg
  have hhalf : ∀ a b : Int, (a - b / 2 : ℚ) = (2 * a - b : Int) / 2 := by
    intro a b
    push_cast
    ring
  have hdx := (isRational_intCast.mpr hx).sub (hw.half (by omega))
    (by rw [hhalf]; exact representable_half (by omega))
  have hdy := (isRational_intCast.mpr hy).sub (hh.half (by omega))
    (by rw [hhalf]; exact representable_half (by omega))
  refine ⟨?_, hdy⟩
  rw [← neg_sub]
  exact hdx.neg

theorem IsAt.key_eq (hp : p.IsAt g) (hq : q.IsAt g) : p.key = q.key := by
  rw [key_eq_key_iff, unsignedZeros, unsignedZeros,
    unsignedZero_eq_of_isRational (isRational_intCast.mpr hp.1) (isRational_intCast.mpr hq.1),
    unsignedZero_eq_of_isRational (isRational_intCast.mpr hp.2) (isRational_intCast.mpr hq.2)]

end Point

theorem Script.exists_system_eq (v : String) (s : StarSystem) : ∃ rest, system v s =
    "\tsystem = \x7b id = \"" ++ toString s.id ++ "\" position = \x7b x = " ++
      coordinateText s.position.x ++ " y = " ++ coordinateText s.position.y ++ " \x7d" ++ rest := by
  refine ⟨" " ++ initializer s.directive ++ " " ++ spawnWeight v s.directive ++ " " ++
    effect s.flags ++ " \x7d", ?_⟩
  rw [system, braced, braced, ← String.toList_inj]
  simp

/-- The system stands at a whole position of the canvas as seen from its middle, with the first axis
turned round, and its line says so with exact decimals. -/
structure StarSystem.Mirrors (s : StarSystem) (g : GridPoint) (width height : Int) : Prop where
  x : IsRational s.position.x (width / 2 - g.x)
  y : IsRational s.position.y (g.y - height / 2)
  xText : coordinateText s.position.x = Decimal.halfText (width - 2 * g.x)
  yText : coordinateText s.position.y = Decimal.halfText (2 * g.y - height)
  unsigned : coordinateText s.position.x ≠ "-0" ∧ coordinateText s.position.y ≠ "-0"
  line : ∀ v, ∃ rest, Script.system v s =
    "\tsystem = \x7b id = \"" ++ toString s.id ++ "\" position = \x7b x = " ++
      Decimal.halfText (width - 2 * g.x) ++ " y = " ++ Decimal.halfText (2 * g.y - height) ++
      " \x7d" ++ rest

namespace GalaxyMap

variable {m : GalaxyMap} {config : Config} {width height : Int}

/-- A system stands where its star does, as seen from the middle of the canvas. -/
theorem exists_star_of_mem_systems {s : StarSystem} (h : s ∈ (m.compile config).scenario.systems) :
    ∃ star, m.stars[s.id]? = some star ∧
      s.position = star.inGalaxy config.width config.height := by
  obtain ⟨first, hfirst, rfl⟩ := mem_compile_systems.mp h
  exact ⟨first.position, (StarRoll.mem_firsts_ofStars.mp hfirst).1, rfl⟩

theorem eq_of_star_key_eq {s t : StarSystem} {p q : Point}
    (hs : s ∈ (m.compile config).scenario.systems) (ht : t ∈ (m.compile config).scenario.systems)
    (hp : m.stars[s.id]? = some p) (hq : m.stars[t.id]? = some q) (h : p.key = q.key) : s = t := by
  refine (existsUnique_owner (List.mem_of_getElem? hq) config).unique ⟨hs, ?_⟩ ⟨ht, ?_⟩
  · rw [ownedKey?, hp, Option.map_some, h]
  · rw [ownedKey?, hq, Option.map_some]

theorem mirrors_of_isAt {s : StarSystem} {star : Point} {g : GridPoint}
    (hwidth : IsWhole config.width width) (hheight : IsWhole config.height height)
    (hw : width.natAbs ≤ 2 ^ 50) (hh : height.natAbs ≤ 2 ^ 50)
    (hstar : star.IsAt g) (hg : g.Within (2 ^ 50))
    (h : s.position = star.inGalaxy config.width config.height) : s.Mirrors g width height := by
  obtain ⟨hx, hy⟩ := hstar.inGalaxy hg hwidth hheight hw hh
  rw [← h] at hx hy
  obtain ⟨hgx, hgy⟩ := hg
  have hxText : coordinateText s.position.x = Decimal.halfText (width - 2 * g.x) :=
    coordinateText_half hx (by push_cast; ring) (by omega)
  have hyText : coordinateText s.position.y = Decimal.halfText (2 * g.y - height) :=
    coordinateText_half hy (by push_cast; ring) (by omega)
  refine ⟨hx, hy, hxText, hyText, ⟨coordinateText_ne_neg_zero _, coordinateText_ne_neg_zero _⟩,
    fun v => ?_⟩
  rw [← hxText, ← hyText]
  exact Script.exists_system_eq v s

/-- On a map of whole coordinates no larger than `2 ^ 50`, each system has the exact position of its
star as seen from the middle of the canvas, and its text is the decimal of this position. No two
systems are written to stand at the same place. -/
theorem compile_positions_exact (hwidth : IsWhole config.width width)
    (hheight : IsWhole config.height height) (hw : width.natAbs ≤ 2 ^ 50)
    (hh : height.natAbs ≤ 2 ^ 50)
    (hstars : ∀ star ∈ m.stars, ∃ g : GridPoint, star.IsAt g ∧ g.Within (2 ^ 50)) :
    (∀ s ∈ (m.compile config).scenario.systems, ∃ star g, m.stars[s.id]? = some star ∧
      star.IsAt g ∧ s.Mirrors g width height) ∧
      ((m.compile config).scenario.systems.map fun s =>
        (coordinateText s.position.x, coordinateText s.position.y)).Nodup := by
  have hmirrors : ∀ s ∈ (m.compile config).scenario.systems, ∃ star g,
      m.stars[s.id]? = some star ∧ star.IsAt g ∧ s.Mirrors g width height := by
    intro s hs
    obtain ⟨star, hstar, hposition⟩ := exists_star_of_mem_systems hs
    obtain ⟨g, hat, hg⟩ := hstars star (List.mem_of_getElem? hstar)
    exact ⟨star, g, hstar, hat, mirrors_of_isAt hwidth hheight hw hh hat hg hposition⟩
  refine ⟨hmirrors, ?_⟩
  rw [List.Nodup, List.pairwise_map]
  refine (compile_systems_pairwise_id m config).imp_of_mem fun {s t} hs ht hlt htexts => ?_
  obtain ⟨hx, hy⟩ := Prod.mk.inj htexts
  obtain ⟨p, g, hp, hat, hsm⟩ := hmirrors s hs
  obtain ⟨q, g', hq, hat', htm⟩ := hmirrors t ht
  have hgx : g.x = g'.x := by
    have hnumbers := eq_of_coordinateText_eq hsm.x htm.x hx
    exact_mod_cast sub_right_injective hnumbers
  have hgy : g.y = g'.y := by
    have hnumbers := eq_of_coordinateText_eq hsm.y htm.y hy
    exact_mod_cast sub_left_injective hnumbers
  have hg : g = g' := by
    cases g
    cases g'
    exact congrArg₂ GridPoint.mk hgx hgy
  rw [eq_of_star_key_eq hs ht hp hq (hat.key_eq (hg ▸ hat'))] at hlt
  exact absurd hlt (lt_irrefl _)

/-- In the middle of a canvas of even width and odd height a star stands at zero, without a sign,
and half a unit beside zero; a second star there has no system to collide with. -/
theorem compile_positions_exact_middle :
    let m := ofStars [⟨500.0, 500.0⟩, ⟨-0.0, 3.0⟩, ⟨500.0, 500.0⟩]
    let config : Config := { width := 1000.0, height := 1001.0 }
    IsWhole config.width 1000 ∧ IsWhole config.height 1001 ∧
      (∀ star ∈ m.stars, ∃ g : GridPoint, star.IsAt g ∧ g.Within (2 ^ 50)) ∧
      (∃ s ∈ (m.compile config).scenario.systems, s.id = 0 ∧
        coordinateText s.position.x = "0" ∧ coordinateText s.position.y = "-0.5") ∧
      ((m.compile config).scenario.systems.map fun s =>
        (coordinateText s.position.x, coordinateText s.position.y)).Nodup := by
  intro m config
  have hwidth : IsWhole config.width 1000 := isWhole_of_units false 1000 (by decide +kernel)
  have hheight : IsWhole config.height 1001 := isWhole_of_units false 1001 (by decide +kernel)
  have h500 : IsWhole 500.0 500 := isWhole_of_units false 500 (by decide +kernel)
  have h3 : IsWhole 3.0 3 := isWhole_of_units false 3 (by decide +kernel)
  have hzero : IsWhole (-0.0) 0 := isWhole_of_units true 0 (by decide +kernel)
  have hmiddle : Point.IsAt ⟨500.0, 500.0⟩ ⟨500, 500⟩ ∧ GridPoint.Within (2 ^ 50) ⟨500, 500⟩ :=
    ⟨⟨h500, h500⟩, by decide, by decide⟩
  have hedge : Point.IsAt ⟨-0.0, 3.0⟩ ⟨0, 3⟩ ∧ GridPoint.Within (2 ^ 50) ⟨0, 3⟩ :=
    ⟨⟨hzero, h3⟩, by decide, by decide⟩
  have hstars : ∀ star ∈ m.stars, ∃ g : GridPoint, star.IsAt g ∧ g.Within (2 ^ 50) := by
    simp only [m, ofStars, List.forall_mem_cons, List.not_mem_nil, false_implies, implies_true,
      and_true]
    exact ⟨⟨_, hmiddle⟩, ⟨_, hedge⟩, ⟨_, hmiddle⟩⟩
  obtain ⟨hmirrors, hdistinct⟩ :=
    compile_positions_exact hwidth hheight (by decide) (by decide) hstars
  refine ⟨hwidth, hheight, hstars, ?_, hdistinct⟩
  have hfirst : (⟨0, ⟨500.0, 500.0⟩, Point.key ⟨500.0, 500.0⟩⟩ : ListedStar) ∈ m.roll.firsts :=
    StarRoll.mem_firsts_ofStars.mpr ⟨rfl, rfl, rfl, fun _ _ => Nat.zero_le _⟩
  have hs : m.system config (m.spawnZones config) (Wormhole.endKeys m.wormholes) _ ∈
      (m.compile config).scenario.systems := mem_compile_systems.mpr ⟨_, hfirst, rfl⟩
  obtain ⟨star, g, hstar, hat, hsm⟩ := hmirrors _ hs
  obtain rfl : ⟨500.0, 500.0⟩ = star := Option.some.inj hstar
  obtain rfl : g = ⟨500, 500⟩ := hat.eq hmiddle.1
  refine ⟨_, hs, rfl, ?_, ?_⟩
  · rw [hsm.xText]
    decide
  · rw [hsm.yText]
    decide

end GalaxyMap
end GalaxyScenario
