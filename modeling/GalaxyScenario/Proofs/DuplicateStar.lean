import GalaxyScenario.Proofs.FavouredHomes
import GalaxyScenario.Proofs.TwinStars

/-! One more star where there is one already. It gets no id, no zone and no system, and it blocks no
zone that its twin does not block. So nothing but the size tier, which is taken from the number of
stars as painted, depends on it. -/
namespace GalaxyScenario

section

variable {stars : List Point} {p : Point}

/-- A twin at the end of the list changes no zone. -/
theorem SpawnZone.plan_append_twin {bounds : SpawnBounds} (hbounds : bounds.Regular)
    (htwin : ∃ star ∈ stars, star.key = p.key) :
    plan bounds (stars ++ [p]) = plan bounds stars := by
  have hplan := isPlan_plan bounds stars
  obtain ⟨t, ht, hkey⟩ := htwin
  obtain ⟨k, hk⟩ := List.mem_iff_getElem?.mp ht
  have hklt : k < stars.length := (List.getElem?_eq_some_iff.mp hk).1
  have hsub : stars ⊆ stars ++ [p] := List.subset_append_left stars [p]
  refine (IsPlan.eq_plan ⟨hplan.ordered, ?_, ?_⟩).symm
  · intro z hz
    obtain ⟨star, hstar, horigin⟩ := hplan.placed z hz
    have hlt := (List.getElem?_eq_some_iff.mp hstar).1
    exact ⟨star, (List.getElem?_append_left hlt).trans hstar, horigin⟩
  · intro i star d hstar
    rcases Nat.lt_or_ge i stars.length with hlt | hge
    · rw [List.getElem?_append_left hlt] at hstar
      rw [hplan.accepted_iff i star d hstar]
      constructor
      · rintro ⟨hfits, hclear, hapart⟩
        refine ⟨hfits, fun s hs => ?_, hapart⟩
        rcases List.mem_append.mp hs with hs | hs
        · exact hclear s hs
        · obtain rfl := List.mem_singleton.mp hs
          rw [Point.distanceSquared_congr (Point.key_eq_key_iff.mp hkey.symm)]
          exact hclear t ht
      · rintro ⟨hfits, hclear, hapart⟩
        exact ⟨hfits, fun s hs => hclear s (hsub hs), hapart⟩
    · obtain rfl : star = p := by
        rw [List.getElem?_append_right hge] at hstar
        exact (List.mem_singleton.mp (List.mem_of_getElem? hstar))
      refine iff_of_false ?_ (not_acceptable_of_twin hbounds hplan hk (by omega) hkey hsub)
      intro hmem
      obtain ⟨star', hstar', -⟩ := hplan.placed _ hmem
      have := (List.getElem?_eq_some_iff.mp hstar').1
      dsimp only at this
      omega

/-- A twin at the end of the list changes no id. -/
theorem StarIndex.idOfKey?_append_twin (htwin : ∃ star ∈ stars, star.key = p.key) (key : String) :
    (ofStars (stars ++ [p])).idOfKey? key = (ofStars stars).idOfKey? key := by
  rw [ofStars, ofStars, idOfKey?_ofKeys, idOfKey?_ofKeys, List.map_append]
  unfold List.idxOf?
  rw [List.findIdx?_append]
  by_cases hkey : p.key = key
  · obtain ⟨t, ht, htkey⟩ := htwin
    have hsome : (List.findIdx? (· == key) (stars.map Point.key)).isSome := by
      rw [List.findIdx?_isSome, List.any_eq_true]
      exact ⟨t.key, List.mem_map_of_mem ht, beq_iff_eq.mpr (htkey.trans hkey)⟩
    exact Option.or_of_isSome hsome
  · have hnone : List.findIdx? (· == key) (List.map Point.key [p]) = none := by
      simp [hkey]
    rw [hnone, Option.map_none, Option.or_none]

theorem StarRoll.firsts_append_twin (htwin : ∃ star ∈ stars, star.key = p.key) :
    (ofStars (stars ++ [p])).firsts = (ofStars stars).firsts := by
  have hfirst : ∀ star, (ofStars (stars ++ [p])).isFirst star = (ofStars stars).isFirst star := by
    intro star
    rw [isFirst, isFirst, ids_ofStars, ids_ofStars, StarIndex.idOfKey?_append_twin htwin]
  have hstars : (ofStars (stars ++ [p])).stars =
      (ofStars stars).stars ++ [⟨stars.length, p, p.key⟩] := by
    simp [ofStars, List.zipIdx_append]
  have hlast : (ofStars stars).isFirst ⟨stars.length, p, p.key⟩ = false := by
    rw [isFirst, ids_ofStars, beq_eq_false_iff_ne]
    intro hid
    obtain ⟨star, hstar, -⟩ := mem_placesOf.mp (StarIndex.idOfKey?_ofStars_eq_some.mp hid).1
    exact absurd (List.getElem?_eq_some_iff.mp hstar).1 (lt_irrefl stars.length)
  rw [firsts, hstars, List.filter_append, List.filter_congr fun star _ => hfirst star, firsts]
  simp [hfirst, hlast]

end

/-- The settings of the tier stand in one place of a script. -/
theorem Scenario.exists_script_eq (s : Scenario) : ∃ before after : String,
    ∀ t : TierSettings, { s with tier := t }.script = before ++ Script.tier t ++ after := by
  let gap := "\n\n"
  refine ⟨
    gap.intercalate [Script.opening, Script.header s.config, Script.capacity s.capacity] ++ gap,
    gap ++ gap.intercalate
      [Script.joinLines (s.systems.map (Script.system s.config.leaderAgeVariable)),
        Script.joinLines (s.hyperlanes.map Script.hyperlane), Script.closing], fun t => ?_⟩
  simp [script, sections, gap, String.append_assoc]

namespace GalaxyMap

variable {m : GalaxyMap} {config : Config} {p : Point}

theorem spawnZones_addStar (h : (spawnBounds config).Regular)
    (htwin : ∃ star ∈ m.stars, star.key = p.key) :
    (m.addStar p).spawnZones config = m.spawnZones config :=
  SpawnZone.plan_append_twin h htwin

theorem resolve_addStar (htwin : ∃ star ∈ m.stars, star.key = p.key) :
    resolve (m.addStar p).roll.ids = resolve m.roll.ids := by
  have hid : ∀ q : Point, (m.addStar p).roll.ids.id? q = m.roll.ids.id? q := by
    intro q
    rw [roll, roll, StarRoll.ids_ofStars, StarRoll.ids_ofStars]
    exact StarIndex.idOfKey?_append_twin htwin q.key
  funext link
  rw [resolve, resolve, hid, hid]

/-- With painted home systems, the selection does not depend on the stars. -/
theorem homeSelection_addStar
    (hpainted : ¬ (config.fallbackHomes = true ∧ m.potentialHomes.isEmpty = true)) :
    (m.addStar p).homeSelection config = m.homeSelection config := by
  rw [homeSelection_of_painted hpainted, homeSelection_of_painted (m := m.addStar p) hpainted]
  rfl

theorem empireCapacity_addStar
    (hpainted : ¬ (config.fallbackHomes = true ∧ m.potentialHomes.isEmpty = true)) :
    (m.addStar p).empireCapacity config = m.empireCapacity config := by
  rw [empireCapacity, empireCapacity, homeSelection_addStar hpainted,
    homeSelection_of_painted hpainted]
  rfl

theorem system_addStar
    (hpainted : ¬ (config.fallbackHomes = true ∧ m.potentialHomes.isEmpty = true)) :
    (m.addStar p).system config = m.system config := by
  funext zones ends star
  rw [system, system, homeSelection_addStar hpainted]
  rfl

/-- Painting a star once more changes nothing in the scenario or its counts but the size tier, and
nothing in the script but the place where the settings of the tier stand. -/
theorem compile_addStar_twin (hbounds : (spawnBounds config).Regular)
    (hpainted : ¬ (config.fallbackHomes = true ∧ m.potentialHomes.isEmpty = true))
    (htwin : ∃ star ∈ m.stars, star.key = p.key) :
    ((m.addStar p).compile config).scenario =
        { (m.compile config).scenario with tier := (m.addStar p).sizeTier.settings } ∧
      ((m.addStar p).compile config).stats =
        { (m.compile config).stats with tier := (m.addStar p).sizeTier } ∧
      ∃ before after, (m.compile config).script =
          before ++ Script.tier m.sizeTier.settings ++ after ∧
        ((m.addStar p).compile config).script =
          before ++ Script.tier (m.addStar p).sizeTier.settings ++ after := by
  have hfirsts : (m.addStar p).roll.firsts = m.roll.firsts := StarRoll.firsts_append_twin htwin
  have hscenario : ((m.addStar p).compile config).scenario =
      { (m.compile config).scenario with tier := (m.addStar p).sizeTier.settings } := by
    simp only [compile, hfirsts, spawnZones_addStar hbounds htwin, resolve_addStar htwin,
      empireCapacity_addStar hpainted, system_addStar hpainted]
    rfl
  have hstats : ((m.addStar p).compile config).stats =
      { (m.compile config).stats with tier := (m.addStar p).sizeTier } := by
    simp only [compile, hfirsts, spawnZones_addStar hbounds htwin, resolve_addStar htwin,
      empireCapacity_addStar hpainted, system_addStar hpainted]
    rfl
  obtain ⟨before, after, hscript⟩ := (m.compile config).scenario.exists_script_eq
  refine ⟨hscenario, hstats, before, after, hscript m.sizeTier.settings, ?_⟩
  rw [Compilation.script, hscenario]
  exact hscript _

/-- A star on the edge painted once more with the other zero: both have the same key, and the map
keeps its only zone. -/
theorem compile_addStar_otherZero :
    (spawnBounds {}).Regular ∧
      ¬ (({} : Config).fallbackHomes = true ∧
        (ofStars [⟨0.0, 450.0⟩]).potentialHomes.isEmpty = true) ∧
      (∃ star ∈ (ofStars [⟨0.0, 450.0⟩]).stars, star.key = Point.key ⟨-0.0, 450.0⟩) ∧
      (((ofStars [⟨0.0, 450.0⟩]).addStar ⟨-0.0, 450.0⟩).compile {}).stats.spawnZones = 1 := by
  have hregular : (spawnBounds {}).Regular :=
    ⟨by decide +kernel, by decide +kernel, by decide +kernel, by decide +kernel⟩
  have hfallback : ¬ ({} : Config).fallbackHomes = true := by decide
  have hkey : Point.key ⟨0.0, 450.0⟩ = Point.key ⟨-0.0, 450.0⟩ := by
    have hzero : Binary64.unsignedZero 0.0 = Binary64.unsignedZero (-0.0) := by decide +kernel
    rw [Point.key_eq_key_iff, Point.unsignedZeros, Point.unsignedZeros, hzero]
  have hzones : (SpawnZone.plan (spawnBounds {}) [⟨0.0, 450.0⟩]).length = 1 := by decide +kernel
  have hcount : ∀ m : GalaxyMap, m.stars = [⟨0.0, 450.0⟩] →
      ((m.addStar ⟨-0.0, 450.0⟩).compile {}).stats.spawnZones = 1 := by
    intro m hm
    have htwin : ∃ star ∈ m.stars, star.key = Point.key ⟨-0.0, 450.0⟩ := by
      rw [hm]
      exact ⟨_, List.mem_singleton_self _, hkey⟩
    have hpainted : ¬ (({} : Config).fallbackHomes = true ∧ m.potentialHomes.isEmpty = true) :=
      fun h => hfallback h.1
    rw [(compile_addStar_twin hregular hpainted htwin).2.1]
    change (SpawnZone.plan (spawnBounds {}) m.stars).length = 1
    rw [hm, hzones]
  exact ⟨hregular, fun h => hfallback h.1, ⟨_, List.mem_singleton_self _, hkey⟩, hcount _ rfl⟩

end GalaxyMap
end GalaxyScenario
