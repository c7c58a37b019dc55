import GalaxyScenario.Proofs.FavouredHomes
import GalaxyScenario.Proofs.FindingKinds
import GalaxyScenario.Proofs.StarIdentity

/-! The capacity for empires of a compiled map. It is taken from the painted keys, or from the
number of stars where the first ones stand in, and not from the systems. The two numbers agree on a
map whose home stars are all known and whose stars are all different. -/
namespace GalaxyScenario

/-- In a list without repetition that has all keys of a set, as many elements are in the set as it
has keys. -/
theorem countP_contains_eq_size {keys : KeySet} {l : List String} (hnodup : l.Nodup)
    (hmem : ∀ key ∈ keys, key ∈ l) : l.countP keys.contains = keys.size := by
  have hkeys : keys.toList.Nodup := keys.distinct_toList.imp fun hne heq => hne (by simp [heq])
  have hperm : (l.filter keys.contains).Perm keys.toList := by
    rw [List.perm_ext_iff_of_nodup (hnodup.filter _) hkeys]
    intro key
    simp only [List.mem_filter, Std.ExtTreeSet.mem_toList, ← Std.ExtTreeSet.mem_iff_contains]
    exact ⟨fun h => h.2, fun h => ⟨hmem key h, h⟩⟩
  rw [List.countP_eq_length_filter, hperm.length_eq, Std.ExtTreeSet.length_toList]

theorem countP_lt_range (count n : Nat) :
    (List.range n).countP (fun i => decide (i < count)) = min count n := by
  induction n with
  | zero => simp
  | succ n ih =>
    rw [List.range_succ, List.countP_append, ih]
    by_cases h : n < count <;> simp [h] <;> omega

namespace GalaxyMap

variable {m : GalaxyMap} {config : Config}

/-- Without a duplicate star, every star is the first at its position. -/
theorem firsts_of_duplicateStars (h : m.duplicateStars = []) : m.roll.firsts = m.roll.stars := by
  refine List.filter_eq_self.mpr fun star hstar => ?_
  have hnone := List.filterMap_eq_nil_iff.mp h star hstar
  obtain ⟨hplace, hkey⟩ := StarRoll.mem_stars_ofStars.mp hstar
  rw [StarRoll.isFirst, beq_iff_eq]
  cases hid : m.roll.ids.idOfKey? star.key with
  | none =>
    rw [roll, StarRoll.ids_ofStars, StarIndex.idOfKey?_ofStars_eq_none] at hid
    exact absurd hkey.symm (hid star.position (List.mem_of_getElem? hplace))
  | some first =>
    change (StarRoll.ofStars m.stars).ids.idOfKey? star.key = some first at hid
    simpa [hid] using hnone

/-- Without an unknown home star, every painted key is the key of a star. -/
theorem exists_star_of_unknownHomes (h : m.unknownHomes = []) {key : String}
    (hkey : key ∈ m.potentialHomes) : ∃ star ∈ m.stars, star.key = key := by
  rw [unknownHomes, List.map_eq_nil_iff, List.filter_eq_nil_iff] at h
  have hknown := h key (by simp [hkey])
  simpa [starKeys, ← Std.ExtTreeSet.mem_iff_contains] using hknown

theorem homeSystems_eq (m : GalaxyMap) (config : Config) :
    (m.compile config).stats.homeSystems =
      m.roll.firsts.countP fun star => (m.homeSelection config).selects star.index star.key := by
  change (m.roll.firsts.map _).countP _ = _
  rw [List.countP_map]
  exact List.countP_congr fun star _ => by
    simp [system, directive, StarSystem.isHome, SpawnDirective.isSome_plan]

theorem countP_leading_stars (stars : List Point) (count : Nat) :
    ((StarRoll.ofStars stars).stars.countP fun star => decide (star.index < count)) =
      min count stars.length := by
  rw [← countP_lt_range, ← StarRoll.map_index_stars_ofStars, List.countP_map]
  rfl

/-- The home stars counted for the capacity are the systems in which an empire may start. -/
theorem compile_capacity_of_homeSystems
    (hduplicate : ∀ f ∈ m.findings config, f.category ≠ "duplicate_star")
    (hunknown : ∀ f ∈ m.findings config, f.category ≠ "unknown_home_star") :
    (m.homeSelection config).count m.stars.length =
        ((m.compile config).scenario.systems.filter (·.directive.isSome)).length ∧
      (m.compile config).stats.capacity =
        .ofHomeStars (m.compile config).stats.homeSystems := by
  rw [← Finding.ofCategory_eq_nil_iff, ofCategory_duplicate_star] at hduplicate
  rw [← Finding.ofCategory_eq_nil_iff, ofCategory_unknown_home_star] at hunknown
  have hcount : (m.homeSelection config).count m.stars.length =
      (m.compile config).stats.homeSystems := by
    rw [homeSystems_eq]
    by_cases hmode : config.fallbackHomes = true ∧ m.potentialHomes.isEmpty = true
    · rw [homeSelection_of_standIn hmode.1 hmode.2, firsts_of_duplicateStars hduplicate]
      exact (countP_leading_stars m.stars _).symm
    · rw [homeSelection_of_painted hmode]
      have hmem : ∀ key ∈ m.potentialHomes, key ∈ m.roll.firsts.map (·.key) := fun key hkey =>
        StarRoll.mem_map_key_firsts.mpr (exists_star_of_unknownHomes hunknown hkey)
      have hsize := countP_contains_eq_size (StarRoll.nodup_map_key_firsts m.stars) hmem
      rw [List.countP_map] at hsize
      exact hsize.symm
  refine ⟨?_, ?_⟩
  · rw [hcount, ← List.countP_eq_length_filter]
    rfl
  · rw [← hcount]
    rfl

/-- Of two stars one is painted as a start, and the capacity is that of one home star. -/
theorem compile_capacity_oneOfTwo :
    (∀ f ∈ ((ofStars [⟨100.0, 100.0⟩, ⟨800.0, 250.5⟩]).addPotentialHome ⟨100.0, 100.0⟩).findings {},
        f.category ≠ "duplicate_star" ∧ f.category ≠ "unknown_home_star") ∧
      (((ofStars [⟨100.0, 100.0⟩, ⟨800.0, 250.5⟩]).addPotentialHome ⟨100.0, 100.0⟩).compile
        {}).stats.capacity = .ofHomeStars 1 := by
  have hkeys : Point.key ⟨100.0, 100.0⟩ ≠ Point.key ⟨800.0, 250.5⟩ := by
    intro h
    rcases (Binary64.key_eq_key_iff_sameNumber.mp h).1 with hequal | ⟨hnan, -⟩
    · exact absurd hequal (by decide +kernel)
    · exact absurd hnan (by decide +kernel)
  generalize hm : (ofStars [⟨100.0, 100.0⟩, ⟨800.0, 250.5⟩]).addPotentialHome ⟨100.0, 100.0⟩ = m
  have hduplicate : m.duplicateStars = [] := by
    simp [← hm, duplicateStars, addPotentialHome, ofStars, StarRoll.ofStars,
      StarIndex.idOfKey?_ofKeys, List.idxOf?_cons, hkeys]
  have hunknown : m.unknownHomes = [] := by
    simp [← hm, unknownHomes, addPotentialHome, ofStars, starKeys]
  have hsize : (m.homeSelection {}).count m.stars.length = 1 := by
    simp [← hm, homeSelection, HomeSelection.ofMap, HomeSelection.count, addPotentialHome, ofStars,
      Std.ExtTreeSet.size_insert]
  rw [← ofCategory_duplicate_star m {}, Finding.ofCategory_eq_nil_iff] at hduplicate
  rw [← ofCategory_unknown_home_star m {}, Finding.ofCategory_eq_nil_iff] at hunknown
  refine ⟨fun f hf => ⟨hduplicate f hf, hunknown f hf⟩, ?_⟩
  have hcapacity := compile_capacity_of_homeSystems hduplicate hunknown
  rw [hcapacity.2, ← hsize, hcapacity.1, ← List.countP_eq_length_filter]
  rfl

end GalaxyMap
end GalaxyScenario
