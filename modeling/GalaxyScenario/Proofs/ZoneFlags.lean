import GalaxyScenario.Proofs.References
import GalaxyScenario.Proofs.TwinStars

/-! The flags of the zones in a compiled map. The search runs over all stars, but flags are put on
the first star of each key only. Since every zone lies beside such a star, each one is flagged once,
and the flag of an owner is on those systems that own a zone. -/
namespace GalaxyScenario

namespace SpawnZone

/-- Whether a flag tells the side of its star on which a zone lies. -/
def isDirectional (flag : String) : Bool := Direction.all.any fun d => directionFlag d == flag

theorem isDirectional_iff {flag : String} :
    isDirectional flag = true ↔ ∃ d, directionFlag d = flag := by
  simp [isDirectional, Direction.mem_all]

theorem isDirectional_ownerFlag : isDirectional ownerFlag = false := by
  rw [isDirectional, List.any_eq_false]
  intro d _ h
  have hlist := congrArg String.toList (eq_of_beq h)
  cases d <;> simp [directionFlag, Direction.name] at hlist

/-- The letter that tells the flags of zones from those of wormholes. -/
def kindLetter (flag : String) : Option Char := flag.toList[15]?

theorem kindLetter_ownerFlag : kindLetter ownerFlag = some 'f' := by
  simp [kindLetter, ownerFlag]

theorem kindLetter_directionFlag (d : Direction) : kindLetter (directionFlag d) = some 'f' := by
  cases d <;> simp [kindLetter, directionFlag, ownerFlag, Direction.name]

theorem kindLetter_wormhole (pair : Nat) : kindLetter (Wormhole.flag pair) = some 'w' := by
  have hletter : "painted_galaxy_wormhole_".toList[15]? = some 'w' := by simp
  have hlength : 15 < "painted_galaxy_wormhole_".toList.length := by simp
  have hflag : (Wormhole.flag pair).toList =
      "painted_galaxy_wormhole_".toList ++ (toString pair).toList := String.toList_append
  simp only [kindLetter, hflag, List.getElem?_append_left hlength, hletter]

theorem ownerFlag_ne_wormhole (pair : Nat) : Wormhole.flag pair ≠ ownerFlag := by
  intro h
  have hletter := kindLetter_wormhole pair
  rw [h, kindLetter_ownerFlag] at hletter
  cases hletter

theorem isDirectional_wormhole (pair : Nat) : isDirectional (Wormhole.flag pair) = false := by
  rw [Bool.eq_false_iff]
  intro h
  obtain ⟨d, hd⟩ := isDirectional_iff.mp h
  have hletter := kindLetter_wormhole pair
  rw [← hd, kindLetter_directionFlag] at hletter
  cases hletter

variable {zones : List SpawnZone} {index : Nat}

theorem flags_eq_nil_or_cons (zones : List SpawnZone) (index : Nat) :
    (∀ z ∈ zones, z.star ≠ index) ∧ flags zones index = [] ∨
      (∃ z ∈ zones, z.star = index) ∧ flags zones index = ownerFlag ::
        (zones.filter (·.star == index)).map fun z => directionFlag z.direction := by
  unfold flags
  split
  · rename_i hnone
    left
    simpa [List.filter_eq_nil_iff] using hnone
  · rename_i hsome
    right
    obtain ⟨z, hz⟩ := List.exists_mem_of_ne_nil _ hsome
    obtain ⟨hz, hstar⟩ := List.mem_filter.mp hz
    exact ⟨⟨z, hz, by simpa using hstar⟩, rfl⟩

theorem kindLetter_of_mem_flags {flag : String} (h : flag ∈ flags zones index) :
    kindLetter flag = some 'f' := by
  rcases flags_eq_nil_or_cons zones index with ⟨-, hflags⟩ | ⟨-, hflags⟩
  · simp [hflags] at h
  · rw [hflags, List.mem_cons, List.mem_map] at h
    rcases h with rfl | ⟨zone, -, rfl⟩
    · exact kindLetter_ownerFlag
    · exact kindLetter_directionFlag zone.direction

theorem ownerFlag_mem_flags : ownerFlag ∈ flags zones index ↔ ∃ z ∈ zones, z.star = index := by
  rcases flags_eq_nil_or_cons zones index with ⟨hnone, hflags⟩ | ⟨hsome, hflags⟩
  · rw [hflags]
    simpa using hnone
  · rw [hflags]
    simpa using hsome

/-- A star carries one flag with a side for each of its zones. -/
theorem countP_isDirectional_flags (zones : List SpawnZone) (index : Nat) :
    (flags zones index).countP isDirectional = zones.countP (·.star == index) := by
  rcases flags_eq_nil_or_cons zones index with ⟨hnone, hflags⟩ | ⟨-, hflags⟩
  · rw [hflags, List.countP_nil, eq_comm, List.countP_eq_zero]
    simpa using hnone
  · have hall : ∀ z : SpawnZone, isDirectional (directionFlag z.direction) = true :=
      fun z => isDirectional_iff.mpr ⟨z.direction, rfl⟩
    rw [hflags, List.countP_cons_of_neg (by simp [isDirectional_ownerFlag]), List.countP_map,
      List.countP_eq_length_filter (l := zones)]
    exact List.countP_eq_length.mpr fun z _ => hall z

/-- Stars that are listed once each, and that own all zones, own as many as there are. -/
theorem sum_countP_star {indices : List Nat} (hnodup : indices.Nodup)
    (hmem : ∀ z ∈ zones, z.star ∈ indices) :
    (indices.map fun index => zones.countP (·.star == index)).sum = zones.length := by
  have hcount : ∀ index, zones.countP (·.star == index) =
      Multiset.count index (zones.map SpawnZone.star : List Nat) := by
    intro index
    rw [Multiset.coe_count, List.count, List.countP_map]
    rfl
  have hcard := Multiset.sum_count_eq_card (s := indices.toFinset)
    (m := (zones.map SpawnZone.star : List Nat)) (by simpa using hmem)
  rw [List.sum_toFinset _ hnodup, Multiset.coe_card, List.length_map] at hcard
  simp only [hcount, hcard]

end SpawnZone

namespace GalaxyMap
open SpawnZone

theorem ownerFlag_mem_system (m : GalaxyMap) (config : Config) (zones : List SpawnZone)
    (ends : List ((String × String) × Nat)) (star : ListedStar) :
    ownerFlag ∈ (m.system config zones ends star).flags ↔ ∃ z ∈ zones, z.star = star.index := by
  have hno : ownerFlag ∉ Wormhole.flags ends star.key := by
    intro h
    obtain ⟨pair, -, hpair⟩ := List.mem_map.mp h
    exact ownerFlag_ne_wormhole pair hpair
  rw [system, List.mem_append, or_iff_left hno, ownerFlag_mem_flags]

theorem countP_isDirectional_system (m : GalaxyMap) (config : Config) (zones : List SpawnZone)
    (ends : List ((String × String) × Nat)) (star : ListedStar) :
    (m.system config zones ends star).flags.countP isDirectional =
      zones.countP (·.star == star.index) := by
  have hno : (Wormhole.flags ends star.key).countP isDirectional = 0 := by
    rw [List.countP_eq_zero]
    intro flag hflag
    obtain ⟨pair, -, rfl⟩ := List.mem_map.mp hflag
    rw [isDirectional_wormhole]
    exact Bool.false_ne_true
  rw [system, List.countP_append, hno, Nat.add_zero, countP_isDirectional_flags]

theorem compile_stats_spawnZones (m : GalaxyMap) (config : Config) :
    (m.compile config).stats.spawnZones = (m.spawnZones config).length := rfl

/-- Every zone found lies beside the first star of its key. So the systems carry as many flags with
a side as there are zones, and the flag of an owner is on those systems that own a zone. -/
theorem compile_zonesFlagged (m : GalaxyMap) (config : Config)
    (h : (spawnBounds config).Regular) :
    (∀ z ∈ m.spawnZones config, ∃ star, m.stars[z.star]? = some star ∧
        IsLeast (placesOf m.stars star.key) z.star) ∧
      ((m.compile config).scenario.systems.flatMap (·.flags)).countP isDirectional =
        (m.compile config).stats.spawnZones ∧
      ∀ s ∈ (m.compile config).scenario.systems,
        ownerFlag ∈ s.flags ↔ ∃ z ∈ m.spawnZones config, z.star = s.id := by
  have hleast : ∀ z ∈ m.spawnZones config, ∃ star, m.stars[z.star]? = some star ∧
      IsLeast (placesOf m.stars star.key) z.star :=
    fun z hz => (isPlan_plan (spawnBounds config) m.stars).isLeast_star h hz
  refine ⟨hleast, ?_, ?_⟩
  · have hfirst : ∀ z ∈ m.spawnZones config, z.star ∈ m.roll.firsts.map ListedStar.index := by
      intro z hz
      obtain ⟨star, hstar, hmin⟩ := hleast z hz
      exact List.mem_map.mpr
        ⟨⟨z.star, star, star.key⟩, StarRoll.mem_firsts_ofStars.mpr ⟨hstar, rfl, hmin⟩, rfl⟩
    have hnodup : (m.roll.firsts.map ListedStar.index).Nodup :=
      List.pairwise_map.mpr ((StarRoll.firsts_pairwise_index m.stars).imp Nat.ne_of_lt)
    have hsum := sum_countP_star hnodup hfirst
    rw [List.map_map] at hsum
    rw [List.countP_flatMap]
    rw [compile_stats_spawnZones, ← hsum]
    change ((m.roll.firsts.map _).map _).sum = _
    rw [List.map_map]
    refine congrArg List.sum (List.map_congr_left fun star _ => ?_)
    exact countP_isDirectional_system m config _ _ star
  · intro s hs
    obtain ⟨star, -, rfl⟩ := mem_compile_systems.mp hs
    exact ownerFlag_mem_system m config _ _ star

/-- A star painted twice gets two zones, and both are flagged. -/
theorem compile_zonesFlagged_paintedTwice :
    (spawnBounds {}).Regular ∧
      (((ofStars [⟨450.0, 450.0⟩, ⟨450.0, 450.0⟩]).compile {}).scenario.systems.flatMap
        (·.flags)).countP isDirectional = 2 := by
  have hregular : (spawnBounds {}).Regular :=
    ⟨by decide +kernel, by decide +kernel, by decide +kernel, by decide +kernel⟩
  have hzones : (SpawnZone.plan (spawnBounds {}) [⟨450.0, 450.0⟩, ⟨450.0, 450.0⟩]).length = 2 := by
    decide +kernel
  have hcount : ∀ m : GalaxyMap, m.stars = [⟨450.0, 450.0⟩, ⟨450.0, 450.0⟩] →
      ((m.compile {}).scenario.systems.flatMap (·.flags)).countP isDirectional = 2 := by
    intro m hm
    rw [(compile_zonesFlagged m {} hregular).2.1, compile_stats_spawnZones, spawnZones, hm, hzones]
  exact ⟨hregular, hcount _ rfl⟩

end GalaxyMap
end GalaxyScenario
