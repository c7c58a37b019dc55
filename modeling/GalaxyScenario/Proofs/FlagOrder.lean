import GalaxyScenario.Proofs.WormholeEnds

/-! The order of the flags of a system. Nothing looks for repeated flags: there are none because the
search considers each side of a star once and in order, a pair gives a star one flag even if both
its ends are there, and flags of different kinds differ in a letter. -/
namespace GalaxyScenario

/-- Flags in the order in which a system has them: for zones on some sides, from north round to
west, that of an owner and one for each side; then those of wormholes with increasing indices. -/
structure FlagsInOrder (flags : List String) (sides : List Direction) (pairs : List Nat) :
    Prop where
  eq_append : flags = (if sides = [] then [] else "painted_galaxy_fe_spawn" ::
      sides.map fun side => "painted_galaxy_fe_spawn_" ++ side.name) ++
    pairs.map fun pair => "painted_galaxy_wormhole_" ++ toString pair
  sides_increasing : sides.Pairwise (·.rank < ·.rank)
  pairs_increasing : pairs.Pairwise (· < ·)
  nodup : flags.Nodup

namespace SpawnZone

theorem directionFlag_injective : Function.Injective directionFlag := by
  intro d e h
  have hname : d.name = e.name := (String.append_right_inj _).mp h
  cases d <;> cases e <;> simp [Direction.name] at hname ⊢

/-- The sides on which a star has zones, in the order of the zones. -/
def sidesOf (zones : List SpawnZone) (index : Nat) : List Direction :=
  (zones.filter (·.star == index)).map direction

variable {zones : List SpawnZone} {index : Nat}

theorem mem_sidesOf {d : Direction} :
    d ∈ sidesOf zones index ↔ ∃ z ∈ zones, z.star = index ∧ z.direction = d := by
  simp [sidesOf, and_assoc]

theorem sidesOf_increasing (h : zones.Pairwise Precedes) :
    (sidesOf zones index).Pairwise (·.rank < ·.rank) := by
  rw [sidesOf, List.pairwise_map]
  refine (h.filter _).imp_of_mem fun {a b} ha hb hprecedes => ?_
  have ha : a.star = index := eq_of_beq (List.mem_filter.mp ha).2
  have hb : b.star = index := eq_of_beq (List.mem_filter.mp hb).2
  unfold Precedes at hprecedes
  omega

theorem flags_eq_ite (zones : List SpawnZone) (index : Nat) : flags zones index =
    if sidesOf zones index = [] then []
    else ownerFlag :: (sidesOf zones index).map directionFlag := by
  unfold flags sidesOf
  cases zones.filter (·.star == index) with
  | nil => rfl
  | cons z rest => simp [Function.comp_def]

theorem nodup_flags (h : zones.Pairwise Precedes) : (flags zones index).Nodup := by
  have hsides : (sidesOf zones index).Nodup :=
    (sidesOf_increasing h).imp fun hlt heq => Nat.ne_of_lt hlt (congrArg Direction.rank heq)
  rw [flags_eq_ite]
  split
  · exact List.nodup_nil
  · refine List.nodup_cons.mpr ⟨?_, hsides.map directionFlag_injective⟩
    rw [List.mem_map]
    rintro ⟨d, -, hd⟩
    have hside := isDirectional_iff.mpr ⟨d, hd⟩
    rw [isDirectional_ownerFlag] at hside
    cases hside

end SpawnZone

namespace GalaxyMap
open SpawnZone Wormhole

variable {m : GalaxyMap} {config : Config} {s : StarSystem}

/-- Under every configuration, the flags of a system stand in order and none is there twice. The
sides are those on which its star has zones, the pairs those that have an end at its star. -/
theorem compile_flagsInOrder (hs : s ∈ (m.compile config).scenario.systems) :
    ∃ sides pairs, FlagsInOrder s.flags sides pairs ∧
      (∀ d, d ∈ sides ↔ ∃ z ∈ m.spawnZones config, z.star = s.id ∧ z.direction = d) ∧
      ∀ pair, pair ∈ pairs ↔ ∃ link, m.wormholes[pair]? = some link ∧
        (m.ownedKey? s = some link.first.key ∨ m.ownedKey? s = some link.second.key) := by
  obtain ⟨star, hstar, rfl⟩ := mem_compile_systems.mp hs
  have hordered := (isPlan_plan (spawnBounds config) m.stars).ordered
  refine ⟨sidesOf (m.spawnZones config) star.index, pairsAt (endKeys m.wormholes) star.key,
    ⟨?_, sidesOf_increasing hordered, pairsAt_increasing _ _, ?_⟩, fun d => mem_sidesOf, ?_⟩
  · change SpawnZone.flags _ _ ++ _ = _
    rw [flags_eq_ite]
    rfl
  · refine List.nodup_append'.mpr ⟨nodup_flags hordered, ?_, ?_⟩
    · exact (nodup_pairsAt _ _).map flag_injective
    · intro flag hzone hpair
      obtain ⟨pair, -, rfl⟩ := List.mem_map.mp hpair
      exact wormhole_notMem_flags _ _ _ hzone
  · intro pair
    rw [mem_pairsAt, ownedKey?_system hstar]
    simp [eq_comm (a := star.key)]

/-- With a radius of zero no zone is refused, and a star that two wormholes lead to from itself has
the flags of all four sides and of both pairs. -/
theorem compile_flagsInOrder_noRadius :
    let config : Config := { spawnRadius := 0.0 }
    let star : Point := ⟨450.0, 450.0⟩
    let m := ((ofStars [star]).addWormhole ⟨star, star⟩).addWormhole ⟨star, star⟩
    ∃ s ∈ (m.compile config).scenario.systems,
      (∃ sides pairs, FlagsInOrder s.flags sides pairs) ∧
        s.flags = [ownerFlag, directionFlag .north, directionFlag .east, directionFlag .south,
          directionFlag .west, flag 0, flag 1] := by
  intro config star m
  have hfirst : (⟨0, star, star.key⟩ : ListedStar) ∈ m.roll.firsts :=
    StarRoll.mem_firsts_ofStars.mpr ⟨rfl, rfl, rfl, fun _ _ => Nat.zero_le _⟩
  have hs : m.system config (m.spawnZones config) (endKeys m.wormholes) ⟨0, star, star.key⟩ ∈
      (m.compile config).scenario.systems := mem_compile_systems.mpr ⟨_, hfirst, rfl⟩
  obtain ⟨sides, pairs, hflags, -⟩ := compile_flagsInOrder hs
  refine ⟨_, hs, ⟨sides, pairs, hflags⟩, ?_⟩
  have hsides : sidesOf (m.spawnZones config) 0 = Direction.all := by decide +kernel
  have hpairs : pairsAt (endKeys m.wormholes) star.key = [0, 1] := by
    simp [m, ofStars, addWormhole, endKeys, pairsAt]
  change SpawnZone.flags _ _ ++ _ = _
  rw [flags_eq_ite, hsides, Wormhole.flags, hpairs]
  rfl

end GalaxyMap
end GalaxyScenario
