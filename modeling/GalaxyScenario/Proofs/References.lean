import GalaxyScenario.Proofs.StarRoll
import GalaxyScenario.Script
import Mathlib.Data.List.Forall2
import Mathlib.Data.List.Nodup

/-! The systems of a compiled map and the hyperlanes that refer to them. Every key of a star is
owned by one system, whose id is the least place of the key, and an end of a hyperlane is an id
exactly when its key has an owner. Nothing is assumed about the coordinates. -/
namespace GalaxyScenario
namespace GalaxyMap

/-- The key of the star that a system was made from. -/
def ownedKey? (m : GalaxyMap) (s : StarSystem) : Option String := m.stars[s.id]?.map Point.key

theorem mem_compile_systems {m : GalaxyMap} {config : Config} {s : StarSystem} :
    s ∈ (m.compile config).scenario.systems ↔ ∃ first ∈ m.roll.firsts,
      m.system config (m.spawnZones config) (Wormhole.endKeys m.wormholes) first = s :=
  List.mem_map

theorem ownedKey?_system {m : GalaxyMap} {first : ListedStar} (h : first ∈ m.roll.firsts)
    (config : Config) (zones : List SpawnZone) (ends : List ((String × String) × Nat)) :
    m.ownedKey? (m.system config zones ends first) = some first.key := by
  obtain ⟨hp, hkey, -⟩ := StarRoll.mem_firsts_ofStars.mp h
  change m.stars[first.index]?.map Point.key = some first.key
  rw [hp, Option.map_some, hkey]

theorem compile_systems_pairwise_id (m : GalaxyMap) (config : Config) :
    (m.compile config).scenario.systems.Pairwise (·.id < ·.id) := by
  change (m.roll.firsts.map _).Pairwise _
  rw [List.pairwise_map]
  exact StarRoll.firsts_pairwise_index m.stars

theorem eq_of_mem_compile_systems {m : GalaxyMap} {config : Config} {s t : StarSystem}
    (hs : s ∈ (m.compile config).scenario.systems)
    (ht : t ∈ (m.compile config).scenario.systems) (h : s.id = t.id) : s = t := by
  obtain ⟨first, hf, rfl⟩ := mem_compile_systems.mp hs
  obtain ⟨first', hf', rfl⟩ := mem_compile_systems.mp ht
  rw [StarRoll.eq_of_mem_firsts hf hf' h]

/-- Every star is owned, together with all stars of its key, by one system. -/
theorem existsUnique_owner {m : GalaxyMap} {star : Point} (h : star ∈ m.stars)
    (config : Config) :
    ∃! s, s ∈ (m.compile config).scenario.systems ∧ m.ownedKey? s = some star.key := by
  obtain ⟨first, ⟨hf, hkey⟩, hunique⟩ := StarRoll.existsUnique_first h
  refine ⟨_, ⟨mem_compile_systems.mpr ⟨first, hf, rfl⟩, ?_⟩, ?_⟩
  · rw [ownedKey?_system hf, hkey]
  · rintro s ⟨hs, howned⟩
    obtain ⟨first', hf', rfl⟩ := mem_compile_systems.mp hs
    rw [ownedKey?_system hf', Option.some.injEq] at howned
    rw [hunique first' ⟨hf', howned⟩]

/-- An id of the star index is the id of one system, which owns the key. -/
theorem filter_compile_systems_of_id? {m : GalaxyMap} {p : Point} {i : Nat}
    (h : m.roll.ids.id? p = some i) (config : Config) :
    ∃ s, (m.compile config).scenario.systems.filter (·.id == i) = [s] ∧
      m.ownedKey? s = some p.key := by
  rw [roll, StarRoll.ids_ofStars, StarIndex.id?, StarIndex.idOfKey?_ofStars_eq_some] at h
  obtain ⟨star, hstar, hkey⟩ := mem_placesOf.mp h.1
  obtain ⟨s, ⟨hs, howned⟩, -⟩ := existsUnique_owner (List.mem_of_getElem? hstar) config
  rw [hkey] at howned
  have hid : s.id = i := by
    obtain ⟨first, hf, rfl⟩ := mem_compile_systems.mp hs
    rw [ownedKey?_system hf, Option.some.injEq] at howned
    have hleast := (StarRoll.mem_firsts_ofStars.mp hf).2.2
    rw [howned] at hleast
    exact hleast.unique h
  refine ⟨s, ?_, howned⟩
  -- A list without repetition whose kept elements are all the same keeps only that one.
  have hnodup : ((m.compile config).scenario.systems.filter (·.id == i)).Nodup :=
    ((compile_systems_pairwise_id m config).imp fun hlt heq => by
      rw [heq] at hlt; omega).filter _
  apply List.perm_singleton.mp
  rw [List.perm_ext_iff_of_nodup hnodup (List.nodup_singleton s)]
  intro t
  rw [List.mem_filter, List.mem_singleton, beq_iff_eq]
  constructor
  · rintro ⟨ht, htid⟩
    exact eq_of_mem_compile_systems ht hs (htid.trans hid.symm)
  · rintro rfl
    exact ⟨hs, hid⟩

/-- What an end of a hyperlane at `p` comes to, with its text in the script: the id that one system
has, which owns the key of `p`, or `undefined` if no star has that key. -/
inductive EndResolved (m : GalaxyMap) (systems : List StarSystem) (p : Point) :
    Option Nat → String → Prop where
  | system {id : Nat} {s : StarSystem} (only : systems.filter (·.id == id) = [s])
      (owner : m.ownedKey? s = some p.key) : EndResolved m systems p (some id) (toString id)
  | undefined (dangling : ∀ star ∈ m.stars, star.key ≠ p.key) :
      EndResolved m systems p none "undefined"

theorem endResolved_id? (m : GalaxyMap) (config : Config) (p : Point) :
    EndResolved m (m.compile config).scenario.systems p (m.roll.ids.id? p)
      (Script.laneEnd (m.roll.ids.id? p)) := by
  cases hid : m.roll.ids.id? p with
  | some i =>
    obtain ⟨s, honly, howner⟩ := filter_compile_systems_of_id? hid config
    exact .system honly howner
  | none =>
    rw [roll, StarRoll.ids_ofStars, StarIndex.id?] at hid
    exact .undefined (StarIndex.idOfKey?_ofStars_eq_none.mp hid)

/-- The systems and hyperlanes of a scenario refer to the stars of the map without loss. A system
stands at the star of its id, which no star before has the key of, and the hyperlanes are the
painted ones, each in its place. -/
structure ReferencesIntact (m : GalaxyMap) (config : Config) (s : Scenario) : Prop where
  ids_increasing : s.systems.Pairwise (·.id < ·.id)
  id_least : ∀ sys ∈ s.systems, ∃ star, m.stars[sys.id]? = some star ∧
    sys.position = star.inGalaxy config.width config.height ∧
    IsLeast (placesOf m.stars star.key) sys.id
  one_owner : ∀ star ∈ m.stars, ∃! sys, sys ∈ s.systems ∧ m.ownedKey? sys = some star.key
  hyperlanes : List.Forall₂ (fun link lane =>
    EndResolved m s.systems link.first lane.source (Script.laneEnd lane.source) ∧
      EndResolved m s.systems link.second lane.target (Script.laneEnd lane.target))
    m.hyperlanes s.hyperlanes

/-- Compiling keeps all references, for every map and every configuration. -/
theorem compile_referencesIntact (m : GalaxyMap) (config : Config) :
    ReferencesIntact m config (m.compile config).scenario where
  ids_increasing := compile_systems_pairwise_id m config
  id_least := by
    intro sys hsys
    obtain ⟨first, hf, rfl⟩ := mem_compile_systems.mp hsys
    obtain ⟨hp, hkey, hleast⟩ := StarRoll.mem_firsts_ofStars.mp hf
    exact ⟨first.position, hp, rfl, hkey ▸ hleast⟩
  one_owner := fun star hstar => existsUnique_owner hstar config
  hyperlanes := by
    change List.Forall₂ _ m.hyperlanes (m.hyperlanes.map (resolve m.roll.ids))
    rw [List.forall₂_map_right_iff, List.forall₂_same]
    intro link _
    exact ⟨endResolved_id? m config link.first, endResolved_id? m config link.second⟩

end GalaxyMap
end GalaxyScenario
