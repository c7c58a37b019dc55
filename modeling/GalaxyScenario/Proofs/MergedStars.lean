import GalaxyScenario.Proofs.FindingMessages
import GalaxyScenario.Proofs.References
import Mathlib.Data.List.Dedup

/-! Stars that share a key with an earlier one. The star index, the findings and the compilation
decide about them separately: a key has its first place for an id, each later place is reported, and
only first places become systems. So every star is either reported or emitted. -/
namespace GalaxyScenario

/-- Where one list keeps what the other reports, the reports stand in the order of what is kept. -/
theorem forall₂_filter_filterMap {α β γ : Type} {R : β → γ → Prop} {p : α → Bool} {f : α → β}
    {g : α → Option γ} {l : List α} (hkept : ∀ a ∈ l, p a = true → ∃ c, g a = some c ∧ R (f a) c)
    (hleft : ∀ a ∈ l, p a = false → g a = none) :
    List.Forall₂ R ((l.filter p).map f) (l.filterMap g) := by
  induction l with
  | nil => exact .nil
  | cons a rest ih =>
    rw [List.forall_mem_cons] at hkept hleft
    have hrest := ih hkept.2 hleft.2
    cases hp : p a with
    | false =>
      rw [List.filter_cons_of_neg (by simp [hp]), List.filterMap_cons_none (hleft.1 hp)]
      exact hrest
    | true =>
      obtain ⟨c, hc, hR⟩ := hkept.1 hp
      rw [List.filter_cons_of_pos hp, List.filterMap_cons_some hc]
      exact .cons hR hrest

namespace StarIndex

theorem mem_ids_ofKeys {keys : List String} {key : String} :
    key ∈ (ofKeys keys).ids ↔ key ∈ keys := by
  have hid : (ofKeys keys).ids[key]? = keys.idxOf? key := idOfKey?_ofKeys keys key
  rw [Std.ExtTreeMap.mem_iff_isSome_getElem?, hid, List.isSome_idxOf?]

theorem size_ofKeys (keys : List String) : (ofKeys keys).size = keys.dedup.length := by
  have hnodup : (ofKeys keys).ids.keys.Nodup :=
    (ofKeys keys).ids.distinct_keys.imp fun hne heq => hne (by simp [heq])
  have hperm : (ofKeys keys).ids.keys.Perm keys.dedup := by
    rw [List.perm_ext_iff_of_nodup hnodup keys.nodup_dedup]
    intro key
    rw [Std.ExtTreeMap.mem_keys, mem_ids_ofKeys, List.mem_dedup]
  rw [size, ← Std.ExtTreeMap.length_keys, hperm.length_eq]

/-- An index that answers for a list of stars: with the least place of a key, for a position as for
its key, and with the number of different keys. -/
structure Indexes (index : StarIndex) (stars : List Point) : Prop where
  some_iff : ∀ key i, index.idOfKey? key = some i ↔ IsLeast (placesOf stars key) i
  none_iff : ∀ key, index.idOfKey? key = none ↔ ∀ star ∈ stars, star.key ≠ key
  position : ∀ p : Point, index.id? p = index.idOfKey? p.key
  size : index.size = (stars.map Point.key).dedup.length

theorem indexes_ofStars (stars : List Point) : (ofStars stars).Indexes stars where
  some_iff _ _ := idOfKey?_ofStars_eq_some
  none_iff _ := idOfKey?_ofStars_eq_none
  position _ := rfl
  size := size_ofKeys _

end StarIndex

namespace GalaxyMap

variable {m : GalaxyMap} {config : Config}

/-- The places of stars for which there is no system, in their order. -/
def placesWithout (m : GalaxyMap) (systems : List StarSystem) : List Nat :=
  (List.range m.stars.length).filter fun i => !systems.any (·.id == i)

/-- A star has a system of its own exactly when it is the first of its key. -/
theorem any_id_compile {star : ListedStar} (h : star ∈ m.roll.stars) :
    (m.compile config).scenario.systems.any (·.id == star.index) = m.roll.isFirst star := by
  rw [Bool.eq_iff_iff, List.any_eq_true]
  constructor
  · rintro ⟨s, hs, hid⟩
    obtain ⟨first, hfirst, rfl⟩ := mem_compile_systems.mp hs
    have hindex : first.index = star.index := beq_iff_eq.mp hid
    obtain ⟨hmem, hisFirst⟩ := List.mem_filter.mp hfirst
    obtain rfl := StarRoll.eq_of_mem_stars hmem h hindex
    exact hisFirst
  · intro hfirst
    have hmem := List.mem_filter.mpr ⟨h, hfirst⟩
    exact ⟨_, mem_compile_systems.mpr ⟨star, hmem, rfl⟩, beq_self_eq_true _⟩

theorem placesWithout_compile (m : GalaxyMap) (config : Config) :
    m.placesWithout (m.compile config).scenario.systems =
      (m.roll.stars.filter fun star => !m.roll.isFirst star).map (·.index) := by
  rw [placesWithout, ← StarRoll.map_index_stars_ofStars, List.filter_map]
  congr 1
  exact List.filter_congr fun star hstar => congrArg (!·) (any_id_compile hstar)

/-- The star at a place is merged into a system. The finding gives the place and the id of the
system and names the key of both. -/
def MergedAs (m : GalaxyMap) (systems : List StarSystem) (i : Nat) (f : Finding) : Prop :=
  ∃ star, m.stars[i]? = some star ∧ ∃ s ∈ systems,
    m.ownedKey? s = some star.key ∧ s.id < i ∧ f.Says "duplicate_star" [i, s.id] [star.key]

theorem forall₂_mergedAs (m : GalaxyMap) (config : Config) :
    List.Forall₂ (m.MergedAs (m.compile config).scenario.systems)
      (m.placesWithout (m.compile config).scenario.systems) m.duplicateStars := by
  rw [placesWithout_compile]
  apply forall₂_filter_filterMap
  · intro star hstar hlater
    obtain ⟨hplace, hkey⟩ := StarRoll.mem_stars_ofStars.mp hstar
    rw [StarRoll.isFirst, Bool.not_eq_true', beq_eq_false_iff_ne, ne_eq] at hlater
    change ¬ m.roll.ids.idOfKey? star.key = some star.index at hlater
    cases hid : m.roll.ids.idOfKey? star.key with
    | none =>
      rw [roll, StarRoll.ids_ofStars, StarIndex.idOfKey?_ofStars_eq_none] at hid
      exact absurd hkey.symm (hid star.position (List.mem_of_getElem? hplace))
    | some first =>
      have hne : first ≠ star.index := fun heq => hlater (by rw [hid, heq])
      have hid' : (StarRoll.ofStars m.stars).ids.idOfKey? star.key = some first := hid
      refine ⟨.duplicateStar star.index star.key first, by simp [hid', hne], ?_⟩
      rw [hkey] at hid
      obtain ⟨s, honly, howned⟩ := filter_compile_systems_of_id? (p := star.position) hid config
      obtain ⟨hs, hsid⟩ := List.mem_filter.mp (honly ▸ List.mem_singleton_self s)
      obtain rfl : s.id = first := beq_iff_eq.mp hsid
      have hle : s.id ≤ star.index := by
        rw [roll, StarRoll.ids_ofStars, StarIndex.idOfKey?_ofStars_eq_some] at hid
        exact hid.2 (mem_placesOf.mpr ⟨star.position, hplace, rfl⟩)
      rw [hkey]
      exact ⟨star.position, hplace, s, hs, howned, by omega, Finding.says_duplicateStar _ _ _⟩
  · intro star _ hfirst
    rw [StarRoll.isFirst, Bool.not_eq_false', beq_iff_eq] at hfirst
    have hfirst' : (StarRoll.ofStars m.stars).ids.idOfKey? star.key = some star.index := hfirst
    simp [hfirst']

theorem length_placesWithout_compile (m : GalaxyMap) (config : Config) :
    (m.placesWithout (m.compile config).scenario.systems).length +
      (m.compile config).stats.systems = m.stars.length := by
  have hsystems : (m.compile config).stats.systems = (m.roll.stars.filter m.roll.isFirst).length :=
    List.length_map _
  have hstars : m.roll.stars.length = m.stars.length := by
    rw [← List.length_map (·.index), roll, StarRoll.map_index_stars_ofStars, List.length_range]
  rw [placesWithout_compile, List.length_map, hsystems, Nat.add_comm,
    ← List.length_eq_length_filter_add, hstars]

/-- The index of any list of stars gives each key its least place and counts the different keys. The
stars reported as duplicates are those without a system, in their order, and each report names the
system into which the star is merged. Together with the systems they are all stars. -/
theorem duplicates_accounted :
    (∀ stars : List Point, (StarIndex.ofStars stars).Indexes stars) ∧
      ∀ (m : GalaxyMap) (config : Config),
        List.Forall₂ (m.MergedAs (m.compile config).scenario.systems)
          (m.placesWithout (m.compile config).scenario.systems)
          (Finding.ofCategory "duplicate_star" (m.findings config)) ∧
        (Finding.ofCategory "duplicate_star" (m.findings config)).length +
          (m.compile config).stats.systems = m.stars.length := by
  refine ⟨StarIndex.indexes_ofStars, fun m config => ?_⟩
  have hmerged := forall₂_mergedAs m config
  rw [ofCategory_duplicate_star]
  exact ⟨hmerged, hmerged.length_eq ▸ length_placesWithout_compile m config⟩

end GalaxyMap
end GalaxyScenario
