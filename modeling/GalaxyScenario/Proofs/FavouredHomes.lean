import GalaxyScenario.Finding
import GalaxyScenario.Proofs.References

/-! Favoured home stars where no empire may start. Such a key is reported as ignored, and it is,
unless the first stars of the list stand in for painted home systems: a star that stands in is
favoured all the same. That one case is the exact condition under which the report is wrong. -/
namespace GalaxyScenario

theorem SpawnDirective.any_preferred_plan (index : Nat) (isPotential isPreferred : Bool) :
    (plan index isPotential isPreferred).any (·.weight == .preferred) =
      (isPotential && isPreferred) := by
  cases isPotential <;> cases isPreferred <;> rfl

theorem SpawnDirective.plan_congr {index : Nat} {isPotential p q : Bool}
    (h : isPotential = true → p = q) : plan index isPotential p = plan index isPotential q := by
  cases isPotential with
  | false => rfl
  | true => rw [h rfl]

namespace GalaxyMap

/-- The map without the favoured homes that are not also possible homes. -/
def withoutIgnored (m : GalaxyMap) : GalaxyMap :=
  { m with preferredHomes := m.preferredHomes ∩ m.potentialHomes }

/-- The keys left out are those that the findings call ignored. -/
theorem mem_preferredHomes_withoutIgnored {m : GalaxyMap} {key : String} :
    key ∈ m.withoutIgnored.preferredHomes ↔
      key ∈ m.preferredHomes ∧ Finding.preferredNotPotential key ∉ m.homeFindings := by
  have hunknown : Finding.preferredNotPotential key ∉ m.unknownHomes := by
    intro h
    obtain ⟨k, -, hk⟩ := List.mem_map.mp h
    unfold unknownHome at hk
    split at hk
    · split at hk <;> cases hk
    · cases hk
  have honly : Finding.preferredNotPotential key ∈ m.preferredOnly ↔
      key ∈ m.preferredHomes ∧ key ∉ m.potentialHomes := by
    simp [preferredOnly, Std.ExtTreeSet.mem_diff_iff]
  rw [homeFindings, List.mem_append, or_iff_right hunknown, honly]
  change key ∈ m.preferredHomes ∩ m.potentialHomes ↔ _
  rw [Std.ExtTreeSet.mem_inter_iff]
  tauto

/-- The first stars stand in for painted home systems, and one of them is favoured. -/
def FavoursStandIn (m : GalaxyMap) (config : Config) : Prop :=
  config.fallbackHomes = true ∧ m.potentialHomes.isEmpty = true ∧
    ∃ star ∈ m.stars.take (HomeSelection.fallbackCount m.stars.length),
      star.key ∈ m.preferredHomes

theorem homeSelection_of_standIn {m : GalaxyMap} {config : Config}
    (hf : config.fallbackHomes = true) (he : m.potentialHomes.isEmpty = true) :
    m.homeSelection config = .leading (HomeSelection.fallbackCount m.stars.length) := by
  rw [homeSelection, HomeSelection.ofMap, hf, he]
  rfl

theorem homeSelection_of_painted {m : GalaxyMap} {config : Config}
    (h : ¬ (config.fallbackHomes = true ∧ m.potentialHomes.isEmpty = true)) :
    m.homeSelection config = .painted m.potentialHomes := by
  rw [homeSelection, HomeSelection.ofMap, if_neg]
  rwa [Bool.and_eq_true]

/-- A system is a favoured start when its star is selected and favoured. -/
theorem isPreferred_system (m : GalaxyMap) (config : Config) (zones : List SpawnZone)
    (ends : List ((String × String) × Nat)) (star : ListedStar) :
    (m.system config zones ends star).isPreferred =
      ((m.homeSelection config).selects star.index star.key &&
        m.preferredHomes.contains star.key) :=
  SpawnDirective.any_preferred_plan _ _ _

theorem directive_withoutIgnored {m : GalaxyMap} {config : Config} {star : ListedStar}
    (h : ¬ m.FavoursStandIn config) (hstar : star ∈ m.roll.firsts) :
    m.withoutIgnored.directive (m.withoutIgnored.homeSelection config) star.index star.key =
      m.directive (m.homeSelection config) star.index star.key := by
  apply SpawnDirective.plan_congr
  intro hsel
  change (m.homeSelection config).selects star.index star.key = true at hsel
  change (m.preferredHomes ∩ m.potentialHomes).contains star.key =
    m.preferredHomes.contains star.key
  rw [Std.ExtTreeSet.contains_inter]
  by_cases hmode : config.fallbackHomes = true ∧ m.potentialHomes.isEmpty = true
  · rw [homeSelection_of_standIn hmode.1 hmode.2] at hsel
    have hindex := of_decide_eq_true hsel
    obtain ⟨hp, hkey, -⟩ := StarRoll.mem_firsts_ofStars.mp hstar
    have hmem : star.position ∈ m.stars.take (HomeSelection.fallbackCount m.stars.length) := by
      apply List.mem_of_getElem? (i := star.index)
      rw [List.getElem?_take_of_lt hindex, hp]
    have hno : m.preferredHomes.contains star.key = false := by
      rw [Bool.eq_false_iff, ne_eq, ← Std.ExtTreeSet.mem_iff_contains, hkey]
      exact fun hpref => h ⟨hmode.1, hmode.2, star.position, hmem, hpref⟩
    rw [hno, Bool.false_and]
  · rw [homeSelection_of_painted hmode] at hsel
    change m.potentialHomes.contains star.key = true at hsel
    rw [hsel, Bool.and_true]

theorem systems_withoutIgnored {m : GalaxyMap} {config : Config}
    (h : ¬ m.FavoursStandIn config) :
    (m.withoutIgnored.compile config).scenario.systems =
      (m.compile config).scenario.systems := by
  apply List.map_congr_left
  intro star hstar
  have hdirective := directive_withoutIgnored h hstar
  simp only [system, hdirective]
  rfl

/-- Everything else in a compilation is made from the systems or does not read the favours. -/
theorem compile_withoutIgnored {m : GalaxyMap} {config : Config}
    (h : ¬ m.FavoursStandIn config) :
    m.withoutIgnored.compile config = m.compile config := by
  have hsystems := systems_withoutIgnored h
  simp only [compile] at hsystems ⊢
  rw [hsystems]
  rfl

/-- Without a painted home system, no favour is left. -/
theorem preferredSystems_withoutIgnored_of_isEmpty {m : GalaxyMap} {config : Config}
    (he : m.potentialHomes.isEmpty = true) :
    (m.withoutIgnored.compile config).stats.preferredSystems = 0 := by
  change List.countP _ (List.map _ _) = 0
  rw [List.countP_eq_zero]
  rintro s hs
  obtain ⟨star, -, rfl⟩ := List.mem_map.mp hs
  rw [isPreferred_system]
  change ¬ (_ && (m.preferredHomes ∩ m.potentialHomes).contains star.key) = true
  rw [Std.ExtTreeSet.isEmpty_iff.mp he, Std.ExtTreeSet.contains_inter,
    Std.ExtTreeSet.contains_empty, Bool.and_false, Bool.and_false]
  exact Bool.false_ne_true

/-- A favoured star that stands in makes its system a favoured start. -/
theorem preferredSystems_pos_of_favoursStandIn {m : GalaxyMap} {config : Config}
    (h : m.FavoursStandIn config) : 0 < (m.compile config).stats.preferredSystems := by
  obtain ⟨hf, he, star, hstar, hpref⟩ := h
  obtain ⟨j, hj⟩ := List.mem_iff_getElem?.mp hstar
  rw [List.getElem?_take, Option.ite_none_right_eq_some] at hj
  obtain ⟨hjlt, hj⟩ := hj
  obtain ⟨first, ⟨hfirst, hkey⟩, -⟩ := StarRoll.existsUnique_first (List.mem_of_getElem? hj)
  have hle : first.index ≤ j := by
    have hleast := (StarRoll.mem_firsts_ofStars.mp hfirst).2.2
    rw [hkey] at hleast
    exact hleast.2 (mem_placesOf.mpr ⟨star, hj, rfl⟩)
  apply List.countP_pos_iff.mpr
  refine ⟨_, mem_compile_systems.mpr ⟨first, hfirst, rfl⟩, ?_⟩
  rw [isPreferred_system, homeSelection_of_standIn hf he, hkey]
  change (decide (first.index < HomeSelection.fallbackCount m.stars.length) && _) = true
  rw [decide_eq_true (by omega), Bool.true_and]
  exact Std.ExtTreeSet.mem_iff_contains.mp hpref

/-- The favours left out are those reported as ignored. Leaving them out has no effect on a
scenario exactly when no star that stands in for a painted home system is favoured. -/
theorem compile_withoutIgnored_eq_iff (m : GalaxyMap) (config : Config) :
    (∀ key, key ∈ m.withoutIgnored.preferredHomes ↔
        key ∈ m.preferredHomes ∧ Finding.preferredNotPotential key ∉ m.homeFindings) ∧
      (((m.withoutIgnored.compile config).script = (m.compile config).script ∧
        (m.withoutIgnored.compile config).stats = (m.compile config).stats) ↔
        ¬ m.FavoursStandIn config) := by
  refine ⟨fun key => mem_preferredHomes_withoutIgnored, ?_⟩
  constructor
  · rintro ⟨-, hstats⟩ hstand
    have hpos := preferredSystems_pos_of_favoursStandIn hstand
    rw [← hstats, preferredSystems_withoutIgnored_of_isEmpty hstand.2.1] at hpos
    exact Nat.lt_irrefl 0 hpos
  · intro h
    rw [compile_withoutIgnored h]
    exact ⟨rfl, rfl⟩

end GalaxyMap
end GalaxyScenario
