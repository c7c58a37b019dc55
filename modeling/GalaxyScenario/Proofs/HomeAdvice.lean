import GalaxyScenario.Proofs.FindingMessages
import GalaxyScenario.Proofs.PaintedHomes
import GalaxyScenario.Proofs.Text.ByteOrder

/-! The findings about home stars. The report is made from two sets of keys that are gone through in
any order, sorted by bytes and freed of repetitions. Where it says which spelling of a key to use,
following it makes the star a home and leaves fewer findings: the key is no longer unknown, and a
favoured key that becomes an orphan was one before under its old spelling. -/
namespace GalaxyScenario
open Text

namespace KeySet

theorem sortedLT_toList (s : KeySet) : s.toList.SortedLT :=
  (s.ordered_toList.imp compare_lt_iff_lt.mp).sortedLT

theorem mem_iff_of_perm {s : KeySet} {keys : List String} (h : keys.Perm s.toList) {key : String} :
    key ∈ keys ↔ key ∈ s := by
  rw [h.mem_iff, Std.ExtTreeSet.mem_toList]

variable {s : KeySet} {old new key : String}

theorem of_mem_replace (h : key ∈ s.replace old new) :
    old ∈ s ∧ key = new ∨ key ∈ s ∧ key ≠ old := by
  rw [mem_replace] at h
  split at h
  · rename_i hold
    exact h.imp_left fun hnew => ⟨hold, hnew⟩
  · rename_i hold
    exact .inr ⟨h, fun heq => hold (heq ▸ h)⟩

theorem mem_replace_self (h : old ∈ s) : new ∈ s.replace old new := by
  rw [mem_replace, if_pos h]
  exact .inl rfl

theorem mem_replace_of_ne (h : key ∈ s) (hne : key ≠ old) : key ∈ s.replace old new := by
  rw [mem_replace]
  split
  · exact .inr ⟨h, hne⟩
  · exact h

end KeySet

namespace GalaxyMap

def unknownKeys (m : GalaxyMap) : List String :=
  m.homeKeys.toList.filter fun key => !m.starKeys.contains key

def orphanedKeys (m : GalaxyMap) : List String := (m.preferredHomes \ m.potentialHomes).toList

theorem homeFindings_eq_append (m : GalaxyMap) : m.homeFindings =
    m.unknownKeys.map (unknownHome m.starKeys) ++ m.orphanedKeys.map .preferredNotPotential := rfl

theorem mem_starKeys {m : GalaxyMap} {key : String} :
    key ∈ m.starKeys ↔ ∃ star ∈ m.stars, star.key = key := by
  simp [starKeys]

theorem mem_unknownKeys {m : GalaxyMap} {key : String} : key ∈ m.unknownKeys ↔
    (key ∈ m.potentialHomes ∨ key ∈ m.preferredHomes) ∧ key ∉ m.starKeys := by
  have hstar : (!m.starKeys.contains key) = true ↔ key ∉ m.starKeys := by
    rw [Bool.not_eq_true', ← Bool.not_eq_true, Std.ExtTreeSet.contains_iff_mem]
  rw [unknownKeys, List.mem_filter, Std.ExtTreeSet.mem_toList, homeKeys,
    Std.ExtTreeSet.mem_union_iff, hstar]

theorem mem_orphanedKeys {m : GalaxyMap} {key : String} :
    key ∈ m.orphanedKeys ↔ key ∈ m.preferredHomes ∧ key ∉ m.potentialHomes := by
  simp [orphanedKeys, Std.ExtTreeSet.mem_diff_iff]

theorem sortedLT_unknownKeys (m : GalaxyMap) : m.unknownKeys.SortedLT :=
  (m.homeKeys.sortedLT_toList.pairwise.filter _).sortedLT

theorem sortedLT_orphanedKeys (m : GalaxyMap) : m.orphanedKeys.SortedLT :=
  KeySet.sortedLT_toList _

/-- The report on home stars from the two sets of home keys, each gone through in some order. -/
def homeReport (starKeys : KeySet) (potential preferred : List String) : List Finding :=
  ((sortByBytes ((potential ++ preferred).filter (· ∉ starKeys))).destutter (· ≠ ·)).map
      (unknownHome starKeys) ++
    (sortByBytes (preferred.filter (· ∉ potential))).map .preferredNotPotential

theorem homeReport_eq {m : GalaxyMap} {potential preferred : List String}
    (hpotential : potential.Perm m.potentialHomes.toList)
    (hpreferred : preferred.Perm m.preferredHomes.toList) :
    homeReport m.starKeys potential preferred = m.homeFindings := by
  have hunknown : (sortByBytes ((potential ++ preferred).filter
      (· ∉ m.starKeys))).destutter (· ≠ ·) = m.unknownKeys := by
    refine destutter_sortByBytes_eq m.sortedLT_unknownKeys fun key => ?_
    simp [mem_unknownKeys, KeySet.mem_iff_of_perm hpotential, KeySet.mem_iff_of_perm hpreferred,
      or_and_right]
  have horphaned : sortByBytes (preferred.filter (· ∉ potential)) = m.orphanedKeys := by
    have hnodup := hpreferred.nodup_iff.mpr m.preferredHomes.sortedLT_toList.nodup
    refine sortByBytes_eq (hnodup.filter _) m.sortedLT_orphanedKeys fun key => ?_
    simp [mem_orphanedKeys, KeySet.mem_iff_of_perm hpotential, KeySet.mem_iff_of_perm hpreferred]
  rw [homeReport, hunknown, horphaned, homeFindings_eq_append]

/-- A key names the position of a star and another spelling is the key of that star. -/
def Advised (m : GalaxyMap) (key canonical : String) : Prop :=
  ∃ p, Point.ofKey key = .ok p ∧ p.key = canonical ∧ ∃ star ∈ m.stars, star.key = canonical

/-- A finding about a key that no star has. It says which spelling to use if there is one to advise,
and otherwise only that the key is unknown. -/
def SaysUnknown (m : GalaxyMap) (key : String) (f : Finding) : Prop :=
  (∀ canonical, f.Says "unknown_home_star" [] [key, canonical] ↔ m.Advised key canonical) ∧
    (f.Says "unknown_home_star" [] [key] ↔ ∀ canonical, ¬ m.Advised key canonical)

theorem Advised.unique {m : GalaxyMap} {key canonical other : String} (h : m.Advised key canonical)
    (h' : m.Advised key other) : canonical = other := by
  obtain ⟨p, hread, rfl, -⟩ := h
  obtain ⟨q, hread', rfl, -⟩ := h'
  rw [hread] at hread'
  rw [Except.ok.inj hread']

theorem unknownHome_of_advised {m : GalaxyMap} {key canonical : String}
    (h : m.Advised key canonical) :
    unknownHome m.starKeys key = .homeNotCanonical key canonical := by
  obtain ⟨p, hread, rfl, hstar⟩ := h
  have hcontains : m.starKeys.contains p.key = true :=
    Std.ExtTreeSet.mem_iff_contains.mp (mem_starKeys.mpr hstar)
  simp [unknownHome, hread, hcontains]

theorem unknownHome_of_not_advised {m : GalaxyMap} {key : String}
    (h : ∀ canonical, ¬ m.Advised key canonical) :
    unknownHome m.starKeys key = .unknownHome key := by
  unfold unknownHome
  cases hread : Point.ofKey key with
  | error => rfl
  | ok p =>
    have hmissing : m.starKeys.contains p.key = false := by
      rw [Bool.eq_false_iff, ne_eq, ← Std.ExtTreeSet.mem_iff_contains, mem_starKeys]
      exact fun hstar => h p.key ⟨p, hread, rfl, hstar⟩
    simp [hmissing]

/-- Advice is given for the key that is unknown, and where there is some. -/
theorem says_unknownHome_iff {m : GalaxyMap} {key named canonical : String} :
    (unknownHome m.starKeys key).Says "unknown_home_star" [] [named, canonical] ↔
      named = key ∧ m.Advised key canonical := by
  by_cases hadvised : ∃ other, m.Advised key other
  · obtain ⟨other, hother⟩ := hadvised
    rw [unknownHome_of_advised hother]
    obtain ⟨p, -, rfl, -⟩ := id hother
    have hsays := Finding.says_homeNotCanonical key p
    constructor
    · intro h
      obtain ⟨rfl, rfl⟩ : named = key ∧ canonical = p.key := by simpa using (h.2.unique hsays.2).2
      exact ⟨rfl, hother⟩
    · rintro ⟨rfl, hcanonical⟩
      rwa [hcanonical.unique hother]
  · rw [not_exists] at hadvised
    rw [unknownHome_of_not_advised hadvised]
    constructor
    · intro h
      simpa using (h.2.unique (Finding.says_unknownHome key).2).2
    · exact fun h => absurd h.2 (hadvised canonical)

theorem saysUnknown_unknownHome (m : GalaxyMap) (key : String) :
    m.SaysUnknown key (unknownHome m.starKeys key) := by
  refine ⟨fun canonical => says_unknownHome_iff.trans (and_iff_right rfl), ?_⟩
  constructor
  · rintro h canonical hadvised
    rw [unknownHome_of_advised hadvised] at h
    obtain ⟨p, -, rfl, -⟩ := hadvised
    simpa using (h.2.unique (Finding.says_homeNotCanonical key p).2).2
  · intro hadvised
    rw [unknownHome_of_not_advised hadvised]
    exact Finding.says_unknownHome key

/-- A spelling that is advised is the key of a star, and the key to be replaced is not. -/
theorem of_says_mem_homeFindings {m : GalaxyMap} {f : Finding} {key canonical : String}
    (hf : f ∈ m.homeFindings) (h : f.Says "unknown_home_star" [] [key, canonical]) :
    key ∈ m.unknownKeys ∧ canonical ∈ m.starKeys := by
  rw [homeFindings_eq_append, List.mem_append, List.mem_map, List.mem_map] at hf
  rcases hf with ⟨unknown, hunknown, rfl⟩ | ⟨orphaned, -, rfl⟩
  · obtain ⟨rfl, p, -, rfl, hstar⟩ := says_unknownHome_iff.mp h
    exact ⟨hunknown, mem_starKeys.mpr hstar⟩
  · simp [Finding.Says, Finding.category] at h

section Replaced

variable {m : GalaxyMap} {key canonical : String}

theorem mem_unknownKeys_replaceHome (hstar : canonical ∈ m.starKeys) {other : String}
    (h : other ∈ (m.replaceHome key canonical).unknownKeys) :
    other ≠ key ∧ other ∈ m.unknownKeys := by
  obtain ⟨hhome, hother⟩ := mem_unknownKeys.mp h
  change other ∉ m.starKeys at hother
  have hcanonical : other ≠ canonical := fun heq => hother (heq ▸ hstar)
  rw [mem_unknownKeys]
  rcases hhome with hhome | hhome
  · rcases KeySet.of_mem_replace hhome with ⟨-, heq⟩ | ⟨hmem, hne⟩
    · exact absurd heq hcanonical
    · exact ⟨hne, .inl hmem, hother⟩
  · rcases KeySet.of_mem_replace hhome with ⟨-, heq⟩ | ⟨hmem, hne⟩
    · exact absurd heq hcanonical
    · exact ⟨hne, .inr hmem, hother⟩

/-- What is orphaned after a replacement was so before, at most under the key that was replaced. -/
theorem mem_orphanedKeys_replaceHome {other : String}
    (h : other ∈ (m.replaceHome key canonical).orphanedKeys) :
    other ∈ m.orphanedKeys.map fun old => if old = key then canonical else old := by
  obtain ⟨hpreferred, hpotential⟩ := mem_orphanedKeys.mp h
  rw [List.mem_map]
  rcases KeySet.of_mem_replace hpreferred with ⟨hmem, rfl⟩ | ⟨hmem, hne⟩
  · refine ⟨key, mem_orphanedKeys.mpr ⟨hmem, fun hold => ?_⟩, if_pos rfl⟩
    exact hpotential (KeySet.mem_replace_self hold)
  · refine ⟨other, mem_orphanedKeys.mpr ⟨hmem, fun hold => ?_⟩, if_neg hne⟩
    exact hpotential (KeySet.mem_replace_of_ne hold hne)

theorem length_homeFindings (m : GalaxyMap) :
    m.homeFindings.length = m.unknownKeys.length + m.orphanedKeys.length := by
  rw [homeFindings_eq_append, List.length_append, List.length_map, List.length_map]

theorem length_homeFindings_replaceHome_lt (hkey : key ∈ m.unknownKeys)
    (hstar : canonical ∈ m.starKeys) :
    (m.replaceHome key canonical).homeFindings.length < m.homeFindings.length := by
  have hother : ∀ other ∈ (m.replaceHome key canonical).unknownKeys,
      other ≠ key ∧ other ∈ m.unknownKeys := fun _ => mem_unknownKeys_replaceHome hstar
  have hunknown : (key :: (m.replaceHome key canonical).unknownKeys).length ≤
      m.unknownKeys.length := by
    refine (List.subperm_of_subset ?_ ?_).length_le
    · exact List.nodup_cons.mpr ⟨fun h => (hother key h).1 rfl, (sortedLT_unknownKeys _).nodup⟩
    · exact List.cons_subset.mpr ⟨hkey, fun other h => (hother other h).2⟩
  have horphaned : (m.replaceHome key canonical).orphanedKeys.length ≤ m.orphanedKeys.length := by
    have hsubset : (m.replaceHome key canonical).orphanedKeys ⊆
        m.orphanedKeys.map fun old => if old = key then canonical else old :=
      fun _ => mem_orphanedKeys_replaceHome
    simpa using (List.subperm_of_subset (sortedLT_orphanedKeys _).nodup hsubset).length_le
  rw [List.length_cons] at hunknown
  rw [length_homeFindings, length_homeFindings]
  omega

end Replaced

/-- The report on home stars does not depend on the order in which the sets of keys are gone
through. It names each unknown key once and then each orphaned one, both by increasing bytes. It
advises another spelling of an unknown key exactly if that is the key of the star at the position
that the key names, and with it in the place of the old one there are fewer findings and the star is
a home as the old key said. -/
theorem homeFindings_exact (m : GalaxyMap) :
    (∀ potential preferred : List String, potential.Perm m.potentialHomes.toList →
        preferred.Perm m.preferredHomes.toList →
          homeReport m.starKeys potential preferred = m.homeFindings) ∧
      (∃ (unknown orphaned : List String) (first second : List Finding),
        m.homeFindings = first ++ second ∧
          List.Forall₂ m.SaysUnknown unknown first ∧
          List.Forall₂ (fun key f => f.Says "preferred_not_potential" [] [key]) orphaned second ∧
          unknown.Pairwise (bytes · < bytes ·) ∧ orphaned.Pairwise (bytes · < bytes ·) ∧
          (∀ key, key ∈ unknown ↔ (key ∈ m.potentialHomes ∨ key ∈ m.preferredHomes) ∧
            ∀ star ∈ m.stars, star.key ≠ key) ∧
          ∀ key, key ∈ orphaned ↔ key ∈ m.preferredHomes ∧ key ∉ m.potentialHomes) ∧
      ∀ f ∈ m.homeFindings, ∀ key canonical, f.Says "unknown_home_star" [] [key, canonical] →
        canonical ≠ key ∧ (∃ star ∈ m.stars, star.key = canonical) ∧
          (m.replaceHome key canonical).homeFindings.length < m.homeFindings.length ∧
          ∀ star ∈ m.stars, star.key = canonical →
            (key ∈ m.potentialHomes → (m.replaceHome key canonical).isPotentialHome star = true) ∧
              (key ∈ m.preferredHomes →
                (m.replaceHome key canonical).isPreferredHome star = true) := by
  refine ⟨fun _ _ => homeReport_eq, ?_, ?_⟩
  · refine ⟨m.unknownKeys, m.orphanedKeys, _, _, m.homeFindings_eq_append, ?_, ?_, ?_, ?_, ?_,
      fun _ => mem_orphanedKeys⟩
    · rw [List.forall₂_map_right_iff, List.forall₂_same]
      exact fun key _ => m.saysUnknown_unknownHome key
    · rw [List.forall₂_map_right_iff, List.forall₂_same]
      exact fun key _ => Finding.says_preferredNotPotential key
    · exact m.sortedLT_unknownKeys.pairwise.imp (bytes_strictMono ·)
    · exact m.sortedLT_orphanedKeys.pairwise.imp (bytes_strictMono ·)
    · intro key
      rw [mem_unknownKeys, mem_starKeys]
      simp
  · intro f hf key canonical h
    obtain ⟨hkey, hstar⟩ := of_says_mem_homeFindings hf h
    refine ⟨?_, mem_starKeys.mp hstar, length_homeFindings_replaceHome_lt hkey hstar, ?_⟩
    · rintro rfl
      exact (mem_unknownKeys.mp hkey).2 hstar
    · rintro star - rfl
      exact ⟨fun hold => Std.ExtTreeSet.mem_iff_contains.mp (KeySet.mem_replace_self hold),
        fun hold => Std.ExtTreeSet.mem_iff_contains.mp (KeySet.mem_replace_self hold)⟩

/-- A potential home is written with a fraction and a space, and the star at its position has the
shortest key. -/
def spelledHome : GalaxyMap := { stars := [⟨1.0, 1.0⟩], potentialHomes := .ofList ["1.0, 1.0"] }

/-- The shortest key is advised, and with it the star is a home. -/
theorem homeFindings_exact_spelledHome :
    ∃ f ∈ spelledHome.homeFindings, f.Says "unknown_home_star" [] ["1.0, 1.0", "1,1"] ∧
      (spelledHome.replaceHome "1.0, 1.0" "1,1").homeFindings.length <
        spelledHome.homeFindings.length ∧
      (spelledHome.replaceHome "1.0, 1.0" "1,1").isPotentialHome ⟨1.0, 1.0⟩ = true := by
  have hkey : Point.key ⟨1.0, 1.0⟩ = "1,1" := by decide +kernel
  have hread : (Point.ofKey "1.0, 1.0").toOption.map Point.key = some "1,1" := by decide +kernel
  have hadvised : spelledHome.Advised "1.0, 1.0" "1,1" := by
    cases hposition : Point.ofKey "1.0, 1.0" with
    | error => simp [hposition, Except.toOption] at hread
    | ok p =>
      rw [hposition] at hread
      exact ⟨p, hposition, Option.some.inj hread, ⟨1.0, 1.0⟩, List.mem_singleton_self _, hkey⟩
  have hpotential : "1.0, 1.0" ∈ spelledHome.potentialHomes := by simp [spelledHome]
  have hunknown : "1.0, 1.0" ∈ spelledHome.unknownKeys := by
    refine mem_unknownKeys.mpr ⟨.inl hpotential, fun h => ?_⟩
    obtain ⟨star, hstar, hsame⟩ := mem_starKeys.mp h
    rw [List.mem_singleton.mp hstar, hkey] at hsame
    exact absurd hsame (by decide)
  have hsays := says_unknownHome_iff.mpr ⟨rfl, hadvised⟩
  have hmem : unknownHome spelledHome.starKeys "1.0, 1.0" ∈ spelledHome.homeFindings := by
    rw [homeFindings_eq_append]
    exact List.mem_append_left _ (List.mem_map_of_mem hunknown)
  obtain ⟨-, -, hfewer, hhome⟩ := (homeFindings_exact spelledHome).2.2 _ hmem _ _ hsays
  exact ⟨_, hmem, hsays, hfewer, (hhome _ (List.mem_singleton_self _) hkey).1 hpotential⟩

end GalaxyMap
end GalaxyScenario
