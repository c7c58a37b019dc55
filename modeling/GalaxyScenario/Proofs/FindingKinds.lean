import GalaxyScenario.Finding
import Mathlib.Data.List.Nodup

/-! Findings by category. Each check reports under a category of its own, so the findings of one
category are those of one check in its order, and a map has errors exactly when it has dangling
ends. Nothing is said here about what a check looks for. -/
namespace GalaxyScenario

/-- From lists with different labels, the elements of one label are one of the lists. -/
theorem filter_flatMap_of_labels {α : Type} {label : α → String} {table : List (String × List α)}
    (hlabel : ∀ entry ∈ table, ∀ a ∈ entry.2, label a = entry.1)
    (hnodup : (table.map Prod.fst).Nodup) {entry : String × List α} (h : entry ∈ table) :
    (table.flatMap Prod.snd).filter (label · == entry.1) = entry.2 := by
  induction table with
  | nil => cases h
  | cons first rest ih =>
    simp only [List.map_cons, List.nodup_cons, List.mem_map] at hnodup
    simp only [List.forall_mem_cons] at hlabel
    rw [List.flatMap_cons, List.filter_append]
    rcases List.mem_cons.mp h with rfl | h
    · have hown : entry.2.filter (label · == entry.1) = entry.2 :=
        List.filter_eq_self.mpr fun a ha => by simp [hlabel.1 a ha]
      have hother : (rest.flatMap Prod.snd).filter (label · == entry.1) = [] := by
        simp only [List.filter_eq_nil_iff, List.mem_flatMap, beq_iff_eq]
        rintro a ⟨other, hmem, ha⟩ heq
        exact hnodup.1 ⟨other, hmem, (hlabel.2 other hmem a ha).symm.trans heq⟩
      rw [hown, hother, List.append_nil]
    · have hother : first.2.filter (label · == entry.1) = [] := by
        simp only [List.filter_eq_nil_iff, beq_iff_eq]
        intro a ha heq
        exact hnodup.1 ⟨entry, h, heq.symm.trans (hlabel.1 a ha)⟩
      rw [hother, List.nil_append, ih hlabel.2 hnodup.2 h]

namespace Finding

/-- The findings of one category. -/
def ofCategory (category : String) (findings : List Finding) : List Finding :=
  findings.filter (·.category == category)

theorem isError_iff (f : Finding) :
    f.isError = true ↔ f.category = "dangling_connection" ∨ f.category = "dangling_wormhole" := by
  cases f <;> simp [isError, severity, category]

theorem ofCategory_eq_nil_iff {category : String} {findings : List Finding} :
    ofCategory category findings = [] ↔ ∀ f ∈ findings, f.category ≠ category := by
  simp [ofCategory, List.filter_eq_nil_iff]

end Finding

namespace GalaxyMap
open Finding

variable {m : GalaxyMap} {config : Config}

/-- What each check finds, by category. -/
def checks (m : GalaxyMap) (config : Config) : List (String × List Finding) :=
  [("star_bounds", m.starsOutside config), ("duplicate_star", m.duplicateStars),
    ("dangling_connection", m.danglingHyperlanes), ("long_connection", m.longHyperlanes),
    ("dangling_wormhole", m.danglingWormholes), ("wormhole_reuse", m.sharedWormholeEnds),
    ("unknown_home_star", m.unknownHomes), ("preferred_not_potential", m.preferredOnly)]

theorem flatMap_checks (m : GalaxyMap) (config : Config) :
    (m.checks config).flatMap Prod.snd = m.findings config := by
  simp [checks, findings, homeFindings]

theorem category_unknownHome (keys : KeySet) (key : String) :
    (unknownHome keys key).category = "unknown_home_star" := by
  unfold unknownHome
  split
  · split <;> rfl
  · rfl

theorem category_of_mem_checks :
    ∀ entry ∈ m.checks config, ∀ f ∈ entry.2, f.category = entry.1 := by
  simp only [checks, List.forall_mem_cons]
  refine ⟨?_, ?_, ?_, ?_, ?_, ?_, ?_, ?_, by simp⟩
  · grind [starsOutside, category]
  · grind [duplicateStars, category]
  · grind [danglingHyperlanes, category]
  · grind [longHyperlanes, category]
  · grind [danglingWormholes, category]
  · grind [sharedWormholeEnds, category]
  · grind [unknownHomes, category_unknownHome]
  · grind [preferredOnly, category]

/-- The findings of a category are those of its check. -/
theorem ofCategory_findings {category : String} {found : List Finding}
    (h : (category, found) ∈ m.checks config) :
    ofCategory category (m.findings config) = found := by
  rw [← flatMap_checks]
  exact filter_flatMap_of_labels category_of_mem_checks (by simp [checks]) h

@[simp] theorem ofCategory_duplicate_star (m : GalaxyMap) (config : Config) :
    ofCategory "duplicate_star" (m.findings config) = m.duplicateStars :=
  ofCategory_findings (by simp [checks])

@[simp] theorem ofCategory_dangling_connection (m : GalaxyMap) (config : Config) :
    ofCategory "dangling_connection" (m.findings config) = m.danglingHyperlanes :=
  ofCategory_findings (by simp [checks])

@[simp] theorem ofCategory_dangling_wormhole (m : GalaxyMap) (config : Config) :
    ofCategory "dangling_wormhole" (m.findings config) = m.danglingWormholes :=
  ofCategory_findings (by simp [checks])

@[simp] theorem ofCategory_unknown_home_star (m : GalaxyMap) (config : Config) :
    ofCategory "unknown_home_star" (m.findings config) = m.unknownHomes :=
  ofCategory_findings (by simp [checks])

/-- A map has no errors exactly when no end of a hyperlane or wormhole dangles. -/
theorem hasErrors_findings_eq_false_iff (m : GalaxyMap) (config : Config) :
    hasErrors (m.findings config) = false ↔
      m.danglingHyperlanes = [] ∧ m.danglingWormholes = [] := by
  rw [← ofCategory_dangling_connection m config, ← ofCategory_dangling_wormhole m config,
    ofCategory_eq_nil_iff, ofCategory_eq_nil_iff]
  simp only [hasErrors, List.any_eq_false, isError_iff, not_or]
  exact forall₂_and

end GalaxyMap
end GalaxyScenario
