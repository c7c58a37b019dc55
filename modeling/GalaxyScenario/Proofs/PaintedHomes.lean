import GalaxyScenario.Finding
import GalaxyScenario.Proofs.StarIdentity

/-! Home stars of a map that was painted step by step. Each home key is the key of a position that
was marked, and reading such a key and writing it again changes nothing. So a home star may be no
star, but its key is never another spelling of the key of a star. -/
namespace GalaxyScenario
open Binary64

namespace Point

theorem key_unsignedZeros (p : Point) : p.unsignedZeros.key = p.key := by
  rw [key_eq_key_iff, unsignedZeros, unsignedZeros, unsignedZero_unsignedZero,
    unsignedZero_unsignedZero]

end Point

namespace GalaxyMap

def Edit.marked? : Edit → Option Point
  | .potentialHome p | .preferredHome p => some p
  | .star _ | .hyperlane _ | .wormhole _ => none

def homeKeys (m : GalaxyMap) : KeySet := m.potentialHomes ∪ m.preferredHomes

theorem mem_homeKeys_apply {m : GalaxyMap} {e : Edit} {key : String} :
    key ∈ (m.apply e).homeKeys ↔ key ∈ m.homeKeys ∨ ∃ p ∈ e.marked?, p.key = key := by
  cases e <;>
    simp [apply, homeKeys, Edit.marked?, addStar, addHyperlane, addWormhole, addPotentialHome,
      addPreferredHome] <;> tauto

theorem mem_homeKeys_applyAll {m : GalaxyMap} {edits : List Edit} {key : String} :
    key ∈ (m.applyAll edits).homeKeys ↔
      key ∈ m.homeKeys ∨ ∃ e ∈ edits, ∃ p ∈ e.marked?, p.key = key := by
  induction edits generalizing m with
  | nil => simp [applyAll]
  | cons e rest ih =>
    change key ∈ ((m.apply e).applyAll rest).homeKeys ↔ _
    rw [ih, mem_homeKeys_apply, List.exists_mem_cons_iff, or_assoc]

/-- A key that was written for a position is not taken for another spelling. -/
theorem unknownHome_key {keys : KeySet} {p : Point} (h : p.key ∉ keys) :
    unknownHome keys p.key = .unknownHome p.key := by
  have hother : keys.contains p.unsignedZeros.key = false := by
    rw [Point.key_unsignedZeros, Bool.eq_false_iff, ne_eq, ← Std.ExtTreeSet.mem_iff_contains]
    exact h
  unfold unknownHome
  rw [Point.ofKey_key]
  simp [hother]

variable {stars : List Point} {edits : List Edit}

theorem exists_marked_of_mem_homeKeys {key : String}
    (h : key ∈ ((ofStars stars).applyAll edits).homeKeys) :
    ∃ e ∈ edits, ∃ p ∈ e.marked?, p.key = key := by
  rcases mem_homeKeys_applyAll.mp h with hnone | hmarked
  · simp [homeKeys, ofStars] at hnone
  · exact hmarked

/-- A finding about a home star of a painted map names a marked position by its key. -/
theorem exists_marked_of_mem_homeFindings {f : Finding}
    (h : f ∈ ((ofStars stars).applyAll edits).homeFindings) :
    ∃ e ∈ edits, ∃ p ∈ e.marked?,
      (f = .unknownHome p.key ∧
          ∀ star ∈ ((ofStars stars).applyAll edits).stars, star.key ≠ p.key) ∨
        f = .preferredNotPotential p.key := by
  generalize hm : (ofStars stars).applyAll edits = m at h ⊢
  have hmarked : ∀ key ∈ m.homeKeys, ∃ e ∈ edits, ∃ p ∈ e.marked?, p.key = key := by
    rw [← hm]
    exact fun key => exists_marked_of_mem_homeKeys
  rcases List.mem_append.mp h with h | h
  · obtain ⟨key, hkey, rfl⟩ := List.mem_map.mp h
    obtain ⟨hhome, hstar⟩ := List.mem_filter.mp hkey
    obtain ⟨e, he, p, hp, rfl⟩ := hmarked key (Std.ExtTreeSet.mem_toList.mp hhome)
    have hno : p.key ∉ m.starKeys := by
      rw [Bool.not_eq_true', Bool.eq_false_iff] at hstar
      exact fun hmem => hstar (Std.ExtTreeSet.mem_iff_contains.mp hmem)
    refine ⟨e, he, p, hp, .inl ⟨unknownHome_key hno, ?_⟩⟩
    simpa [starKeys] using hno
  · obtain ⟨key, hkey, rfl⟩ := List.mem_map.mp h
    have hpreferred : key ∈ m.homeKeys := by
      simp only [Std.ExtTreeSet.mem_toList, Std.ExtTreeSet.mem_diff_iff] at hkey
      simp [homeKeys, hkey.1]
    obtain ⟨e, he, p, hp, rfl⟩ := hmarked key hpreferred
    exact ⟨e, he, p, hp, .inr rfl⟩

/-- No finding about a painted map asks for another spelling of a home key. A home star that is
reported as unknown is a position that was marked, and no star has its key. -/
theorem homeFindings_of_applyAll (stars : List Point) (edits : List Edit) :
    (∀ f ∈ ((ofStars stars).applyAll edits).homeFindings,
        ¬ "is not written canonically".toList <:+: f.message.toList) ∧
      ∀ f ∈ ((ofStars stars).applyAll edits).homeFindings, f.category = "unknown_home_star" →
        ∃ e ∈ edits, ∃ p ∈ e.marked?, f = .unknownHome p.key ∧
          ∀ star ∈ ((ofStars stars).applyAll edits).stars, star.key ≠ p.key := by
  constructor
  · intro f hf hsays
    obtain ⟨e, -, p, -, hfinding⟩ := exists_marked_of_mem_homeFindings hf
    have hletter : 'w' ∈ f.message.toList := hsays.subset (by simp)
    have hkey : 'w' ∉ p.key.toList := p.notMem_key (by decide) (by decide)
    rcases hfinding with ⟨rfl, -⟩ | rfl
    · change 'w' ∈ ("Home star (" ++ p.key ++ ") does not match any star").toList at hletter
      simp [hkey] at hletter
    · change 'w' ∈ ("Preferred home star (" ++ p.key ++
        ") is not a potential home star and is ignored").toList at hletter
      simp [hkey] at hletter
  · intro f hf hcategory
    obtain ⟨e, he, p, hp, ⟨rfl, hstars⟩ | rfl⟩ := exists_marked_of_mem_homeFindings hf
    · exact ⟨e, he, p, hp, rfl, hstars⟩
    · simp [Finding.category] at hcategory

end GalaxyMap
end GalaxyScenario
