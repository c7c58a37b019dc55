import Std.Data.ExtTreeSet

/-!
Sets of star keys. Two sets with the same keys are equal, and their keys come in increasing order
of their characters, which is also the order of their bytes.
-/
namespace GalaxyScenario

abbrev KeySet := Std.ExtTreeSet String compare

namespace KeySet

def ofList (keys : List String) : KeySet := Std.ExtTreeSet.ofList keys compare

/-- The set with one key put in the place of another, if it holds that other. -/
def replace (s : KeySet) (old new : String) : KeySet :=
  if s.contains old then (s.erase old).insert new else s

@[simp] theorem mem_ofList {keys : List String} {key : String} :
    key ∈ ofList keys ↔ key ∈ keys := by
  simp [ofList, Std.ExtTreeSet.mem_ofList]

theorem mem_replace {s : KeySet} {old new key : String} :
    key ∈ s.replace old new ↔ if old ∈ s then key = new ∨ key ∈ s ∧ key ≠ old else key ∈ s := by
  unfold replace
  by_cases h : old ∈ s
  · rw [if_pos h, if_pos (Std.ExtTreeSet.mem_iff_contains.1 h)]
    simp only [Std.ExtTreeSet.mem_insert, Std.ExtTreeSet.mem_erase, Std.compare_eq_iff_eq, ne_eq]
    rw [eq_comm, and_comm, @eq_comm _ old]
  · simp [h]

end KeySet
end GalaxyScenario
