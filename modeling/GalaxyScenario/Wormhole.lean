import GalaxyScenario.GalaxyMap

/-!
The flags of wormholes. Both ends of a pair carry the flag of the pair, and a star that is an end
of several pairs carries the flags of all of them.
-/
namespace GalaxyScenario.Wormhole

def flag (pair : Nat) : String := "painted_galaxy_wormhole_" ++ toString pair

/-- The keys of the two ends of each pair, with the index of the pair. -/
def endKeys (wormholes : List Link) : List ((String × String) × Nat) :=
  (wormholes.map fun link => (link.first.key, link.second.key)).zipIdx

def pairsAt (ends : List ((String × String) × Nat)) (key : String) : List Nat :=
  ends.filterMap fun ((first, second), pair) =>
    if first == key || second == key then some pair else none

/-- The flags of the star with that key, in the order of the pairs. -/
def flags (ends : List ((String × String) × Nat)) (key : String) : List String :=
  (pairsAt ends key).map flag

theorem mem_pairsAt {wormholes : List Link} {key : String} {pair : Nat} :
    pair ∈ pairsAt (endKeys wormholes) key ↔
      ∃ link, wormholes[pair]? = some link ∧ (link.first.key = key ∨ link.second.key = key) := by
  simp only [pairsAt, endKeys, List.mem_filterMap, Prod.exists, List.mk_mem_zipIdx_iff_getElem?,
    List.getElem?_map, Option.map_eq_some_iff, Option.ite_none_right_eq_some, Option.some.injEq,
    Bool.or_eq_true, beq_iff_eq]
  constructor
  · rintro ⟨_, _, _, ⟨link, hl, he⟩, h, rfl⟩
    cases he
    exact ⟨link, hl, h⟩
  · rintro ⟨link, hl, h⟩
    exact ⟨_, _, pair, ⟨link, hl, rfl⟩, h, rfl⟩

end GalaxyScenario.Wormhole
