import GalaxyScenario.Proofs.FindingMessages
import GalaxyScenario.Proofs.Text.ByteOrder
import GalaxyScenario.Proofs.WormholeEnds
import Mathlib.Data.List.Lex
import Mathlib.Data.Prod.Lex

/-! Stars at which several wormholes end. The report gathers the pairs of each key in a table and
lists the table by the bytes of the keys; the flags of a star come from a search through the pairs.
Both find the same pairs, and the report is the same in whatever order the table is gone through. -/
namespace GalaxyScenario

namespace Wormhole

/-- The pairs with an end of that key, each once and in their order. -/
structure PairsOf (wormholes : List Link) (key : String) (pairs : List Nat) : Prop where
  increasing : pairs.Pairwise (· < ·)
  mem_iff : ∀ pair, pair ∈ pairs ↔
    ∃ link, wormholes[pair]? = some link ∧ (link.first.key = key ∨ link.second.key = key)

theorem pairsOf_pairsAt (wormholes : List Link) (key : String) :
    PairsOf wormholes key (pairsAt (endKeys wormholes) key) :=
  ⟨pairsAt_increasing wormholes key, fun _ => mem_pairsAt⟩

theorem PairsOf.eq {wormholes : List Link} {key : String} {pairs others : List Nat}
    (h : PairsOf wormholes key pairs) (h' : PairsOf wormholes key others) : pairs = others :=
  h.increasing.eq_of_mem_iff h'.increasing fun pair => (h.mem_iff pair).trans (h'.mem_iff pair).symm

def note (table : Std.ExtTreeMap String (List Nat) compare) (key : String) (pair : Nat) :
    Std.ExtTreeMap String (List Nat) compare :=
  table.alter key fun pairs => some (pairs.getD [] ++ [pair])

/-- One step of gathering: a pair is noted at each of its ends, once if they are the same. -/
def noteEnds (table : Std.ExtTreeMap String (List Nat) compare) (ends : (String × String) × Nat) :
    Std.ExtTreeMap String (List Nat) compare :=
  if ends.1.1 == ends.1.2 then note table ends.1.1 ends.2
  else note (note table ends.1.1 ends.2) ends.1.2 ends.2

theorem getD_note (table : Std.ExtTreeMap String (List Nat) compare) (noted key : String)
    (pair : Nat) : (note table noted pair).getD key [] =
      table.getD key [] ++ if noted = key then [pair] else [] := by
  simp only [note, Std.ExtTreeMap.getD_eq_getD_getElem?, Std.ExtTreeMap.getElem?_alter]
  by_cases h : noted = key <;> simp [h]

theorem getD_noteEnds (table : Std.ExtTreeMap String (List Nat) compare)
    (ends : (String × String) × Nat) (key : String) :
    (noteEnds table ends).getD key [] = table.getD key [] ++ pairsAt [ends] key := by
  obtain ⟨⟨first, second⟩, pair⟩ := ends
  by_cases hloop : first = second
  · by_cases hkey : second = key <;> simp [noteEnds, getD_note, pairsAt, hloop, hkey]
  · -- Only one of two different ends can have the key.
    have hone : ¬ (first = key ∧ second = key) := fun h => hloop (h.1.trans h.2.symm)
    by_cases hfirst : first = key <;> by_cases hsecond : second = key <;>
      simp_all [noteEnds, getD_note, pairsAt]

theorem getD_foldl_noteEnds (list : List ((String × String) × Nat))
    (table : Std.ExtTreeMap String (List Nat) compare) (key : String) :
    (list.foldl noteEnds table).getD key [] = table.getD key [] ++ pairsAt list key := by
  induction list generalizing table with
  | nil => simp [pairsAt]
  | cons ends rest ih =>
    rw [List.foldl_cons, ih, getD_noteEnds, List.append_assoc]
    congr 1
    exact (List.filterMap_append (l := [ends])).symm

def isFlag (flag : String) : Bool := "painted_galaxy_wormhole_".toList.isPrefixOf flag.toList

theorem isFlag_flag (pair : Nat) : isFlag (flag pair) = true :=
  List.isPrefixOf_iff_prefix.mpr ⟨(toString pair).toList, String.toList_append.symm⟩

theorem not_isFlag_of_kindLetter {flag : String} (h : SpawnZone.kindLetter flag = some 'f') :
    isFlag flag = false := by
  rw [Bool.eq_false_iff, ne_eq, isFlag, List.isPrefixOf_iff_prefix]
  rintro ⟨rest, hrest⟩
  rw [SpawnZone.kindLetter, ← hrest] at h
  simp at h

end Wormhole

namespace GalaxyMap
open Text Wormhole

theorem getD_wormholesByEnd (m : GalaxyMap) (key : String) :
    m.wormholesByEnd.getD key [] = pairsAt (endKeys m.wormholes) key := by
  have htable : m.wormholesByEnd = (endKeys m.wormholes).foldl noteEnds ∅ := rfl
  rw [htable, getD_foldl_noteEnds]
  simp [Std.ExtTreeMap.getD_eq_getD_getElem?]

theorem mem_wormholesByEnd_iff {m : GalaxyMap} {key : String} {pairs : List Nat} (h : pairs ≠ []) :
    (key, pairs) ∈ m.wormholesByEnd.toList ↔ pairs = pairsAt (endKeys m.wormholes) key := by
  rw [Std.ExtTreeMap.mem_toList_iff_getElem?_eq_some, ← getD_wormholesByEnd,
    Std.ExtTreeMap.getD_eq_getD_getElem?]
  cases hentry : m.wormholesByEnd[key]? with
  | none => simp [h]
  | some found => simp [eq_comm]

theorem wormholesByEnd_increasing (m : GalaxyMap) :
    m.wormholesByEnd.toList.Pairwise fun a b => bytes a.1 < bytes b.1 :=
  m.wormholesByEnd.ordered_keys_toList.imp compare_eq_lt_iff_bytes.mp

/-- The keys of several pairs with their pairs, as the table has them. -/
def sharedEnds (m : GalaxyMap) : List (String × List Nat) :=
  m.wormholesByEnd.toList.filter fun entry => 1 < entry.2.length

theorem sharedWormholeEnds_eq_map (m : GalaxyMap) :
    m.sharedWormholeEnds = m.sharedEnds.map fun entry => .sharedWormholeEnd entry.1 entry.2 := by
  rw [sharedWormholeEnds, sharedEnds]
  induction m.wormholesByEnd.toList with
  | nil => rfl
  | cons entry rest ih => by_cases h : 1 < entry.2.length <;> simp [h, ih]

theorem sharedEnds_increasing (m : GalaxyMap) :
    m.sharedEnds.Pairwise fun a b => bytes a.1 < bytes b.1 :=
  m.wormholesByEnd_increasing.filter _

theorem mem_sharedEnds_iff {m : GalaxyMap} {key : String} {pairs : List Nat} :
    (key, pairs) ∈ m.sharedEnds ↔ PairsOf m.wormholes key pairs ∧ 2 ≤ pairs.length := by
  rw [sharedEnds, List.mem_filter, decide_eq_true_iff]
  refine and_congr_left fun hseveral => ?_
  rw [mem_wormholesByEnd_iff (List.ne_nil_of_length_pos (Nat.zero_lt_of_lt hseveral))]
  constructor
  · rintro rfl
    exact pairsOf_pairsAt _ _
  · exact fun h => h.eq (pairsOf_pairsAt _ _)

/-- The report names a key exactly if several pairs have an end there. -/
theorem exists_says_sharedWormholeEnds_iff {m : GalaxyMap} {key : String} :
    (∃ f ∈ m.sharedWormholeEnds, ∃ found, f.Says "wormhole_reuse" found [key]) ↔
      ∃ found, PairsOf m.wormholes key found ∧ 2 ≤ found.length := by
  simp only [sharedWormholeEnds_eq_map, List.mem_map, ← mem_sharedEnds_iff]
  constructor
  · rintro ⟨_, ⟨⟨named, pairs⟩, hmem, rfl⟩, found, -, hmessage⟩
    obtain ⟨-, hkeys⟩ := hmessage.unique (Finding.says_sharedWormholeEnd named pairs).2
    obtain rfl : key = named := List.singleton_inj.mp hkeys
    exact ⟨pairs, hmem⟩
  · rintro ⟨found, hmem⟩
    exact ⟨_, ⟨(key, found), hmem, rfl⟩, found, Finding.says_sharedWormholeEnd key found⟩

/-- Entries of the table are ordered by the bytes of their keys and then by their pairs. -/
def rank (entry : String × List Nat) : List Nat ×ₗ List Nat := toLex (bytes entry.1, entry.2)

theorem rank_injective : Function.Injective rank := by
  intro a b h
  obtain ⟨hkey, hpairs⟩ := Prod.mk.inj (toLex.injective h)
  exact Prod.ext (bytes_strictMono.injective hkey) hpairs

/-- The report on shared ends from a table that is gone through in some order. -/
def sharedEndsReport (table : List (String × List Nat)) : List Finding :=
  ((table.filter fun entry => 1 < entry.2.length).mergeSort
    fun a b => decide (rank a ≤ rank b)).map fun entry => .sharedWormholeEnd entry.1 entry.2

theorem sharedEndsReport_eq {m : GalaxyMap} {table : List (String × List Nat)}
    (h : table.Perm m.wormholesByEnd.toList) :
    sharedEndsReport table = m.sharedWormholeEnds := by
  rw [sharedEndsReport, sharedWormholeEnds_eq_map]
  congr 1
  refine @List.Perm.eq_of_pairwise _ (fun a b => decide (rank a ≤ rank b) = true) _ _ ?_ ?_ ?_ ?_
  · intro a b _ _ hab hba
    exact rank_injective (le_antisymm (of_decide_eq_true hab) (of_decide_eq_true hba))
  · refine List.pairwise_mergeSort ?_ ?_ _
    · intro a b c hab hbc
      exact decide_eq_true ((of_decide_eq_true hab).trans (of_decide_eq_true hbc))
    · intro a b
      simpa using le_total (rank a) (rank b)
  · exact m.sharedEnds_increasing.imp fun hlt =>
      decide_eq_true (Prod.Lex.toLex_lt_toLex.mpr (.inl hlt)).le
  · exact (List.mergeSort_perm _ _).trans (h.filter _)

theorem filter_isFlag_system (m : GalaxyMap) (config : Config) (zones : List SpawnZone)
    (star : ListedStar) :
    (m.system config zones (endKeys m.wormholes) star).flags.filter isFlag =
      (m.wormholesByEnd.getD star.key []).map flag := by
  have hzones : (SpawnZone.flags zones star.index).filter isFlag = [] := by
    rw [List.filter_eq_nil_iff]
    intro f hf
    simp [not_isFlag_of_kindLetter (SpawnZone.kindLetter_of_mem_flags hf)]
  have hpairs : (flags (endKeys m.wormholes) star.key).filter isFlag =
      flags (endKeys m.wormholes) star.key := by
    rw [List.filter_eq_self]
    intro f hf
    obtain ⟨pair, -, rfl⟩ := List.mem_map.mp hf
    exact isFlag_flag pair
  rw [system, List.filter_append, hzones, hpairs, List.nil_append, getD_wormholesByEnd, flags]

/-- The report on shared ends does not depend on the order in which its table is gone through. It
has one warning for each key of several pairs, by increasing bytes, whose message names the key and
lists all pairs of the key in their order. These pairs are the flags that the system of a star with
the key has for wormholes, so the flags are several exactly if a message names the key. -/
theorem sharedWormholeEnds_exact (m : GalaxyMap) (config : Config) :
    (∀ table : List (String × List Nat), table.Perm m.wormholesByEnd.toList →
        sharedEndsReport table = m.sharedWormholeEnds) ∧
      (∃ ends : List (String × List Nat),
        List.Forall₂ (fun entry f => f.severity = .warning ∧
            f.Says "wormhole_reuse" entry.2 [entry.1]) ends m.sharedWormholeEnds ∧
          ends.Pairwise (fun a b => bytes a.1 < bytes b.1) ∧
          ∀ key pairs, (key, pairs) ∈ ends ↔ PairsOf m.wormholes key pairs ∧ 2 ≤ pairs.length) ∧
      ∀ s ∈ (m.compile config).scenario.systems, ∃ key pairs, m.ownedKey? s = some key ∧
        PairsOf m.wormholes key pairs ∧ m.wormholesByEnd.getD key [] = pairs ∧
        s.flags.filter isFlag = pairs.map flag ∧
        (2 ≤ (s.flags.filter isFlag).length ↔
          ∃ f ∈ m.sharedWormholeEnds, ∃ found, f.Says "wormhole_reuse" found [key]) := by
  refine ⟨fun table => sharedEndsReport_eq, ?_, ?_⟩
  · refine ⟨m.sharedEnds, ?_, m.sharedEnds_increasing, fun _ _ => mem_sharedEnds_iff⟩
    rw [sharedWormholeEnds_eq_map, List.forall₂_map_right_iff, List.forall₂_same]
    exact fun entry _ => ⟨rfl, Finding.says_sharedWormholeEnd entry.1 entry.2⟩
  · intro s hs
    obtain ⟨star, hstar, rfl⟩ := mem_compile_systems.mp hs
    have hpairs := pairsOf_pairsAt m.wormholes star.key
    rw [← getD_wormholesByEnd] at hpairs
    have hflags := m.filter_isFlag_system config (m.spawnZones config) star
    refine ⟨star.key, _, ownedKey?_system hstar _ _ _, hpairs, rfl, hflags, ?_⟩
    rw [hflags, List.length_map, exists_says_sharedWormholeEnds_iff]
    constructor
    · exact fun hseveral => ⟨_, hpairs, hseveral⟩
    · rintro ⟨found, hfound, hseveral⟩
      rwa [hpairs.eq hfound]

end GalaxyMap
end GalaxyScenario
