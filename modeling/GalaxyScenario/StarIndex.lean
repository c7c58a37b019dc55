import GalaxyScenario.Point
import Std.Data.ExtTreeMap

/-!
Star ids. The id of a position is the place in the list of stars where its key occurs first, so
stars that share a position share an id.
-/
namespace GalaxyScenario

structure StarIndex where
  ids : Std.ExtTreeMap String Nat compare

namespace StarIndex

/-- The index of a list of keys; a key that is already there keeps its id. -/
def ofKeys (keys : List String) : StarIndex :=
  ⟨keys.zipIdx.foldl (fun ids (key, i) => ids.insertIfNew key i) ∅⟩

def ofStars (stars : List Point) : StarIndex := ofKeys (stars.map Point.key)

def idOfKey? (index : StarIndex) (key : String) : Option Nat := index.ids[key]?

def id? (index : StarIndex) (p : Point) : Option Nat := index.idOfKey? p.key

def isFirst (index : StarIndex) (i : Nat) (p : Point) : Bool := index.id? p == some i

def size (index : StarIndex) : Nat := index.ids.size

def isEmpty (index : StarIndex) : Bool := index.ids.isEmpty

theorem getElem?_foldl_insertIfNew (keys : List String) (start : Nat)
    (ids : Std.ExtTreeMap String Nat compare) (key : String) :
    ((keys.zipIdx start).foldl (fun ids (key, i) => ids.insertIfNew key i) ids)[key]? =
      ids[key]?.or ((keys.idxOf? key).map (· + start)) := by
  induction keys generalizing start ids with
  | nil => simp
  | cons k rest ih =>
    rw [List.zipIdx_cons, List.foldl_cons, ih, Std.ExtTreeMap.getElem?_insertIfNew]
    by_cases hk : k = key
    · subst hk
      by_cases hm : k ∈ ids
      · simp [hm]
      · simp [hm, List.idxOf?_cons]
    · simp [hk, List.idxOf?_cons, Function.comp_def, Nat.add_assoc, Nat.add_comm 1]

/-- The id of a key is the first place where it stands. -/
theorem idOfKey?_ofKeys (keys : List String) (key : String) :
    (ofKeys keys).idOfKey? key = keys.idxOf? key := by
  simp [ofKeys, idOfKey?, getElem?_foldl_insertIfNew]

end StarIndex

/-- A star with its place in the list of stars and its key. -/
structure ListedStar where
  index : Nat
  position : Point
  key : String
  deriving Repr

structure StarRoll where
  stars : List ListedStar
  ids : StarIndex

namespace StarRoll

/-- The roll of a list of stars. Each key is written once. -/
def ofStars (stars : List Point) : StarRoll :=
  let listed := stars.zipIdx.map fun (star, index) => (⟨index, star, star.key⟩ : ListedStar)
  ⟨listed, .ofKeys (listed.map (·.key))⟩

def isFirst (roll : StarRoll) (star : ListedStar) : Bool :=
  roll.ids.idOfKey? star.key == some star.index

def firsts (roll : StarRoll) : List ListedStar := roll.stars.filter roll.isFirst

/-- The keys of the roll are those of the stars, in their order. -/
theorem map_key_stars_ofStars (stars : List Point) :
    (ofStars stars).stars.map ListedStar.key = stars.map Point.key := by
  calc (ofStars stars).stars.map ListedStar.key
      = stars.zipIdx.map (Point.key ∘ Prod.fst) := List.map_map
    _ = (stars.zipIdx.map Prod.fst).map Point.key := List.map_map.symm
    _ = stars.map Point.key := by rw [List.zipIdx_map_fst]

theorem ids_ofStars (stars : List Point) : (ofStars stars).ids = .ofStars stars :=
  congrArg StarIndex.ofKeys (map_key_stars_ofStars stars)

end StarRoll
end GalaxyScenario
