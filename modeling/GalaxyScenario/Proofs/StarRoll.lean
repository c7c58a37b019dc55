import GalaxyScenario.StarIndex
import Mathlib.Order.Bounds.Basic

/-! The stars of a roll by the places at which their keys occur. The first stars of a roll are one
for each key, each at the least place of its key, in the order of these places. -/
namespace GalaxyScenario

theorem zipIdx_pairwise_snd {α : Type} (l : List α) : l.zipIdx.Pairwise (·.2 < ·.2) := by
  have h := List.pairwise_lt_range (n := l.length)
  rwa [List.range_eq_range', ← List.zipIdx_map_snd 0 l, List.pairwise_map] at h

/-- The places at which a key occurs in a list of stars. -/
def placesOf (stars : List Point) (key : String) : Set Nat :=
  {i | stars[i]?.map Point.key = some key}

theorem mem_placesOf {stars : List Point} {key : String} {i : Nat} :
    i ∈ placesOf stars key ↔ ∃ star, stars[i]? = some star ∧ star.key = key :=
  Option.map_eq_some_iff

namespace StarIndex

/-- A key has the least of its places for an id. -/
theorem idOfKey?_ofStars_eq_some {stars : List Point} {key : String} {i : Nat} :
    (ofStars stars).idOfKey? key = some i ↔ IsLeast (placesOf stars key) i := by
  have hplace (j : Nat) : j ∈ placesOf stars key ↔ (stars.map Point.key)[j]? = some key := by
    rw [List.getElem?_map]
    rfl
  rw [ofStars, idOfKey?_ofKeys, List.idxOf?_eq_some_iff]
  constructor
  · rintro ⟨hi, hkey, hmin⟩
    refine ⟨(hplace i).mpr (List.getElem?_eq_some_iff.mpr ⟨hi, hkey⟩), fun j hj => ?_⟩
    obtain ⟨hlen, hjkey⟩ := List.getElem?_eq_some_iff.mp ((hplace j).mp hj)
    exact Nat.le_of_not_lt fun hlt => hmin j hlt hjkey
  · rintro ⟨hi, hmin⟩
    obtain ⟨hlen, hkey⟩ := List.getElem?_eq_some_iff.mp ((hplace i).mp hi)
    refine ⟨hlen, hkey, fun j hlt hjkey => ?_⟩
    have hle := hmin ((hplace j).mpr (List.getElem?_eq_some_iff.mpr ⟨by omega, hjkey⟩))
    omega

/-- Only a key that no star has is without an id. -/
theorem idOfKey?_ofStars_eq_none {stars : List Point} {key : String} :
    (ofStars stars).idOfKey? key = none ↔ ∀ star ∈ stars, star.key ≠ key := by
  rw [ofStars, idOfKey?_ofKeys, List.idxOf?_eq_none_iff]
  simp

end StarIndex

theorem exists_isLeast_placesOf {stars : List Point} {star : Point} (h : star ∈ stars) :
    ∃ i, IsLeast (placesOf stars star.key) i := by
  cases hid : (StarIndex.ofStars stars).idOfKey? star.key with
  | none => exact absurd rfl (StarIndex.idOfKey?_ofStars_eq_none.mp hid star h)
  | some i => exact ⟨i, StarIndex.idOfKey?_ofStars_eq_some.mp hid⟩

namespace StarRoll

theorem mem_stars_ofStars {stars : List Point} {star : ListedStar} :
    star ∈ (ofStars stars).stars ↔
      stars[star.index]? = some star.position ∧ star.key = star.position.key := by
  simp only [ofStars, List.mem_map, Prod.exists, List.mk_mem_zipIdx_iff_getElem?]
  constructor
  · rintro ⟨p, i, hp, rfl⟩
    exact ⟨hp, rfl⟩
  · rintro ⟨hp, hkey⟩
    exact ⟨star.position, star.index, hp, by rw [← hkey]⟩

theorem map_index_stars_ofStars (stars : List Point) :
    (ofStars stars).stars.map (·.index) = List.range stars.length := by
  simp [ofStars, List.range_eq_range', Function.comp_def]

/-- A star is among the first ones when no earlier star has its key. -/
theorem mem_firsts_ofStars {stars : List Point} {star : ListedStar} :
    star ∈ (ofStars stars).firsts ↔ stars[star.index]? = some star.position ∧
      star.key = star.position.key ∧ IsLeast (placesOf stars star.key) star.index := by
  rw [firsts, List.mem_filter, mem_stars_ofStars, isFirst, ids_ofStars, beq_iff_eq,
    StarIndex.idOfKey?_ofStars_eq_some, and_assoc]

theorem firsts_pairwise_index (stars : List Point) :
    (ofStars stars).firsts.Pairwise (·.index < ·.index) := by
  apply List.Pairwise.filter
  rw [ofStars, List.pairwise_map]
  exact zipIdx_pairwise_snd stars

theorem existsUnique_first {stars : List Point} {star : Point} (h : star ∈ stars) :
    ∃! first, first ∈ (ofStars stars).firsts ∧ first.key = star.key := by
  obtain ⟨i, hleast⟩ := exists_isLeast_placesOf h
  obtain ⟨p, hp, hkey⟩ := mem_placesOf.mp hleast.1
  refine ⟨⟨i, p, star.key⟩, ⟨mem_firsts_ofStars.mpr ⟨hp, hkey.symm, hleast⟩, rfl⟩, ?_⟩
  rintro ⟨j, q, key⟩ ⟨hmem, rfl⟩
  obtain ⟨hq, -, hleast'⟩ := mem_firsts_ofStars.mp hmem
  obtain rfl : j = i := hleast'.unique hleast
  obtain rfl : q = p := Option.some.inj (hq.symm.trans hp)
  rfl

theorem eq_of_mem_stars {stars : List Point} {s t : ListedStar}
    (hs : s ∈ (ofStars stars).stars) (ht : t ∈ (ofStars stars).stars)
    (h : s.index = t.index) : s = t := by
  obtain ⟨hs, hskey⟩ := mem_stars_ofStars.mp hs
  obtain ⟨ht, htkey⟩ := mem_stars_ofStars.mp ht
  obtain ⟨i, p, key⟩ := s
  obtain ⟨j, q, key'⟩ := t
  simp only at hs ht hskey htkey h
  subst h
  obtain rfl : p = q := Option.some.inj (hs.symm.trans ht)
  rw [hskey, htkey]

theorem eq_of_mem_firsts {stars : List Point} {s t : ListedStar}
    (hs : s ∈ (ofStars stars).firsts) (ht : t ∈ (ofStars stars).firsts)
    (h : s.index = t.index) : s = t :=
  eq_of_mem_stars (List.mem_filter.mp hs).1 (List.mem_filter.mp ht).1 h

theorem nodup_map_key_firsts (stars : List Point) : ((ofStars stars).firsts.map (·.key)).Nodup := by
  rw [List.Nodup, List.pairwise_map]
  refine (firsts_pairwise_index stars).imp_of_mem fun {s t} hs ht hlt hkey => ?_
  have hs := (mem_firsts_ofStars.mp hs).2.2
  have ht := (mem_firsts_ofStars.mp ht).2.2
  rw [hkey] at hs
  exact absurd (hs.unique ht) (Nat.ne_of_lt hlt)

theorem mem_map_key_firsts {stars : List Point} {key : String} :
    key ∈ (ofStars stars).firsts.map (·.key) ↔ ∃ star ∈ stars, star.key = key := by
  rw [List.mem_map]
  constructor
  · rintro ⟨first, hfirst, rfl⟩
    obtain ⟨hstar, hkey, -⟩ := mem_firsts_ofStars.mp hfirst
    exact ⟨first.position, List.mem_of_getElem? hstar, hkey.symm⟩
  · rintro ⟨star, hstar, rfl⟩
    exact (existsUnique_first hstar).exists

/-- A key has one first star or none. -/
theorem countP_key_firsts (stars : List Point) (key : String) :
    (ofStars stars).firsts.countP (·.key == key) =
      if stars.any (·.key == key) then 1 else 0 := by
  have hcount := (nodup_map_key_firsts stars).count (a := key)
  rw [List.count, List.countP_map] at hcount
  simpa [Function.comp_def, mem_map_key_firsts] using hcount

end StarRoll
end GalaxyScenario
