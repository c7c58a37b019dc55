import GalaxyScenario.Proofs.DanglingEnds
import GalaxyScenario.Proofs.ZoneFlags

/-! The flags of wormholes in a compiled map. Flags are put on star by star and dangling ends are
reported pair by pair, yet no end is lost: each of the two ends of a pair is a flag on one system,
or is reported, or is the second end of a pair that leads from a star to itself. -/
namespace GalaxyScenario

namespace Link

def touches (link : Link) (key : String) : Bool := link.first.key = key ∨ link.second.key = key

def missing (link : Link) (stars : List Point) : Nat :=
  LinkEnd.all.countP fun e => !stars.any (·.key == (e.point link).key)

def isLoop (link : Link) (stars : List Point) : Bool :=
  link.first.key == link.second.key && stars.any (·.key == link.first.key)

end Link

theorem countP_or_add_countP_and {α : Type} (p q : α → Bool) (l : List α) :
    (l.countP fun a => p a || q a) + (l.countP fun a => p a && q a) = l.countP p + l.countP q := by
  induction l with
  | nil => rfl
  | cons a rest ih => cases hp : p a <;> cases hq : q a <;> simp [hp, hq] <;> omega

namespace Wormhole

theorem flag_injective : Function.Injective flag := by
  intro i j h
  exact Nat.repr_inj.mp (String.append_right_inj _ |>.mp h)

theorem pairsAt_increasing (wormholes : List Link) (key : String) :
    (pairsAt (endKeys wormholes) key).Pairwise (· < ·) := by
  rw [pairsAt, List.pairwise_filterMap]
  refine (zipIdx_pairwise_snd _).imp fun hlt i hi j hj => ?_
  simp only [Option.ite_none_right_eq_some, Option.some.injEq] at hi hj
  omega

theorem nodup_pairsAt (wormholes : List Link) (key : String) :
    (pairsAt (endKeys wormholes) key).Nodup :=
  (pairsAt_increasing wormholes key).imp Nat.ne_of_lt

theorem length_pairsAt (wormholes : List Link) (key : String) :
    (pairsAt (endKeys wormholes) key).length = wormholes.countP (·.touches key) := by
  have hkeys : (endKeys wormholes).map Prod.fst =
      wormholes.map fun link => (link.first.key, link.second.key) := List.zipIdx_map_fst 0 _
  calc (pairsAt (endKeys wormholes) key).length
      = (endKeys wormholes).countP ((fun ends => ends.1 == key || ends.2 == key) ∘ Prod.fst) := by
        rw [pairsAt, List.length_filterMap_eq_countP]
        refine List.countP_congr fun ends _ => ?_
        simp
    _ = wormholes.countP (·.touches key) := by
        rw [← List.countP_map, hkeys, List.countP_map]
        refine List.countP_congr fun link _ => ?_
        simp [Link.touches]

theorem count_flags (wormholes : List Link) (key : String) (pair : Nat) :
    (flags (endKeys wormholes) key).count (flag pair) =
      if wormholes[pair]?.any (·.touches key) then 1 else 0 := by
  rw [flags, List.count_map_of_injective _ _ flag_injective, (nodup_pairsAt wormholes key).count]
  simp [mem_pairsAt, Link.touches, Option.any_eq_true]

end Wormhole

theorem SpawnZone.wormhole_notMem_flags (zones : List SpawnZone) (index pair : Nat) :
    Wormhole.flag pair ∉ flags zones index := by
  intro h
  have hletter := kindLetter_of_mem_flags h
  rw [kindLetter_wormhole] at hletter
  cases hletter

theorem LinkEnd.length_positions {α : Type} (p : LinkEnd → α → Bool) (links : List α) :
    (positions p links).length = (links.map fun link => all.countP (p · link)).sum := by
  simp only [positions, List.length_flatMap, List.length_map, ← List.countP_eq_length_filter]
  conv_rhs => rw [← List.zipIdx_map_fst 0 links, List.map_map]
  rfl

theorem GalaxyMap.length_danglingEnds (stars : List Point) (links : List Link) :
    (danglingEnds (.ofStars stars) links).length = (links.map (·.missing stars)).sum := by
  have hmissing : ∀ p : Point, ((StarIndex.ofStars stars).id? p).isNone =
      !stars.any (·.key == p.key) := by
    intro p
    rw [Bool.eq_iff_iff, Option.isNone_iff_eq_none, StarIndex.id?,
      StarIndex.idOfKey?_ofStars_eq_none]
    simp
  rw [← (forall₂_danglingEnds _ links).length_eq, LinkEnd.length_positions]
  simp only [hmissing, Link.missing]

/-- The ends of a pair are flags on first stars and missing ends, but a loop has one flag for both.
-/
theorem Link.ends_conserved (link : Link) (stars : List Point) :
    ((StarRoll.ofStars stars).firsts.countP fun star => link.touches star.key) +
      link.missing stars + (if link.isLoop stars then 1 else 0) = 2 := by
  -- The stars at both ends count twice, and there are such only for a loop.
  have hsum := countP_or_add_countP_and (fun star : ListedStar => star.key == link.first.key)
    (fun star => star.key == link.second.key) (StarRoll.ofStars stars).firsts
  have hboth : ((StarRoll.ofStars stars).firsts.countP fun star =>
      star.key == link.first.key && star.key == link.second.key) =
        if link.isLoop stars then 1 else 0 := by
    by_cases hloop : link.first.key = link.second.key
    · simp [isLoop, hloop, StarRoll.countP_key_firsts]
    · have hnone : ∀ star : ListedStar,
          (star.key == link.first.key && star.key == link.second.key) = false := by
        intro star
        simp only [Bool.and_eq_false_iff, beq_eq_false_iff_ne]
        by_contra! h
        exact hloop (h.1.symm.trans h.2)
      simp [isLoop, hloop, hnone]
  have hmissing : link.missing stars + (if stars.any (·.key == link.first.key) then 1 else 0) +
      (if stars.any (·.key == link.second.key) then 1 else 0) = 2 := by
    cases hfirst : stars.any (·.key == link.first.key) <;>
      cases hsecond : stars.any (·.key == link.second.key) <;>
      simp [missing, LinkEnd.all, LinkEnd.point, hfirst, hsecond]
  rw [hboth, StarRoll.countP_key_firsts, StarRoll.countP_key_firsts] at hsum
  have htouches : ∀ star : ListedStar, link.touches star.key =
      (star.key == link.first.key || star.key == link.second.key) := fun star => by
    simp [touches, eq_comm (a := star.key), beq_eq_decide]
  simp only [htouches]
  omega

theorem wormhole_ends_conserved (stars : List Point) (links : List Link) :
    ((StarRoll.ofStars stars).firsts.map fun star => links.countP (·.touches star.key)).sum +
      (links.map (·.missing stars)).sum + links.countP (·.isLoop stars) = 2 * links.length := by
  induction links with
  | nil => simp
  | cons link rest ih =>
    have hends := link.ends_conserved stars
    have htouches : ∀ l : List ListedStar,
        (l.map fun star => if link.touches star.key then 1 else 0).sum =
          l.countP fun star => link.touches star.key := by
      intro l
      induction l with
      | nil => rfl
      | cons star rest ih => simp [List.countP_cons, ih, Nat.add_comm]
    simp only [List.countP_cons, List.sum_map_add, List.map_cons, List.sum_cons, List.length_cons,
      htouches]
    omega

namespace GalaxyMap

/-- The flag of a pair is once on each system that owns an end of the pair, and on no other. The
flags on all systems, the reported ends and the loops at a star are twice as many as the pairs. -/
theorem compile_wormholes_conserved (m : GalaxyMap) (config : Config) :
    (∀ pair, ∀ s ∈ (m.compile config).scenario.systems, s.flags.count (Wormhole.flag pair) =
        if m.wormholes[pair]?.any fun link => m.ownedKey? s = some link.first.key ∨
          m.ownedKey? s = some link.second.key then 1 else 0) ∧
      (m.compile config).stats.wormholeFlags +
          (Finding.ofCategory "dangling_wormhole" (m.findings config)).length +
          (m.wormholes.countP fun link => link.first.key == link.second.key &&
            m.stars.any (·.key == link.first.key)) =
        2 * m.wormholes.length := by
  constructor
  · intro pair s hs
    obtain ⟨star, hstar, rfl⟩ := mem_compile_systems.mp hs
    rw [ownedKey?_system hstar, system, List.count_append,
      List.count_eq_zero.mpr (SpawnZone.wormhole_notMem_flags _ _ _), Wormhole.count_flags]
    simp [Link.touches, eq_comm (a := star.key)]
  · have hflags : (m.compile config).stats.wormholeFlags =
        (m.roll.firsts.map fun star => m.wormholes.countP (·.touches star.key)).sum := by
      change (m.roll.firsts.flatMap fun star => _).length = _
      simp only [List.length_flatMap, Wormhole.flags, List.length_map, Wormhole.length_pairsAt]
    rw [hflags, ofCategory_dangling_wormhole, danglingWormholes, List.length_map,
      length_danglingEnds]
    exact wormhole_ends_conserved m.stars m.wormholes

end GalaxyMap
end GalaxyScenario
