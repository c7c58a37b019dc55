import GalaxyScenario.Proofs.Binary64.Rational
import GalaxyScenario.Proofs.FavouredHomes

/-! How many of the first stars stand in for home systems. The doubles round twice before the least
whole number above is taken, and that number is right all the same: three hundredths of a number of
stars are either whole, and then nothing is rounded, or at least one hundredth away from every whole
number, which is more than both errors together up to `2 ^ 48` stars. -/
namespace GalaxyScenario
open Binary64

namespace HomeSelection

theorem isRational_blockSize : IsRational 200.0 200 :=
  isRational_intCast.mpr (isWhole_of_units false 200 (by decide +kernel))

theorem isRational_pairsPerBlock : IsRational 6.0 6 :=
  isRational_intCast.mpr (isWhole_of_units false 6 (by decide +kernel))

/-- Three hundredths of a multiple of a hundred stars are not rounded. -/
theorem ceilNat_pairs_of_dvd {n : Nat} (hn : n < 2 ^ 48) (h : 100 ∣ n) :
    ceilNat (Float.ofNat n / 200.0 * 6.0) = ⌈(3 * n / 100 : ℚ)⌉₊ := by
  obtain ⟨m, rfl⟩ := h
  have hblocks : (100 * m : Nat) / (200 : ℚ) = (m : Int) / 2 := by
    push_cast
    ring
  have hpairs : (m : Int) / 2 * 6 = ((3 * m : Int) : ℚ) := by
    push_cast
    ring
  have hdiv := (isRational_ofNat (n := 100 * m) (by omega)).div isRational_blockSize (by norm_num)
    (by rw [hblocks]; exact representable_half (by omega))
  rw [hblocks] at hdiv
  have hmul := hdiv.mul isRational_pairsPerBlock
    (by rw [hpairs]; exact representable_whole (by omega))
  rw [hmul.ceilNat_eq]
  congr 1
  push_cast
  ring

/-- Any other number of stars leaves more room around three hundredths than the errors take. -/
theorem ceilNat_pairs_of_not_dvd {n : Nat} (hn : n < 2 ^ 48) (h : ¬ 100 ∣ n) :
    ceilNat (Float.ofNat n / 200.0 * 6.0) = ⌈(3 * n / 100 : ℚ)⌉₊ := by
  have hone : (1 : ℚ) ≤ n := by exact_mod_cast (by omega : 1 ≤ n)
  have hcount : (n : ℚ) < 2 ^ 48 := by exact_mod_cast hn
  obtain ⟨s, hs, hnear⟩ := exists_isRational_ofNat_div (n := n) (by omega) (by omega)
    isRational_blockSize (by norm_num) (by norm_num)
  obtain ⟨hs₁, hs₂⟩ := abs_le.mp hnear
  obtain ⟨t, ht, hnear'⟩ := hs.mul_near isRational_pairsPerBlock (by linarith) (by norm_num)
    (by linarith) (by linarith)
  obtain ⟨ht₁, ht₂⟩ := abs_le.mp hnear'
  obtain ⟨c, hc⟩ : ∃ c, 3 * n / 100 = c := ⟨_, rfl⟩
  have hlow : (100 * c + 1 : ℚ) ≤ 3 * n := by exact_mod_cast (by omega : 100 * c + 1 ≤ 3 * n)
  have hhigh : (3 * n + 1 : ℚ) ≤ 100 * c + 100 := by
    exact_mod_cast (by omega : 3 * n + 1 ≤ 100 * c + 100)
  have hbetween : ∀ q : ℚ, c < q → q ≤ c + 1 → ⌈q⌉₊ = c + 1 := fun q hlow hhigh =>
    (Nat.ceil_eq_iff (Nat.succ_ne_zero c)).mpr ⟨hlow, by exact_mod_cast hhigh⟩
  rw [ht.ceilNat_eq, hbetween t (by linarith) (by linarith),
    hbetween (3 * n / 100) (by linarith) (by linarith)]

theorem fallbackCount_eq {n : Nat} (hn : n < 2 ^ 48) :
    fallbackCount n = 2 * ⌈(3 * n / 100 : ℚ)⌉₊ := by
  rw [fallbackCount, Nat.mul_comm]
  by_cases h : 100 ∣ n
  · rw [ceilNat_pairs_of_dvd hn h]
  · rw [ceilNat_pairs_of_not_dvd hn h]

/-- The number that is doubled is far below half of a word. -/
theorem fallbackCount_lt {n : Nat} (hn : n < 2 ^ 64) : fallbackCount n < 2 ^ 64 := by
  rcases Nat.eq_zero_or_pos n with rfl | hpos
  · decide +kernel
  have hone : (1 : ℚ) ≤ n := by exact_mod_cast hpos
  have hword : (n : ℚ) ≤ 2 ^ 64 := by exact_mod_cast hn.le
  obtain ⟨s, hs, hs₁, hs₂⟩ := exists_isRational_ofNat_div_of_lt hpos (by omega)
    isRational_blockSize (by norm_num) (by norm_num)
  obtain ⟨t, ht, hnear⟩ := hs.mul_near isRational_pairsPerBlock (by linarith) (by norm_num)
    (by linarith) (by linarith)
  obtain ⟨-, ht₂⟩ := abs_le.mp hnear
  have hceil : ceilNat (Float.ofNat n / 200.0 * 6.0) ≤ 2 ^ 62 := by
    rw [ht.ceilNat_eq, Nat.ceil_le]
    push_cast
    linarith
  rw [fallbackCount]
  omega

end HomeSelection

theorem map_lt_range (n c : Nat) : (List.range n).map (fun i => decide (i < c)) =
    List.replicate (min n c) true ++ List.replicate (n - c) false := by
  refine List.ext_getElem (by simp; omega) fun i h₁ h₂ => ?_
  rw [List.getElem_map, List.getElem_range, List.getElem_append]
  simp only [List.length_map, List.length_range] at h₁
  simp only [List.length_replicate, List.getElem_replicate]
  split_ifs with h
  · exact decide_eq_true (by omega)
  · exact decide_eq_false (by omega)

namespace GalaxyMap

def homeFlags (m : GalaxyMap) (selection : HomeSelection) : List Bool :=
  m.roll.stars.map fun star => selection.selects star.index star.key

theorem homeFlags_leading (m : GalaxyMap) (count : Nat) :
    m.homeFlags (.leading count) =
      List.replicate (min m.stars.length count) true ++
        List.replicate (m.stars.length - count) false := by
  rw [← map_lt_range, ← StarRoll.map_index_stars_ofStars, List.map_map]
  rfl

end GalaxyMap

/-- The number of stars that stand in for home systems is exact, so they are the first ones up to
that number, and doubling the number of pairs stays within a word. -/
theorem HomeSelection.fallbackCount_exact :
    (∀ n < 2 ^ 48, fallbackCount n = 2 * ⌈(3 * n / 100 : ℚ)⌉₊) ∧
      (∀ m : GalaxyMap, m.stars.length < 2 ^ 48 → m.potentialHomes.isEmpty = true →
        m.homeFlags (ofMap m true) =
          List.replicate (min m.stars.length (2 * ⌈(3 * m.stars.length / 100 : ℚ)⌉₊)) true ++
            List.replicate (m.stars.length - 2 * ⌈(3 * m.stars.length / 100 : ℚ)⌉₊) false) ∧
      ∀ n < 2 ^ 64, fallbackCount n < 2 ^ 64 := by
  refine ⟨fun n hn => fallbackCount_eq hn, fun m hm hempty => ?_, fun n hn => fallbackCount_lt hn⟩
  have hmode : ofMap m true = .leading (fallbackCount m.stars.length) := by
    rw [ofMap, hempty]
    rfl
  rw [hmode, GalaxyMap.homeFlags_leading, fallbackCount_eq hm]

/-- Of three stars the first two stand in; a begun pair counts in full, and no word is too large. -/
theorem HomeSelection.fallbackCount_exact_threeStars :
    let m := GalaxyMap.ofStars [⟨10.0, 20.0⟩, ⟨30.0, 20.0⟩, ⟨50.0, 20.0⟩]
    (m.stars.length < 2 ^ 48 ∧ m.potentialHomes.isEmpty = true ∧
      m.homeFlags (ofMap m true) = [true, true, false]) ∧
    (201 < 2 ^ 48 ∧ fallbackCount 201 = 14) ∧
    (2 ^ 64 - 1 < 2 ^ 64 ∧ fallbackCount (2 ^ 64 - 1) < 2 ^ 64) := by
  intro m
  obtain ⟨hcount, hflags, hword⟩ := fallbackCount_exact
  have hlength : m.stars.length = 3 := rfl
  have hempty : m.potentialHomes.isEmpty = true := Std.ExtTreeSet.isEmpty_empty
  have hlt : m.stars.length < 2 ^ 48 := by rw [hlength]; decide
  have hfirst := hflags m hlt hempty
  have hpairs : ⌈(3 * (3 : Nat) / 100 : ℚ)⌉₊ = 1 := by norm_num
  have hpairs' : ⌈(3 * (201 : Nat) / 100 : ℚ)⌉₊ = 7 := by norm_num
  rw [hlength, hpairs] at hfirst
  refine ⟨⟨hlt, hempty, hfirst⟩, ⟨by decide, ?_⟩, by decide, hword _ (by decide)⟩
  rw [hcount 201 (by decide), hpairs']

end GalaxyScenario
