import GalaxyScenario.EmpireCapacity
import GalaxyScenario.Proofs.Binary64.Rational

/-! The capacity for empires in whole numbers. Two thirds of a whole number are at least a sixth
away from every half, so up to `2 ^ 51` home stars the error of the division decides nothing, and
half of a whole number is exact. With more home stars both limits are beyond what the slider can
hold. -/
namespace GalaxyScenario.EmpireCapacity
open Binary64

theorem isRational_starsPerEmpire : IsRational starsPerEmpire (3 / 2) := by
  obtain ⟨k, hk⟩ : ∃ k : Nat, k + 1 = 1074 := ⟨_, rfl⟩
  have hunits : ofFloat starsPerEmpire = .finite false (3 * (unitsPerOne / 2)) := by decide +kernel
  have hhalf : unitsPerOne = 2 ^ k * 2 := by rw [← two_pow_eq_unitsPerOne hk, Nat.pow_succ]
  rw [hhalf, Nat.mul_div_cancel _ Nat.two_pos] at hunits
  refine ⟨(3 * 2 ^ k : Nat), ⟨false, 3 * 2 ^ k, hunits, rfl⟩, ?_⟩
  rw [hhalf]
  push_cast
  ring

/-- The quotient is so near to two thirds that it is rounded like them. -/
theorem nearestNat_div_starsPerEmpire {k : Nat} (hk : k < 2 ^ 51) :
    nearestNat (Float.ofNat k / starsPerEmpire) = (2 * k + 1) / 3 := by
  rcases Nat.eq_zero_or_pos k with rfl | hpos
  · decide +kernel
  have hcount : (k : ℚ) < 2 ^ 51 := by exact_mod_cast hk
  obtain ⟨t, ht, hnear⟩ := exists_isRational_ofNat_div hpos (by omega) isRational_starsPerEmpire
    (by norm_num) (by norm_num)
  obtain ⟨hlow, hhigh⟩ := abs_le.mp hnear
  obtain ⟨m, hm⟩ : ∃ m, (2 * k + 1) / 3 = m := ⟨_, rfl⟩
  have hle : (3 * m : ℚ) ≤ 2 * k + 1 := by exact_mod_cast (by omega : 3 * m ≤ 2 * k + 1)
  have hlt : (2 * k : ℚ) ≤ 3 * m + 1 := by exact_mod_cast (by omega : 2 * k ≤ 3 * m + 1)
  have hround : (m : ℚ) ≤ t + 1 / 2 ∧ t + 1 / 2 < m + 1 := by
    constructor <;> linarith
  rw [ht.nearestNat_eq, hm]
  exact (Nat.floor_eq_iff ((Nat.cast_nonneg m).trans hround.1)).mpr hround

theorem nearestNat_half {n : Nat} (hn : n < 2 ^ 53) :
    nearestNat (Float.ofNat n / 2.0) = (n + 1) / 2 := by
  have hhalf := (isWhole_ofNat hn.le).half (by omega)
  have hsum : ((n : Int) : ℚ) / 2 + 1 / 2 = (n + 1 : Nat) / (2 : Nat) := by
    push_cast
    ring
  rw [hhalf.nearestNat_eq, hsum, Nat.floor_div_eq_div]

theorem nearestNat_div_bounds {n : Nat} {y : Float} {r : ℚ} (hpos : 0 < n) (h : n < 2 ^ 80)
    (hy : IsRational y r) (hr : 1 ≤ r) (hr' : r ≤ 2) :
    n / 4 ≤ nearestNat (Float.ofNat n / y) ∧ nearestNat (Float.ofNat n / y) ≤ 2 * n + 1 := by
  have hr0 : 0 < r := by linarith
  have hn : (0 : ℚ) ≤ n := Nat.cast_nonneg n
  obtain ⟨t, ht, hlow, hhigh⟩ :=
    exists_isRational_ofNat_div_of_lt hpos h hy hr (hr'.trans (by norm_num))
  have hsmall : (n / 2 : ℚ) ≤ n / r := div_le_div_of_nonneg_left hn hr0 hr'
  have hlarge : n / r ≤ n := div_le_self hn hr
  rw [ht.nearestNat_eq]
  constructor
  · have hquarter : ((n / 4 : Nat) : ℚ) ≤ n / 4 := Nat.cast_div_le
    exact Nat.le_floor (by linarith)
  · refine Nat.floor_le_of_le ?_
    push_cast
    linarith

theorem toNat_ofNat_min (n : Nat) :
    (UInt32.ofNat (min n ceiling)).toNat = min (2 ^ 32 - 1) n := by
  have hceiling : ceiling = 2 ^ 32 - 1 := rfl
  rw [UInt32.toNat_ofNat', hceiling, Nat.mod_eq_of_lt (by omega), Nat.min_comm]

/-- The formulas for both limits. They are beyond the ceiling before the formulas fail. -/
theorem toNat_ofHomeStars {k : Nat} (hk : k < 2 ^ 64) :
    (ofHomeStars k).max.toNat = min (2 ^ 32 - 1) ((2 * k + 1) / 3) ∧
      (ofHomeStars k).default.toNat = min (2 ^ 32 - 1) (((2 * k + 1) / 3 + 1) / 2) := by
  unfold ofHomeStars
  dsimp only
  rw [toNat_ofNat_min, toNat_ofNat_min]
  rcases Nat.lt_or_ge k (2 ^ 51) with hsmall | hlarge
  · rw [nearestNat_div_starsPerEmpire hsmall, nearestNat_half (by omega)]
    exact ⟨rfl, rfl⟩
  · obtain ⟨hlow, hhigh⟩ := nearestNat_div_bounds (n := k) (by omega) (by omega)
      isRational_starsPerEmpire (by norm_num) (by norm_num)
    generalize nearestNat (Float.ofNat k / starsPerEmpire) = most at hlow hhigh
    obtain ⟨hhalf, -⟩ := nearestNat_div_bounds (n := most) (by omega) (by omega) isRational_two
      (by norm_num) le_rfl
    omega

/-- The capacity by whole numbers, for every number of home stars that fits into a word: two thirds
of them and half of that, each to the nearest whole number and cut down to what the slider can
hold. -/
theorem ofHomeStars_exact {k : Nat} (hk : k < 2 ^ 64) :
    (ofHomeStars k).max.toNat = min (2 ^ 32 - 1) ((2 * k + 1) / 3) ∧
      (ofHomeStars k).default.toNat = min (2 ^ 32 - 1) (((2 * k + 1) / 3 + 1) / 2) ∧
      (ofHomeStars k).default ≤ (ofHomeStars k).max ∧ (ofHomeStars k).max.toNat ≤ k ∧
      ∀ j ≤ k, (ofHomeStars j).max ≤ (ofHomeStars k).max ∧
        (ofHomeStars j).default ≤ (ofHomeStars k).default := by
  obtain ⟨hmax, hdefault⟩ := toNat_ofHomeStars hk
  refine ⟨hmax, hdefault, ?_, ?_, fun j hj => ?_⟩
  · rw [UInt32.le_iff_toNat_le, hmax, hdefault]
    omega
  · rw [hmax]
    omega
  · obtain ⟨hmax', hdefault'⟩ := toNat_ofHomeStars (hj.trans_lt hk)
    rw [UInt32.le_iff_toNat_le, UInt32.le_iff_toNat_le, hmax, hdefault, hmax', hdefault']
    omega

/-- The default of ten thousand million home stars is half of a number that is itself cut down. -/
theorem ofHomeStars_exact_cutDown : 10 ^ 10 < 2 ^ 64 ∧
    (ofHomeStars (10 ^ 10)).max.toNat = 2 ^ 32 - 1 ∧
    (ofHomeStars (10 ^ 10)).default.toNat = 3333333334 ∧
    (ofHomeStars 10).max ≤ (ofHomeStars (10 ^ 10)).max := by
  have hk : 10 ^ 10 < 2 ^ 64 := by decide
  obtain ⟨hmax, hdefault, -, -, hmono⟩ := ofHomeStars_exact hk
  exact ⟨hk, hmax, hdefault, (hmono 10 (by decide)).1⟩

end GalaxyScenario.EmpireCapacity
