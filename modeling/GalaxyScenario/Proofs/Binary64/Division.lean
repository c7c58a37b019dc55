import GalaxyScenario.Proofs.Binary64.Packed

/-! Quotients of doubles, and natural numbers as doubles: both are rounded once, so natural numbers
up to `2 ^ 53` are converted exactly. -/
namespace GalaxyScenario.Binary64
open Float.Model Float.Model.UnpackedFloat

/-- The remainder of a division tells as much as rounding needs. -/
theorem tracks_fraction (n : Nat) {d : Nat} (hd : 0 < d) :
    Tracks (ExtendedMantissa.ofMantissaAndAccuracy (n / d) (accuracyOfFraction (n % d) d)) n d := by
  have hcases := double_div_mod n hd
  unfold accuracyOfFraction
  refine ⟨hd, mantissa_ofMantissaAndAccuracy _ _, ?_, ?_⟩
  · by_cases hzero : n % d = 0
    · rw [if_pos hzero]
      exact (decide_eq_false (by omega)).symm
    · rw [if_neg hzero]
      rcases lt_trichotomy (2 * (n % d)) d with h | h | h
      · rw [Nat.compare_eq_lt.mpr h]
        exact (decide_eq_false (by omega)).symm
      · rw [Nat.compare_eq_eq.mpr h]
        exact (decide_eq_true (by omega)).symm
      · rw [Nat.compare_eq_gt.mpr h]
        exact (decide_eq_true (by omega)).symm
  · by_cases hzero : n % d = 0
    · rw [if_pos hzero]
      exact (decide_eq_false (by omega)).symm
    · rw [if_neg hzero]
      rcases lt_trichotomy (2 * (n % d)) d with h | h | h
      · rw [Nat.compare_eq_lt.mpr h]
        exact (decide_eq_true (by omega)).symm
      · rw [Nat.compare_eq_eq.mpr h]
        exact (decide_eq_false (by omega)).symm
      · rw [Nat.compare_eq_gt.mpr h]
        exact (decide_eq_true (by omega)).symm

/-- Rounding depends only on the value of the fraction. -/
theorem Rounds.congr {f : UnpackedFloat} {a a' : Int} {d d' : Nat} (h : Rounds f a d) (hd : 0 < d)
    (hd' : 0 < d') (heq : a * d' = a' * d) : Rounds f a' d' := by
  have hpos : (0 : Int) < d := Int.natCast_pos.mpr hd
  have hpos' : (0 : Int) < d' := Int.natCast_pos.mpr hd'
  obtain ⟨hcanonical, negative, hf, hsign⟩ := h
  have hnat := congrArg Int.natAbs heq
  rw [Int.natAbs_mul, Int.natAbs_mul, Int.natAbs_natCast, Int.natAbs_natCast] at hnat
  refine ⟨hcanonical, negative, ?_, fun ha' => ?_⟩
  · rw [hf, ← unitsOfBits_roundBits, ← unitsOfBits_roundBits, roundBits_congr hd hd' hnat]
  have ha : a ≠ 0 := by
    rintro rfl
    rw [Int.zero_mul] at heq
    exact ha' ((Int.mul_eq_zero.mp heq.symm).resolve_right hpos.ne')
  have hlt : a < 0 ↔ a' < 0 := by
    have hleft : a * d' < 0 ↔ a < 0 := by
      rw [mul_neg_iff]
      omega
    have hright : a' * d < 0 ↔ a' < 0 := by
      rw [mul_neg_iff]
      omega
    rw [← hleft, heq, hright]
  rw [hsign ha, decide_eq_decide.mpr hlt]

theorem apply_mul_natCast (s : Sign) (u v : Nat) :
    s.apply u * (v : Int) = s.apply (u * v : Nat) := by
  rw [Int.natCast_mul]
  cases s with
  | negative => exact Int.neg_mul u v
  | positive => rfl

/-- A quotient by a positive form is a quotient of whole numbers, cut at an exponent where 53 binary
digits or all that a double has are left. -/
theorem exists_div_eq (s : Sign) {m₁ m₂ : Nat} (e₁ e₂ : Int) (pos₁ : 0 < m₁) (pos₂ : 0 < m₂)
    (hm₁ : m₁ < 2 ^ 53) : ∃ (t : Int) (shift : Nat), e₁ - e₂ - t = shift ∧
      min (e₁ - e₂) (-1074) ≤ t ∧ (2 ^ 52 ≤ m₁ * 2 ^ shift / m₂ ∨ t ≤ -1074) ∧
      div Format.binary64 (.finite s m₁ e₁ pos₁) (.finite .positive m₂ e₂ pos₂) =
        roundWithAccuracy Format.binary64 s (m₁ * 2 ^ shift / m₂) t
          (accuracyOfFraction (m₁ * 2 ^ shift % m₂) m₂) := by
  have htarget : Format.binary64.targetExponent (totalExponent m₁ e₁ - totalExponent m₂ e₂) =
      max (m₁.log2 + e₁ - (m₂.log2 + e₂) - 53) (-1074) := by
    simp only [Format.targetExponent, totalExponent, Format.mantissaBits, Format.minExponent]
    norm_num
    omega
  have hlog₁ : m₁.log2 < 53 := (Nat.log2_lt pos₁.ne').mpr hm₁
  obtain ⟨fit, hfit⟩ : ∃ fit, m₁.log2 + e₁ - (m₂.log2 + e₂) - 53 = fit := ⟨_, rfl⟩
  obtain ⟨t, ht⟩ : ∃ t, min (e₁ - e₂) (max fit (-1074)) = t := ⟨_, rfl⟩
  obtain ⟨shift, hshift⟩ : ∃ shift : Nat, e₁ - e₂ - t = shift := ⟨(e₁ - e₂ - t).toNat, by omega⟩
  refine ⟨t, shift, hshift, by omega, ?_, ?_⟩
  · by_cases hlow : t ≤ -1074
    · exact Or.inr hlow
    · have hcut : fit = t := by omega
      clear ht htarget
      have hexp : 52 + (m₂.log2 + 1) = m₁.log2 + shift := by omega
      left
      rw [Nat.le_div_iff_mul_le pos₂]
      calc 2 ^ 52 * m₂ ≤ 2 ^ 52 * 2 ^ (m₂.log2 + 1) := Nat.mul_le_mul_left _ Nat.lt_log2_self.le
        _ = 2 ^ m₁.log2 * 2 ^ shift := by rw [← Nat.pow_add, ← Nat.pow_add, hexp]
        _ ≤ m₁ * 2 ^ shift := Nat.mul_le_mul_right _ (Nat.log2_self_le pos₁.ne')
  · have hself : s / Sign.positive = s := by cases s <;> rfl
    change roundWithAccuracy Format.binary64 (s / Sign.positive) (divCore _ m₁ e₁ m₂ e₂).1
      (divCore _ m₁ e₁ m₂ e₂).2.1 (divCore _ m₁ e₁ m₂ e₂).2.2 = _
    simp only [divCore, htarget, hfit, ht, hshift, Int.toNat_natCast, Nat.shiftLeft_eq, hself]

theorem div_rounds {f g : UnpackedFloat} {a : Int} {b : Nat} (hf : Represents f a)
    (hg : Represents g b) (cf : Canonical f) (cg : Canonical g) (hb : 0 < b) :
    Rounds (div Format.binary64 f g) (a * unitsPerOne) b := by
  rcases hg.zero_or_finite with ⟨s₂, -, hzero⟩ | ⟨s₂, m₂, e₂, pos₂, rfl, hb₂⟩
  · omega
  have hsign : s₂ = .positive ∧ b = m₂ * 2 ^ (e₂ + 1074).toNat := by
    cases s₂ with
    | negative =>
      change (b : Int) = -((m₂ * 2 ^ (e₂ + 1074).toNat : Nat) : Int) at hb₂
      omega
    | positive => exact ⟨rfl, Int.ofNat_inj.mp hb₂⟩
  obtain ⟨rfl, hunits⟩ := hsign
  rcases hf.zero_or_finite with ⟨s₁, rfl, rfl⟩ | ⟨s₁, m₁, e₁, pos₁, rfl, rfl⟩
  · rw [Int.zero_mul]
    exact rounds_zero _ b
  have hlow₁ : -1074 ≤ e₁ := cf.2.1
  have hlow₂ : -1074 ≤ e₂ := cg.2.1
  obtain ⟨t, shift, hshift, hhigh, hlength, hdiv⟩ := exists_div_eq s₁ e₁ e₂ pos₁ pos₂ cf.1
  have hquotient : m₁ * 2 ^ shift / m₂ ≠ 0 ∨ t ≤ -1074 :=
    hlength.imp_left fun h => (Nat.two_pow_pos 52).trans_le h |>.ne'
  have hfit : t ≤ max ((m₁ * 2 ^ shift / m₂).log2 + t - 52) (-1074) := by
    rcases hlength with h | h
    · have := (Nat.le_log2 ((Nat.two_pow_pos 52).trans_le h).ne').mpr h
      omega
    · omega
  obtain ⟨k, hk⟩ : ∃ k : Nat, k = 1074 := ⟨_, rfl⟩
  obtain ⟨i, hi⟩ : ∃ i : Nat, e₁ + 1074 = i := ⟨(e₁ + 1074).toNat, by omega⟩
  obtain ⟨j, hj⟩ : ∃ j : Nat, e₂ + 1074 = j := ⟨(e₂ + 1074).toNat, by omega⟩
  obtain ⟨u, hu⟩ : ∃ u : Nat, t + (1074 + j : Nat) = u := ⟨(t + (1074 + j : Nat)).toNat, by omega⟩
  have hrounds := roundWithAccuracy_rounds s₁ (K := 1074 + j) hquotient
    (tracks_fraction (m₁ * 2 ^ shift) pos₂) (by omega) (by omega) hfit
  rw [← hdiv, Nat.add_sub_cancel_left, hu, Int.toNat_natCast] at hrounds
  refine hrounds.congr (Nat.mul_pos pos₂ (Nat.two_pow_pos j)) hb ?_
  rw [← two_pow_eq_unitsPerOne hk, apply_mul_natCast, apply_mul_natCast, apply_mul_natCast, hunits,
    hi, hj, Int.toNat_natCast, Int.toNat_natCast]
  have hexp : shift + u = i + k := by omega
  congr 2
  calc m₁ * 2 ^ shift * 2 ^ u * (m₂ * 2 ^ j) = m₁ * m₂ * 2 ^ (shift + u) * 2 ^ j := by ring
    _ = m₁ * 2 ^ i * 2 ^ k * (m₂ * 2 ^ j) := by rw [hexp]; ring

theorem HasUnits.nearest_div {x y : Float} {a : Int} {b : Nat} (hx : HasUnits x a)
    (hy : HasUnits y b) (hb : 0 < b) : Nearest (x / y) (a * unitsPerOne) b := by
  rw [hasUnits_iff_represents] at hx hy
  exact (div_rounds hx hy (canonical_unpack x) (canonical_unpack y) hb).nearest

theorem exists_rounds_ofNat_of_lt {n : Nat} (h : n < 2 ^ 53) :
    ∃ f, Float.ofNat n = .ofModel (Float.Model.pack f) ∧ Rounds f (n * unitsPerOne) 1 := by
  obtain ⟨k, hk⟩ : ∃ k : Nat, k = 1074 := ⟨_, rfl⟩
  have hdouble : IsDouble ((n : Int) * unitsPerOne) := isDouble_whole (by omega)
  have hword : n.toUInt64.toNat = n := by
    rw [Nat.toUInt64, UInt64.toNat_ofNat', Nat.mod_eq_of_lt (by omega)]
  have hround :
      Rounds (UnpackedFloat.normalize Format.binary64 n 0 .positive) (n * unitsPerOne) 1 := by
    have hround := normalize_rounds (m := n) (e := 0) .positive (by decide)
    rwa [show (0 + 1074 : Int).toNat = k by omega, ← Nat.cast_two, ← Nat.cast_pow,
      two_pow_eq_unitsPerOne hk] at hround
  have hconverted : HasUnits n.toUInt64.toFloat (n * unitsPerOne) := by
    have hfloat : n.toUInt64.toFloat = .ofModel
        (Float.Model.pack (UnpackedFloat.normalize Format.binary64 n.toUInt64.toNat 0 .positive)) :=
      rfl
    rw [hfloat, hword]
    exact hasUnits_pack (hround.represents Nat.one_pos (Int.mul_one _).symm hdouble)
      hround.canonical hdouble
  have hone : HasUnits (Float.exactlyRepresentablePowersOfTen[0]) unitsPerOne :=
    ⟨false, unitsPerOne, by decide +kernel, rfl⟩
  have hfast : Float.ofNat n = n.toUInt64.toFloat * Float.exactlyRepresentablePowersOfTen[0] :=
    dif_pos ⟨h, by decide⟩
  rw [hasUnits_iff_represents] at hconverted hone
  have hmul := mul_rounds hconverted hone (canonical_unpack _) (canonical_unpack _)
  exact ⟨_, hfast, hmul.congr unitsPerOne_pos Nat.one_pos (Int.mul_one _)⟩

theorem exists_rounds_ofNat_of_le {n : Nat} (h : 2 ^ 53 ≤ n) :
    ∃ f, Float.ofNat n = .ofModel (Float.Model.pack f) ∧ Rounds f (n * unitsPerOne) 1 := by
  obtain ⟨k, hk⟩ : ∃ k : Nat, k = 1074 := ⟨_, rfl⟩
  have hne : n ≠ 0 := by omega
  have hslow : Float.ofNat n =
      .ofModel (Float.Model.pack (UnpackedFloat.ofScientific Format.binary64 n 0)) :=
    dif_neg fun hsmall => absurd hsmall.1 (Nat.not_lt.mpr h)
  have hmul : UnpackedFloat.ofScientific Format.binary64 n 0 =
      roundWithAccuracy Format.binary64 .positive (n * 2 ^ 53) (-53) .exact := by
    unfold UnpackedFloat.ofScientific
    have hlow : ¬ (0 : Int) < -(2 ^ Format.binary64.exponentBits + n.log2) := by
      change ¬ (0 : Int) < -(2 ^ 11 + n.log2)
      omega
    rw [dif_neg hne, if_neg (by decide), if_neg hlow, if_pos le_rfl]
    change roundWithAccuracy Format.binary64 .positive (n <<< 53 * 1) (-53) .exact = _
    rw [Nat.mul_one, Nat.shiftLeft_eq]
  have hlog : 53 ≤ (n * 2 ^ 53).log2 := by
    rw [Nat.le_log2 (by positivity)]
    exact Nat.le_mul_of_pos_left _ (by omega)
  have hround := roundWithAccuracy_rounds .positive (K := k) (e := -53) (Or.inl (by positivity))
    (tracks_exact (n * 2 ^ 53)) (by omega) (by omega) (by omega)
  refine ⟨_, hslow.trans (by rw [hmul]), hround.congr (by positivity) Nat.one_pos ?_⟩
  have hscale : n * 2 ^ 53 * 2 ^ (-53 + (k : Int)).toNat = n * unitsPerOne := by
    rw [Nat.mul_assoc, ← Nat.pow_add, ← two_pow_eq_unitsPerOne hk]
    congr 2
    omega
  rw [Sign.apply, hscale, show k - 1074 = 0 by omega, pow_zero, Int.natCast_mul, Nat.one_mul]

theorem exists_rounds_ofNat (n : Nat) :
    ∃ f, Float.ofNat n = .ofModel (Float.Model.pack f) ∧ Rounds f (n * unitsPerOne) 1 := by
  rcases Nat.lt_or_ge n (2 ^ 53) with h | h
  · exact exists_rounds_ofNat_of_lt h
  · exact exists_rounds_ofNat_of_le h

theorem isWhole_ofNat {n : Nat} (h : n ≤ 2 ^ 53) : IsWhole (Float.ofNat n) n := by
  obtain ⟨f, hf, hround⟩ := exists_rounds_ofNat n
  have hdouble : IsDouble ((n : Int) * unitsPerOne) := isDouble_whole h
  rw [hf]
  exact hasUnits_pack (hround.represents Nat.one_pos (Int.mul_one _).symm hdouble)
    hround.canonical hdouble

end GalaxyScenario.Binary64
