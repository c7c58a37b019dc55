import GalaxyScenario.Proofs.Binary64.Unpacked

/-! Rounding to 53 binary digits. The mantissa, round bit and sticky bit of the arithmetic keep a
quotient as exactly as rounding needs it, so the result of an operation is the nearest double to
its exact value, a half going to the even neighbour. -/
namespace GalaxyScenario.Binary64
open Float.Model Float.Model.UnpackedFloat

/-- The units of the double nearest to `n / d` units, as if there were no largest double. -/
def roundUnits (n d : Nat) : Nat :=
  let shift := (n / d).log2 - 52
  divHalfEven n (d * 2 ^ shift) * 2 ^ shift

/-- Doubling a dividend either keeps the remainder below the divisor or carries once. -/
theorem double_div_mod (n : Nat) {d : Nat} (hd : 0 < d) :
    2 * (n % d) < d ∧ 2 * n / d = 2 * (n / d) ∧ 2 * n % d = 2 * (n % d) ∨
      d ≤ 2 * (n % d) ∧ 2 * n / d = 2 * (n / d) + 1 ∧ 2 * n % d = 2 * (n % d) - d := by
  have hn := Nat.mod_add_div n d
  have hr := Nat.mod_lt n hd
  by_cases h : 2 * (n % d) < d
  · left
    refine ⟨h, (Nat.div_mod_unique hd).mpr ⟨?_, h⟩⟩
    nlinarith
  · right
    refine ⟨Nat.le_of_not_lt h, (Nat.div_mod_unique hd).mpr ⟨?_, by omega⟩⟩
    zify [Nat.le_of_not_lt h] at hn ⊢
    linarith

/-- The extended mantissa holds the quotient `n / d` as far as rounding needs it. -/
structure Tracks (em : ExtendedMantissa) (n d : Nat) : Prop where
  pos : 0 < d
  mantissa : em.mantissa = n / d
  round : em.roundBit = decide (2 * n / d % 2 = 1)
  sticky : em.stickyBit = decide (2 * n % d ≠ 0)

theorem tracks_exact (m : Nat) :
    Tracks (ExtendedMantissa.ofMantissaAndAccuracy m .exact) m 1 where
  pos := Nat.one_pos
  mantissa := (Nat.div_one m).symm
  round := by simp [ExtendedMantissa.ofMantissaAndAccuracy]
  sticky := by simp [ExtendedMantissa.ofMantissaAndAccuracy, Nat.mod_one]

theorem Tracks.shiftRightOne {em : ExtendedMantissa} {n d : Nat} (h : Tracks em n d) :
    Tracks em.shiftRightOne n (2 * d) where
  pos := Nat.mul_pos Nat.two_pos h.pos
  mantissa := by
    change em.mantissa / 2 = n / (2 * d)
    rw [h.mantissa, Nat.div_div_eq_div_mul, Nat.mul_comm d 2]
  round := by
    change (em.mantissa % 2 != 0) = _
    rw [h.mantissa, Nat.mul_div_mul_left n d Nat.two_pos]
    rcases Nat.mod_two_eq_zero_or_one (n / d) with h0 | h1
    · simp [h0]
    · simp [h1]
  sticky := by
    change (em.roundBit || em.stickyBit) = _
    rw [h.round, h.sticky, Nat.mul_mod_mul_left]
    simp only [← Bool.decide_or, decide_eq_decide]
    have hd := h.pos
    rcases double_div_mod n hd with ⟨_, hdiv, hmod⟩ | ⟨_, hdiv, hmod⟩ <;> omega

theorem Tracks.shiftRight {em : ExtendedMantissa} {n d : Nat} (h : Tracks em n d) (k : Nat) :
    Tracks (em >>> k) n (d * 2 ^ k) := by
  induction k with
  | zero =>
    rw [pow_zero, Nat.mul_one]
    exact h
  | succ k ih =>
    have hstep := ih.shiftRightOne
    rwa [show 2 * (d * 2 ^ k) = d * 2 ^ (k + 1) by ring] at hstep

theorem Tracks.roundedMantissa {em : ExtendedMantissa} {n d : Nat} (h : Tracks em n d) :
    em.roundedMantissa = divHalfEven n d := by
  obtain ⟨hd, hm, hr, hs⟩ := h
  obtain ⟨m, r, s⟩ := em
  simp only at hm hr hs
  unfold divHalfEven
  rcases double_div_mod n hd with ⟨hlt, hdiv, hmod⟩ | ⟨hle, hdiv, hmod⟩
  · have hr0 : r = false := by rw [hr, hdiv]; simp
    rw [if_pos hlt, hr0, ← hm]
    cases s <;> rfl
  · have hr1 : r = true := by rw [hr, hdiv]; simp [Nat.add_mod]
    rw [if_neg (by omega), hr1]
    by_cases hhalf : d < 2 * (n % d)
    · have hs1 : s = true := by rw [hs, hmod]; simp; omega
      rw [if_pos hhalf, hs1, ← hm]
      rfl
    · have hs0 : s = false := by rw [hs, hmod]; simp; omega
      rw [if_neg hhalf, hs0, ← hm]
      rfl

theorem divHalfEven_mul_right (n d : Nat) {c : Nat} (hc : 0 < c) :
    divHalfEven (n * c) (d * c) = divHalfEven n d := by
  have hlt : 2 * (n % d * c) < d * c ↔ 2 * (n % d) < d := by
    rw [← Nat.mul_assoc]
    exact Nat.mul_lt_mul_right hc
  have hgt : d * c < 2 * (n % d * c) ↔ d < 2 * (n % d) := by
    rw [← Nat.mul_assoc]
    exact Nat.mul_lt_mul_right hc
  simp only [divHalfEven, Nat.mul_div_mul_right n d hc, Nat.mul_mod_mul_right, hlt, hgt]

theorem divHalfEven_congr {n d n' d' : Nat} (hd : 0 < d) (hd' : 0 < d') (h : n * d' = n' * d) :
    divHalfEven n d = divHalfEven n' d' := by
  rw [← divHalfEven_mul_right n d hd', h, Nat.mul_comm d d', divHalfEven_mul_right n' d' hd]

theorem le_divHalfEven (n d : Nat) : n / d ≤ divHalfEven n d := by
  unfold divHalfEven
  dsimp only
  split_ifs <;> omega

theorem divHalfEven_le (n d : Nat) : divHalfEven n d ≤ n / d + 1 := by
  unfold divHalfEven
  dsimp only
  split_ifs <;> omega

theorem targetExponent_eq (m : Nat) (e : Int) :
    Format.binary64.targetExponent (totalExponent m e) = max (m.log2 + e - 52) (-1074) := by
  simp only [Format.targetExponent, totalExponent, Format.mantissaBits, Format.minExponent]
  norm_num
  omega

theorem shiftToTargetExponent_eq {m : Nat} {e : Int} (accuracy : Accuracy)
    (he : e ≤ max (m.log2 + e - 52) (-1074)) :
    shiftToTargetExponent Format.binary64 m e accuracy =
      (ExtendedMantissa.ofMantissaAndAccuracy m accuracy >>>
        (max (m.log2 + e - 52) (-1074) - e).toNat, max (m.log2 + e - 52) (-1074)) := by
  rw [shiftToTargetExponent, targetExponent_eq, shiftToExponent]
  exact Prod.ext rfl (by omega)

/-- Powers of two move the leading binary digit of a quotient. -/
theorem log2_mul_two_pow_div {n d : Nat} (hd : 0 < d) (hq : n / d ≠ 0) (a b : Nat) :
    (n * 2 ^ a / (d * 2 ^ b)).log2 = (n / d).log2 + a - b := by
  obtain ⟨hlow, hhigh⟩ := (Nat.log2_eq_iff hq).mp rfl
  generalize (n / d).log2 = j at *
  have hlow : 2 ^ j * d ≤ n := (Nat.le_div_iff_mul_le hd).mp hlow
  have hhigh : n < 2 ^ (j + 1) * d := (Nat.div_lt_iff_lt_mul hd).mp hhigh
  have hD : 0 < d * 2 ^ b := Nat.mul_pos hd (Nat.two_pow_pos b)
  by_cases hb : b ≤ j + a
  · obtain ⟨i, hi⟩ := Nat.exists_eq_add_of_le hb
    have hlow' : 2 ^ i ≤ n * 2 ^ a / (d * 2 ^ b) := by
      rw [Nat.le_div_iff_mul_le hD]
      calc 2 ^ i * (d * 2 ^ b) = 2 ^ (b + i) * d := by ring
        _ = 2 ^ j * d * 2 ^ a := by rw [← hi]; ring
        _ ≤ n * 2 ^ a := Nat.mul_le_mul_right _ hlow
    have hhigh' : n * 2 ^ a / (d * 2 ^ b) < 2 ^ (i + 1) := by
      rw [Nat.div_lt_iff_lt_mul hD]
      calc n * 2 ^ a < 2 ^ (j + 1) * d * 2 ^ a :=
            Nat.mul_lt_mul_of_pos_right hhigh (Nat.two_pow_pos a)
        _ = 2 * 2 ^ (j + a) * d := by ring
        _ = 2 ^ (i + 1) * (d * 2 ^ b) := by rw [hi]; ring
    have hne : n * 2 ^ a / (d * 2 ^ b) ≠ 0 := by
      have := Nat.two_pow_pos i
      omega
    rw [(Nat.log2_eq_iff hne).mpr ⟨hlow', hhigh'⟩]
    omega
  · have hzero : n * 2 ^ a / (d * 2 ^ b) = 0 := by
      apply Nat.div_eq_of_lt
      calc n * 2 ^ a < 2 ^ (j + 1) * d * 2 ^ a :=
            Nat.mul_lt_mul_of_pos_right hhigh (Nat.two_pow_pos a)
        _ = d * 2 ^ (j + 1 + a) := by ring
        _ ≤ d * 2 ^ b := Nat.mul_le_mul_left d (Nat.pow_le_pow_right Nat.two_pos (by omega))
    rw [hzero]
    change 0 = _
    omega

/-- The end of rounding: a mantissa of 54 binary digits, which only a carry makes, loses one. -/
def settle (s : Sign) (m : Nat) (e : Int) : UnpackedFloat :=
  let (em, e) := shiftToTargetExponent Format.binary64 m e .exact
  if h : em.mantissa = 0 then .zero s else .finite s em.mantissa e (Nat.pos_of_ne_zero h)

theorem roundWithAccuracy_eq_settle (s : Sign) (m : Nat) (e : Int) (accuracy : Accuracy) :
    roundWithAccuracy Format.binary64 s m e accuracy =
      let first := shiftToTargetExponent Format.binary64 m e accuracy
      settle s first.1.roundedMantissa first.2 := rfl

/-- The end of rounding keeps the number and leaves it in canonical form. -/
theorem settle_spec (s : Sign) {m : Nat} {e : Int} (hm : m ≤ 2 ^ 53) (he : -1074 ≤ e)
    (hc : 2 ^ 52 ≤ m ∨ e = -1074) :
    ofUnpacked (settle s m e) = .finite (isNegative s) (m * 2 ^ (e + 1074).toNat) ∧
      Canonical (settle s m e) := by
  by_cases hcarry : m = 2 ^ 53
  · subst hcarry
    have htarget : max (((2 ^ 53 : Nat).log2 : Int) + e - 52) (-1074) = e + 1 := by
      rw [Nat.log2_two_pow]
      omega
    have hshift := shiftToTargetExponent_eq (m := 2 ^ 53) (e := e) .exact (by omega)
    rw [htarget, show (e + 1 - e).toNat = 1 by omega] at hshift
    have hsettle : settle s (2 ^ 53) e = .finite s (2 ^ 52) (e + 1) (by decide) := by
      unfold settle
      rw [hshift]
      rfl
    rw [hsettle]
    refine ⟨?_, by decide, by omega, Or.inl le_rfl⟩
    have hexp : (e + 1 + 1074).toNat = (e + 1074).toNat + 1 := by omega
    rw [ofUnpacked, hexp]
    congr 1
    ring
  · have htarget : max ((m.log2 : Int) + e - 52) (-1074) = e := by
      rcases hc with hc | rfl
      · rw [(Nat.log2_eq_iff (by omega)).mpr ⟨hc, by omega⟩]
        omega
      · have hlog : m.log2 ≤ 52 := by
          by_cases hzero : m = 0
          · rw [hzero]
            decide
          · have := (Nat.log2_lt hzero).mpr (show m < 2 ^ 53 by omega)
            omega
        omega
    have hshift := shiftToTargetExponent_eq (m := m) (e := e) .exact (by omega)
    rw [htarget, Int.sub_self] at hshift
    by_cases hzero : m = 0
    · subst hzero
      have hsettle : settle s 0 e = .zero s := by
        unfold settle
        rw [hshift]
        rfl
      rw [hsettle, Nat.zero_mul]
      exact ⟨rfl, trivial⟩
    · have hsettle : settle s m e = .finite s m e (Nat.pos_of_ne_zero hzero) := by
        unfold settle
        rw [hshift]
        exact dif_neg hzero
      rw [hsettle]
      exact ⟨rfl, by omega, he, hc⟩

theorem mantissa_ofMantissaAndAccuracy (m : Nat) (accuracy : Accuracy) :
    (ExtendedMantissa.ofMantissaAndAccuracy m accuracy).mantissa = m := by
  cases accuracy with
  | exact => rfl
  | inexact order => cases order <;> rfl

/-- Rounding gives the nearest double to the tracked quotient, scaled by its exponent. The scale
`K` keeps all powers of two whole. -/
theorem roundWithAccuracy_spec (s : Sign) {m n d K : Nat} {e : Int} {accuracy : Accuracy}
    (hm : m ≠ 0 ∨ e ≤ -1074) (h : Tracks (ExtendedMantissa.ofMantissaAndAccuracy m accuracy) n d)
    (hK : 1074 ≤ K) (heK : 0 ≤ e + K) (he : e ≤ max (m.log2 + e - 52) (-1074)) :
    ofUnpacked (roundWithAccuracy Format.binary64 s m e accuracy) =
        .finite (isNegative s) (roundUnits (n * 2 ^ (e + K).toNat) (d * 2 ^ (K - 1074))) ∧
      Canonical (roundWithAccuracy Format.binary64 s m e accuracy) := by
  have hmant : m = n / d := (mantissa_ofMantissaAndAccuracy m accuracy).symm.trans h.mantissa
  rw [roundWithAccuracy_eq_settle, shiftToTargetExponent_eq accuracy he]
  dsimp only
  generalize ht : max ((m.log2 : Int) + e - 52) (-1074) = t at *
  obtain ⟨k, hk⟩ : ∃ k : Nat, t - e = k := ⟨(t - e).toNat, by omega⟩
  obtain ⟨i, hi⟩ : ∃ i : Nat, t + 1074 = i := ⟨(t + 1074).toNat, by omega⟩
  rw [hk, Int.toNat_natCast, (h.shiftRight k).roundedMantissa]
  have hfloor : n / (d * 2 ^ k) = m / 2 ^ k := by rw [hmant, Nat.div_div_eq_div_mul]
  -- The mantissa loses all but 53 of its binary digits, or all below the least exponent.
  have hlow := le_divHalfEven n (d * 2 ^ k)
  have hhigh := divHalfEven_le n (d * 2 ^ k)
  rw [hfloor] at hlow hhigh
  have hlt : m / 2 ^ k < 2 ^ 53 := by
    rw [Nat.div_lt_iff_lt_mul (Nat.two_pow_pos k), ← Nat.pow_add]
    exact Nat.lt_log2_self.trans_le (Nat.pow_le_pow_right Nat.two_pos (by omega))
  have hc : 2 ^ 52 ≤ divHalfEven n (d * 2 ^ k) ∨ t = -1074 := by
    by_cases hmin : t = -1074
    · exact Or.inr hmin
    · left
      refine le_trans ?_ hlow
      have hne : m ≠ 0 := by
        rintro rfl
        rw [Nat.log2_zero] at ht
        omega
      rw [Nat.le_div_iff_mul_le (Nat.two_pow_pos k), ← Nat.pow_add]
      exact (Nat.le_log2 hne).mp (by omega)
  obtain ⟨hvalue, hcanonical⟩ := settle_spec s (by omega) (show -1074 ≤ t by omega) hc
  refine ⟨?_, hcanonical⟩
  rw [hvalue, hi, Int.toNat_natCast, roundUnits]
  have hshift : (n * 2 ^ (e + K).toNat / (d * 2 ^ (K - 1074))).log2 - 52 = i := by
    by_cases hzero : m = 0
    · -- A quotient below one stays below one at the exponents of the smallest doubles.
      have hle : n * 2 ^ (e + K).toNat / (d * 2 ^ (K - 1074)) = 0 := by
        apply Nat.div_eq_of_lt
        have hnd : n < d := (Nat.div_eq_zero_iff_lt h.pos).mp (hmant.symm.trans hzero)
        exact Nat.mul_lt_mul_of_lt_of_le hnd (Nat.pow_le_pow_right Nat.two_pos (by omega))
          (Nat.two_pow_pos _)
      rw [hle, Nat.log2_zero]
      rw [hzero, Nat.log2_zero] at ht
      omega
    · rw [log2_mul_two_pow_div h.pos (hmant ▸ hzero), ← hmant]
      omega
  have hround : divHalfEven n (d * 2 ^ k) =
      divHalfEven (n * 2 ^ (e + K).toNat) (d * 2 ^ (K - 1074) * 2 ^ i) := by
    have hd := h.pos
    apply divHalfEven_congr (by positivity) (by positivity)
    have hexp : K - 1074 + i = (e + K).toNat + k := by omega
    calc n * (d * 2 ^ (K - 1074) * 2 ^ i) = n * d * 2 ^ (K - 1074 + i) := by ring
      _ = n * 2 ^ (e + K).toNat * (d * 2 ^ k) := by rw [hexp]; ring
  rw [hshift, hround]

end GalaxyScenario.Binary64
