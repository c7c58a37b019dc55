import GalaxyScenario.Proofs.Binary64.Exact

/-! The bits of the double nearest to a fraction. They depend only on the value of the fraction,
grow with it, and are those of a double wherever the fraction is one. Since bits and units grow
together, finite doubles with the same units have the same bits. -/
namespace GalaxyScenario.Binary64

/-- The magnitude bits of the double nearest to `n / d` units, as if there were no largest
double. -/
def roundBits (n d : Nat) : Nat :=
  let shift := (n / d).log2 - 52
  shift * hiddenBit + divHalfEven n (d * 2 ^ shift)

theorem nearestBits_eq_min (num den : Nat) :
    nearestBits num den = min (roundBits (num * unitsPerOne) den) infinityBits := by
  simp only [nearestBits, roundBits, Nat.shiftLeft_eq]

theorem div_eq_div_of_mul_eq {n d n' d' : Nat} (hd : 0 < d) (hd' : 0 < d')
    (h : n * d' = n' * d) : n / d = n' / d' := by
  rw [← Nat.mul_div_mul_right n d hd', h, Nat.mul_comm d d', Nat.mul_div_mul_right n' d' hd]

theorem roundBits_congr {n d n' d' : Nat} (hd : 0 < d) (hd' : 0 < d') (h : n * d' = n' * d) :
    roundBits n d = roundBits n' d' := by
  unfold roundBits
  rw [div_eq_div_of_mul_eq hd hd' h]
  dsimp only
  congr 1
  refine divHalfEven_congr (by positivity) (by positivity) ?_
  rw [← Nat.mul_assoc, ← Nat.mul_assoc, h]

/-- The rounded mantissa has 53 binary digits, or one more by a carry; fewer only at the least
exponent. -/
theorem roundedMantissa_bounds {n d shift : Nat} (hshift : (n / d).log2 - 52 = shift) :
    divHalfEven n (d * 2 ^ shift) ≤ 2 * hiddenBit ∧
      (0 < shift → hiddenBit ≤ divHalfEven n (d * 2 ^ shift)) := by
  have hfloor : n / (d * 2 ^ shift) = n / d / 2 ^ shift := by rw [Nat.div_div_eq_div_mul]
  have hlow := le_divHalfEven n (d * 2 ^ shift)
  have hhigh := divHalfEven_le n (d * 2 ^ shift)
  rw [hfloor] at hlow hhigh
  generalize n / d = q at *
  constructor
  · have hlt : q / 2 ^ shift < 2 ^ 53 := by
      rw [Nat.div_lt_iff_lt_mul (Nat.two_pow_pos shift), ← Nat.pow_add]
      exact lt_of_lt_of_le Nat.lt_log2_self (Nat.pow_le_pow_right Nat.two_pos (by omega))
    change _ ≤ 2 * 2 ^ 52
    omega
  · intro hpos
    have hne : q ≠ 0 := by
      rintro rfl
      change 0 - 52 = shift at hshift
      omega
    refine le_trans ?_ hlow
    rw [Nat.le_div_iff_mul_le (Nat.two_pow_pos shift)]
    change 2 ^ 52 * 2 ^ shift ≤ q
    rw [← Nat.pow_add]
    exact le_trans (Nat.pow_le_pow_right Nat.two_pos (by omega)) (Nat.log2_self_le hne)

theorem unitsOfBits_roundBits (n d : Nat) :
    unitsOfBits (roundBits n d) = roundUnits n d := by
  unfold roundBits roundUnits
  obtain ⟨shift, hshift⟩ : ∃ shift, (n / d).log2 - 52 = shift := ⟨_, rfl⟩
  obtain ⟨hhigh, hlow⟩ := roundedMantissa_bounds hshift
  rw [hshift]
  dsimp only
  generalize divHalfEven n (d * 2 ^ shift) = q at *
  by_cases hcarry : q = 2 * hiddenBit
  · have heq : shift * hiddenBit + q = (shift + 1) * hiddenBit + hiddenBit := by
      rw [hcarry]
      ring
    rw [heq, unitsOfBits_add le_rfl (by decide), hcarry]
    ring
  · by_cases hsmall : q < hiddenBit
    · obtain rfl : shift = 0 := by omega
      rw [Nat.zero_mul, Nat.zero_add, unitsOfBits_of_lt hsmall, pow_zero, Nat.mul_one]
    · exact unitsOfBits_add (by omega) (by omega)

theorem exists_exponent_mantissa {bits : Nat} (h : hiddenBit ≤ bits) :
    ∃ k m, hiddenBit ≤ m ∧ m < 2 * hiddenBit ∧ bits = k * hiddenBit + m := by
  have hmod := Nat.div_add_mod bits hiddenBit
  have hlt : bits % hiddenBit < hiddenBit := Nat.mod_lt _ (by decide)
  obtain ⟨k, hk⟩ : ∃ k, bits / hiddenBit = k + 1 :=
    Nat.exists_eq_add_one_of_ne_zero (Nat.div_ne_zero_iff.mpr ⟨by decide, h⟩)
  rw [hk, Nat.mul_succ, Nat.mul_comm hiddenBit k] at hmod
  exact ⟨k, hiddenBit + bits % hiddenBit, by omega, by omega, by omega⟩

theorem roundBits_unitsOfBits (bits : Nat) {d : Nat} (hd : 0 < d) :
    roundBits (unitsOfBits bits * d) d = bits := by
  unfold roundBits
  rw [Nat.mul_div_cancel _ hd]
  by_cases hsmall : bits < hiddenBit
  · have hlog : bits.log2 ≤ 52 := by
      by_cases hzero : bits = 0
      · rw [hzero]
        decide
      · exact Nat.le_of_lt ((Nat.log2_lt hzero).mpr hsmall)
    rw [unitsOfBits_of_lt hsmall, show bits.log2 - 52 = 0 by omega]
    dsimp only
    rw [Nat.zero_mul, Nat.zero_add, pow_zero, Nat.mul_one, divHalfEven_mul_self bits hd]
  · obtain ⟨k, m, hhigh, hlow, rfl⟩ := exists_exponent_mantissa (Nat.le_of_not_lt hsmall)
    have hhigh' : 2 ^ 52 ≤ m := hhigh
    have hlow' : m < 2 * 2 ^ 52 := hlow
    have hlog : (m * 2 ^ k).log2 - 52 = k := by
      have hm : m.log2 = 52 := (Nat.log2_eq_iff (by omega)).mpr ⟨hhigh', by omega⟩
      have hmul := log2_mul_two_pow_div Nat.one_pos (by rw [Nat.div_one]; omega : m / 1 ≠ 0) k 0
      rw [pow_zero, Nat.mul_one, Nat.div_one, Nat.div_one, hm] at hmul
      omega
    rw [unitsOfBits_add hhigh hlow, hlog]
    dsimp only
    rw [show m * 2 ^ k * d = m * (d * 2 ^ k) by ring, divHalfEven_mul_self m (by positivity)]

theorem unitsOfBits_injective : Function.Injective unitsOfBits := by
  intro a b h
  rw [← roundBits_unitsOfBits a Nat.one_pos, h, roundBits_unitsOfBits b Nat.one_pos]

theorem divHalfEven_mono_left {a b : Nat} (d : Nat) (h : a ≤ b) :
    divHalfEven a d ≤ divHalfEven b d := by
  have hdiv := Nat.div_le_div_right (c := d) h
  have ha := divHalfEven_le a d
  have hb := le_divHalfEven b d
  rcases Nat.lt_or_eq_of_le hdiv with hlt | heq
  · omega
  · have hmod : a % d ≤ b % d := by
      have hda := Nat.div_add_mod a d
      have hdb := Nat.div_add_mod b d
      rw [heq] at hda
      omega
    unfold divHalfEven
    rw [heq]
    dsimp only
    split_ifs <;> omega

theorem divHalfEven_mono {n d n' d' : Nat} (hd : 0 < d) (hd' : 0 < d') (h : n * d' ≤ n' * d) :
    divHalfEven n d ≤ divHalfEven n' d' := by
  rw [← divHalfEven_mul_right n d hd', ← divHalfEven_mul_right n' d' hd, Nat.mul_comm d' d]
  exact divHalfEven_mono_left (d * d') h

theorem roundBits_mono {n d n' d' : Nat} (hd : 0 < d) (hd' : 0 < d') (h : n * d' ≤ n' * d) :
    roundBits n d ≤ roundBits n' d' := by
  have hdiv : n / d ≤ n' / d' := by
    rw [← Nat.mul_div_mul_right n d hd', ← Nat.mul_div_mul_right n' d' hd, Nat.mul_comm d' d]
    exact Nat.div_le_div_right h
  obtain ⟨shift, hshift⟩ : ∃ shift, (n / d).log2 - 52 = shift := ⟨_, rfl⟩
  obtain ⟨shift', hshift'⟩ : ∃ shift', (n' / d').log2 - 52 = shift' := ⟨_, rfl⟩
  have hle : shift ≤ shift' := by
    have hlog : (n / d).log2 ≤ (n' / d').log2 := by
      simp only [Nat.log2_eq_log_two]
      exact Nat.log_mono_right hdiv
    omega
  have hhigh := (roundedMantissa_bounds hshift).1
  have hlow' := (roundedMantissa_bounds hshift').2
  simp only [roundBits, hshift, hshift']
  rcases Nat.lt_or_eq_of_le hle with hlt | rfl
  · -- The hidden bit of the larger one makes up for a carry out of the smaller one.
    have hstep : (shift + 1) * hiddenBit ≤ shift' * hiddenBit := Nat.mul_le_mul_right _ hlt
    rw [Nat.add_mul, Nat.one_mul] at hstep
    have := hlow' (by omega)
    omega
  · refine Nat.add_le_add_left (divHalfEven_mono (by positivity) (by positivity) ?_) _
    rw [← Nat.mul_assoc, ← Nat.mul_assoc]
    exact Nat.mul_le_mul_right _ h

theorem nearestBits_congr {n d n' d' : Nat} (hd : 0 < d) (hd' : 0 < d') (h : n * d' = n' * d) :
    nearestBits n d = nearestBits n' d' := by
  rw [nearestBits_eq_min, nearestBits_eq_min, roundBits_congr hd hd']
  rw [Nat.mul_right_comm, h, Nat.mul_right_comm]

theorem nearestBits_of_units {n d bits : Nat} (hd : 0 < d) (hbits : bits ≤ infinityBits)
    (h : n * unitsPerOne = unitsOfBits bits * d) : nearestBits n d = bits := by
  rw [nearestBits_eq_min, h, roundBits_unitsOfBits bits hd, min_eq_left hbits]

end GalaxyScenario.Binary64
