import GalaxyScenario.Proofs.Binary64.Negation
import GalaxyScenario.Proofs.Binary64.Packed
import GalaxyScenario.Proofs.Binary64.SignedZero

/-! Squares of doubles. Rounding moves a square by half a step at most, and the squares of two
doubles are more than a step apart wherever 53 binary digits are kept. So comparing squares compares
the doubles, except near zero and beyond the largest double, where different squares can become
one. -/
namespace GalaxyScenario.Binary64
open Float.Model Float.Model.UnpackedFloat

section Rounding

variable {n d : Nat}

theorem divHalfEven_error (n : Nat) (hd : 0 < d) :
    2 * (divHalfEven n d * d) ≤ 2 * n + d ∧ 2 * n ≤ 2 * (divHalfEven n d * d) + d := by
  have hn := Nat.div_add_mod n d
  have hr := Nat.mod_lt n hd
  have hcarry : (n / d + 1) * d = d * (n / d) + d := by ring
  have hkeep : n / d * d = d * (n / d) := Nat.mul_comm _ _
  unfold divHalfEven
  dsimp only
  split_ifs with hlow hhigh
  · omega
  · omega
  · rcases Nat.mod_two_eq_zero_or_one (n / d) with heven | hodd
    · rw [heven, Nat.add_zero]
      omega
    · rw [hodd]
      omega

/-- The place value of the last of the 53 binary digits that are kept, in parts of `d`. -/
def lastPlace (n d : Nat) : Nat := d * 2 ^ ((n / d).log2 - 52)

theorem roundUnits_error (n : Nat) (hd : 0 < d) :
    2 * (roundUnits n d * d) ≤ 2 * n + lastPlace n d ∧
      2 * n ≤ 2 * (roundUnits n d * d) + lastPlace n d := by
  have hround : roundUnits n d * d = divHalfEven n (lastPlace n d) * lastPlace n d := by
    simp only [roundUnits, lastPlace]
    ring
  rw [hround]
  exact divHalfEven_error n (Nat.mul_pos hd (Nat.two_pow_pos _))

theorem lastPlace_mono {n' : Nat} (h : n ≤ n') : lastPlace n d ≤ lastPlace n' d := by
  have hlog : (n / d).log2 ≤ (n' / d).log2 := by
    simp only [Nat.log2_eq_log_two]
    exact Nat.log_mono_right (Nat.div_le_div_right h)
  exact Nat.mul_le_mul_left d (Nat.pow_le_pow_right Nat.two_pos (by omega))

/-- Where all digits are kept, the last place is small against the number. -/
theorem lastPlace_mul_le (hd : 0 < d) (h : 2 ^ 52 * d ≤ n) : lastPlace n d * 2 ^ 52 ≤ n := by
  have hq : 2 ^ 52 ≤ n / d := (Nat.le_div_iff_mul_le hd).mpr h
  have hne : n / d ≠ 0 := by omega
  have hlog : 52 ≤ (n / d).log2 := (Nat.le_log2 hne).mpr hq
  calc lastPlace n d * 2 ^ 52 = d * 2 ^ (n / d).log2 := by
        rw [lastPlace, Nat.mul_assoc, ← Nat.pow_add, Nat.sub_add_cancel hlog]
    _ ≤ d * (n / d) := Nat.mul_le_mul_left d (Nat.log2_self_le hne)
    _ ≤ n := Nat.mul_div_le n d

/-- Numbers that are more than a last place apart are rounded apart. -/
theorem roundUnits_lt_of_gap {n' : Nat} (hd : 0 < d) (h : n + lastPlace n' d < n') :
    roundUnits n d < roundUnits n' d := by
  have hlow := (roundUnits_error n hd).1
  have hhigh := (roundUnits_error n' hd).2
  have hplace := lastPlace_mono (d := d) (show n ≤ n' by omega)
  exact Nat.lt_of_mul_lt_mul_right (a := d) (by omega)

end Rounding

theorem unitsOfBits_lt_iff {a b : Nat} : unitsOfBits a < unitsOfBits b ↔ a < b := by
  constructor
  · intro h
    exact lt_of_le_of_ne (le_of_unitsOfBits_le h.le) fun heq => h.ne (congrArg unitsOfBits heq)
  · intro h
    exact Nat.lt_of_not_le fun hle => absurd (le_of_unitsOfBits_le hle) (by omega)

section Mantissa

variable {x : Float} {a : Int}

/-- A finite double has a mantissa of 53 binary digits, or fewer where the exponent is the least. -/
theorem HasUnits.exists_mantissa (h : HasUnits x a) :
    ∃ m j, m < 2 ^ 53 ∧ j ≤ 2045 ∧ (2 ^ 52 ≤ m ∨ j = 0) ∧ a.natAbs = m * 2 ^ j := by
  obtain ⟨hfinite, hunits⟩ := h.unitsOfBits_eq
  rw [← hunits]
  generalize magnitudeBits x = bits at hfinite
  have hone : hiddenBit = 2 ^ 52 := rfl
  by_cases hsmall : bits < hiddenBit
  · refine ⟨bits, 0, by omega, Nat.zero_le _, Or.inr rfl, ?_⟩
    rw [unitsOfBits_of_lt hsmall, pow_zero, Nat.mul_one]
  · obtain ⟨k, m, hhigh, hlow, rfl⟩ := exists_exponent_mantissa (Nat.le_of_not_lt hsmall)
    refine ⟨m, k, by omega, ?_, Or.inl (hone ▸ hhigh), unitsOfBits_add hhigh hlow⟩
    have hfield : k * hiddenBit < 2046 * hiddenBit := by
      rw [infinityBits] at hfinite
      omega
    exact Nat.le_of_lt_succ (Nat.lt_of_mul_lt_mul_right hfield)

theorem HasUnits.isDouble (h : HasUnits x a) : IsDouble a := by
  obtain ⟨m, j, hm, hj, -, ha⟩ := h.exists_mantissa
  exact ⟨m, j, hm, hj, ha⟩

end Mantissa

section Strict

variable {a b m m' j k d : Nat}

/-- A smaller double is at least one step of the mantissa below. -/
theorem mul_le_pred_mul (hm : 2 ^ 52 < m) (hm' : m' < 2 ^ 53) (h : m' * 2 ^ j < m * 2 ^ k) :
    m * (m' * 2 ^ j) ≤ (m - 1) * (m * 2 ^ k) := by
  suffices hstep : m' * 2 ^ j ≤ (m - 1) * 2 ^ k by
    calc m * (m' * 2 ^ j) ≤ m * ((m - 1) * 2 ^ k) := Nat.mul_le_mul_left m hstep
      _ = (m - 1) * (m * 2 ^ k) := by ring
  rcases Nat.lt_or_ge j k with hjk | hkj
  · obtain ⟨i, rfl⟩ := Nat.exists_eq_add_of_lt hjk
    calc m' * 2 ^ j ≤ 2 ^ 53 * 2 ^ j := Nat.mul_le_mul_right _ hm'.le
      _ = 2 ^ 52 * 2 ^ (j + 1) := by ring
      _ ≤ (m - 1) * 2 ^ (j + i + 1) :=
        Nat.mul_le_mul (by omega) (Nat.pow_le_pow_right Nat.two_pos (by omega))
  · obtain ⟨i, rfl⟩ := Nat.exists_eq_add_of_le hkj
    have hsplit : m' * 2 ^ (k + i) = m' * 2 ^ i * 2 ^ k := by ring
    rw [hsplit] at h ⊢
    have hlt := Nat.lt_of_mul_lt_mul_right h
    exact Nat.mul_le_mul_right _ (by omega)

/-- Below a power of two the mantissas have one more place. -/
theorem mul_le_pred_mul_of_two_pow (hm' : m' < 2 ^ 53) (h : m' * 2 ^ j < 2 ^ 52 * 2 ^ k) :
    2 ^ 53 * (m' * 2 ^ j) ≤ (2 ^ 53 - 1) * (2 ^ 52 * 2 ^ k) := by
  rcases Nat.lt_or_ge j k with hjk | hkj
  · obtain ⟨i, rfl⟩ := Nat.exists_eq_add_of_lt hjk
    calc 2 ^ 53 * (m' * 2 ^ j) ≤ 2 ^ 53 * ((2 ^ 53 - 1) * 2 ^ j) := by gcongr; omega
      _ = (2 ^ 53 - 1) * (2 ^ 52 * 2 ^ (j + 1)) := by ring
      _ ≤ (2 ^ 53 - 1) * (2 ^ 52 * 2 ^ (j + i + 1)) := by gcongr <;> omega
  · obtain ⟨i, rfl⟩ := Nat.exists_eq_add_of_le hkj
    have hsplit : m' * 2 ^ (k + i) = m' * 2 ^ i * 2 ^ k := by ring
    rw [hsplit] at h ⊢
    have hlt := Nat.lt_of_mul_lt_mul_right h
    calc 2 ^ 53 * (m' * 2 ^ i * 2 ^ k) = 2 ^ 53 * (m' * 2 ^ i) * 2 ^ k := by ring
      _ ≤ (2 ^ 53 - 1) * 2 ^ 52 * 2 ^ k := Nat.mul_le_mul_right _ (by omega)
      _ = _ := by ring

/-- Two numbers whose quotient is at most `p / (p + 1)` have squares a last place apart. -/
theorem mul_self_add_lt {p place : Nat} (hp : 2 ^ 52 ≤ p) (hp' : p + 1 < 2 ^ 53) (hb : 0 < b)
    (h : (p + 1) * a ≤ p * b) (hplace : place * 2 ^ 52 ≤ b * b) : a * a + place < b * b := by
  have hstep : (p + 1) * (p + 1) < 2 ^ 52 * (2 * p + 1) := by
    have hmul := Nat.mul_le_mul_left (p + 1) (show p + 1 ≤ 2 ^ 53 - 1 by omega)
    omega
  have hsquare := Nat.mul_le_mul h h
  refine Nat.lt_of_mul_lt_mul_left (a := 2 ^ 52 * ((p + 1) * (p + 1))) ?_
  calc 2 ^ 52 * ((p + 1) * (p + 1)) * (a * a + place)
      = 2 ^ 52 * ((p + 1) * a * ((p + 1) * a)) + (p + 1) * (p + 1) * (place * 2 ^ 52) := by ring
    _ ≤ 2 ^ 52 * (p * b * (p * b)) + (p + 1) * (p + 1) * (b * b) := by gcongr
    _ < 2 ^ 52 * (p * b * (p * b)) + 2 ^ 52 * (2 * p + 1) * (b * b) := by gcongr
    _ = 2 ^ 52 * ((p + 1) * (p + 1)) * (b * b) := by ring

/-- The squares of two doubles are rounded apart where all digits are kept. The square of a power of
two is not rounded, which makes up for the smaller distance below it. -/
theorem roundUnits_mul_self_lt {e : Nat} (hm : 2 ^ 52 ≤ m) (hm' : m < 2 ^ 53) (hn : m' < 2 ^ 53)
    (h : m' * 2 ^ j < m * 2 ^ k) (hd : d = 2 ^ e)
    (hkept : 2 ^ 53 * d ≤ m * 2 ^ k * (m * 2 ^ k)) :
    roundUnits (m' * 2 ^ j * (m' * 2 ^ j)) d < roundUnits (m * 2 ^ k * (m * 2 ^ k)) d := by
  have hdpos : 0 < d := hd ▸ Nat.two_pow_pos e
  have hplace := lastPlace_mul_le hdpos (show 2 ^ 52 * d ≤ m * 2 ^ k * (m * 2 ^ k) by omega)
  have hpos : 0 < m * 2 ^ k := by omega
  rcases Nat.lt_or_eq_of_le hm with hlt | rfl
  · obtain ⟨p, rfl⟩ := Nat.exists_eq_add_one_of_ne_zero (show m ≠ 0 by omega)
    have hle := mul_le_pred_mul hlt hn h
    rw [Nat.add_sub_cancel] at hle
    exact roundUnits_lt_of_gap hdpos (mul_self_add_lt (by omega) hm' hpos hle hplace)
  · have hle := mul_le_pred_mul_of_two_pow hn h
    generalize m' * 2 ^ j = a at h hle ⊢
    obtain ⟨i, hi⟩ : ∃ i, 52 + 52 + (k + k) = e + i := by
      refine Nat.exists_eq_add_of_le ((Nat.pow_le_pow_iff_right Nat.one_lt_two).mp ?_)
      calc 2 ^ e ≤ 2 ^ 53 * d := by omega
        _ ≤ 2 ^ 52 * 2 ^ k * (2 ^ 52 * 2 ^ k) := hkept
        _ = 2 ^ (52 + 52 + (k + k)) := by ring
    have hexact : 2 ^ 52 * 2 ^ k * (2 ^ 52 * 2 ^ k) = 1 * 2 ^ i * d := by
      calc 2 ^ 52 * 2 ^ k * (2 ^ 52 * 2 ^ k) = 2 ^ (52 + 52 + (k + k)) := by ring
        _ = 1 * 2 ^ i * d := by rw [hi, hd]; ring
    have hround := roundUnits_mul_two_pow i (by decide : 1 < 2 ^ 53) hdpos
    generalize 2 ^ 52 * 2 ^ k = b at *
    have hsquare : 2 ^ 53 * 2 ^ 53 * (a * a) ≤ (2 ^ 53 - 1) * (2 ^ 53 - 1) * (b * b) := by
      rw [Nat.mul_mul_mul_comm, Nat.mul_mul_mul_comm (2 ^ 53 - 1)]
      exact Nat.mul_le_mul hle hle
    have herror := (roundUnits_error (a * a) hdpos).1
    have hmono := lastPlace_mono (d := d) (Nat.mul_le_mul h.le h.le)
    have hbb : 0 < b * b := Nat.mul_pos hpos hpos
    rw [hexact, hround]
    refine Nat.lt_of_mul_lt_mul_right (a := d) ?_
    rw [← hexact]
    omega

end Strict

section Order

variable {x y : Float}

theorem hasUnits_of_signBit (hsign : signBit x = false) (hfinite : magnitudeBits x < infinityBits) :
    HasUnits x (unitsOfBits (magnitudeBits x)) :=
  ⟨false, _, ofFloat_eq_finite_iff.mpr ⟨hsign, hfinite, rfl⟩, rfl⟩

theorem not_infinity_lt (g : UnpackedFloat) : (UnpackedFloat.infinity .positive).lt g = false := by
  cases g with
  | notANumber | zero | finite => rfl
  | infinity s => cases s <;> rfl

theorem not_lt_infinity (f : UnpackedFloat) : f.lt (.infinity .negative) = false := by
  cases f with
  | notANumber | zero | finite => rfl
  | infinity s => cases s <;> rfl

theorem lt_iff_magnitudeBits_lt (hx : signBit x = false) (hy : signBit y = false)
    (hx' : magnitudeBits x ≤ infinityBits) (hy' : magnitudeBits y ≤ infinityBits) :
    x < y ↔ magnitudeBits x < magnitudeBits y := by
  rcases Nat.lt_or_eq_of_le hx' with hfinite | htop
  · have hxu := hasUnits_of_signBit hx hfinite
    rcases Nat.lt_or_eq_of_le hy' with hfinite' | htop'
    · rw [hxu.lt_iff (hasUnits_of_signBit hy hfinite'), Int.ofNat_lt, unitsOfBits_lt_iff]
    · refine iff_of_true ?_ (by omega)
      rw [lt_iff_unpack_lt, unpack_eq_infinity (ofFloat_eq_infinite_iff.mpr ⟨hy, htop'⟩)]
      rcases (hasUnits_iff_represents.mp hxu).zero_or_finite with
        ⟨s, hf, -⟩ | ⟨s, m, e, pos, hf, -⟩ <;> rw [hf] <;> cases s <;> rfl
  · refine iff_of_false ?_ (by omega)
    rw [lt_iff_unpack_lt, unpack_eq_infinity (ofFloat_eq_infinite_iff.mpr ⟨hx, htop⟩),
      not_infinity_lt]
    exact Bool.false_ne_true

theorem HasUnits.neg {a : Int} (h : HasUnits x a) : HasUnits (-x) (-a) := by
  obtain ⟨negative, units, hx, rfl⟩ := h
  exact ⟨!negative, units, ofFloat_neg hx, by cases negative <;> simp [signed]⟩

theorem HasUnits.bits_mul_self {a : Int} (h : HasUnits x a) : signBit (x * x) = false ∧
    magnitudeBits (x * x) = min (roundBits (a.natAbs * a.natAbs) unitsPerOne) infinityBits := by
  have hnearest := h.nearest_mul h
  rw [← Int.natAbs_mul]
  refine ⟨?_, hnearest.magnitude⟩
  by_cases hzero : a = 0
  · subst hzero
    obtain ⟨s, hs⟩ := (hasUnits_iff_represents.mp h).exists_zero
    have hsquare : (x * x).toModel.unpack = .zero .positive := by
      change (Float.Model.pack (UnpackedFloat.mul _ x.toModel.unpack x.toModel.unpack)).unpack = _
      rw [hs]
      cases s <;> rfl
    exact (bits_of_unpack_zero hsquare).1
  · rw [hnearest.sign (Int.mul_ne_zero hzero hzero)]
    exact decide_eq_false (Int.not_lt.mpr (mul_self_nonneg a))

/-- Comparing squares compares their exact values, except where rounding makes them one. -/
theorem HasUnits.mul_self_lt_iff {a b : Int} (hx : HasUnits x a) (hy : HasUnits y b) :
    x * x < y * y ↔ min (roundBits (a.natAbs * a.natAbs) unitsPerOne) infinityBits <
      min (roundBits (b.natAbs * b.natAbs) unitsPerOne) infinityBits := by
  obtain ⟨hsign, hbits⟩ := hx.bits_mul_self
  obtain ⟨hsign', hbits'⟩ := hy.bits_mul_self
  rw [lt_iff_magnitudeBits_lt hsign hsign' (by omega) (by omega), hbits, hbits']

theorem roundBits_mul_self_mono {m n : Nat} (h : m ≤ n) :
    roundBits (m * m) unitsPerOne ≤ roundBits (n * n) unitsPerOne :=
  roundBits_mono unitsPerOne_pos unitsPerOne_pos (Nat.mul_le_mul_right _ (Nat.mul_le_mul h h))

/-- The square of what is neither finite nor NaN is not less than anything. -/
theorem not_mul_self_lt_of_infinite {negative : Bool} (h : ofFloat x = .infinite negative) :
    ¬ x * x < y := by
  have hlt : x * x < y ↔ (Float.Model.pack (UnpackedFloat.mul Format.binary64 x.toModel.unpack
      x.toModel.unpack)).unpack.lt y.toModel.unpack = true := decide_eq_true_iff
  obtain ⟨s, hs, -⟩ := exists_unpack_infinity h
  have hsquare : UnpackedFloat.mul Format.binary64 (.infinity s) (.infinity s) =
      .infinity .positive := by cases s <;> rfl
  rw [hlt, hs, hsquare, unpack_pack_infinity, not_infinity_lt]
  exact Bool.false_ne_true

theorem HasUnits.not_mul_self_lt {b : Int} (hy : HasUnits y b) (hx : magnitudeBits x ≤ infinityBits)
    (h : magnitudeBits y ≤ magnitudeBits x) : ¬ x * x < y * y := by
  rcases Nat.lt_or_eq_of_le hx with hfinite | htop
  · obtain ⟨a, ha⟩ := isFinite_iff_exists_hasUnits.mp (decide_eq_true hfinite)
    have hle : b.natAbs ≤ a.natAbs := by
      rw [← hy.unitsOfBits_eq.2, ← ha.unitsOfBits_eq.2]
      exact Nat.le_of_not_lt fun hlt => absurd (unitsOfBits_lt_iff.mp hlt) (by omega)
    have hmono := roundBits_mul_self_mono hle
    rw [ha.mul_self_lt_iff hy]
    omega
  · exact not_mul_self_lt_of_infinite (ofFloat_eq_infinite_iff.mpr ⟨rfl, htop⟩)

end Order

section Range

variable {x y : Float}

/-- The units of doubles whose squares keep all digits and stay finite. -/
theorem bounds_of_range {b : Int} (hy : HasUnits y b) (hlow : 1e-150 ≤ y) (hhigh : y ≤ 1e150) :
    0 < b ∧ 2 ^ 53 * unitsPerOne ≤ b.natAbs * b.natAbs ∧
      roundBits (b.natAbs * b.natAbs) unitsPerOne ≤ infinityBits := by
  have hleast := hasUnits_of_signBit (x := 1e-150) (by decide +kernel) (by decide +kernel)
  have hmost := hasUnits_of_signBit (x := 1e150) (by decide +kernel) (by decide +kernel)
  have hkept : 2 ^ 53 * unitsPerOne ≤
      unitsOfBits (magnitudeBits 1e-150) * unitsOfBits (magnitudeBits 1e-150) := by decide +kernel
  have hbounded : unitsOfBits (magnitudeBits 1e150) * unitsOfBits (magnitudeBits 1e150) ≤
      unitsOfBits infinityBits * unitsPerOne := by decide +kernel
  rw [hleast.le_iff hy] at hlow
  rw [hy.le_iff hmost] at hhigh
  generalize unitsOfBits (magnitudeBits 1e-150) = least at *
  generalize unitsOfBits (magnitudeBits 1e150) = most at *
  have hle : least ≤ b.natAbs := by omega
  have hle' : b.natAbs ≤ most := by omega
  have hone := unitsPerOne_pos
  refine ⟨?_, hkept.trans (Nat.mul_le_mul hle hle), ?_⟩
  · have hpos : 0 < least := Nat.pos_of_ne_zero fun hzero => by
      rw [hzero] at hkept
      omega
    omega
  · rw [← roundBits_unitsOfBits infinityBits hone]
    exact roundBits_mono hone hone
      (Nat.mul_le_mul_right _ ((Nat.mul_le_mul hle' hle').trans hbounded))

theorem isFinite_of_range (hlow : 1e-150 ≤ y) (hhigh : y ≤ 1e150) : isFinite y = true := by
  have hpos : (0.0 : Float) < 1e-150 := by decide +kernel
  have hfinite : isFinite 1e150 = true := by decide +kernel
  refine isFinite_of_le_of_le hpos hlow hhigh fun htop => ?_
  have hbits := (ofFloat_eq_infinite_iff.mp htop).2
  have hlt := of_decide_eq_true hfinite
  omega

/-- In this range squares of doubles are ordered as the doubles are: rounding keeps them apart. -/
theorem HasUnits.mul_self_lt_iff_of_range {a b : Int} (hx : HasUnits x a) (hy : HasUnits y b)
    (hlow : 1e-150 ≤ y) (hhigh : y ≤ 1e150) : x * x < y * y ↔ a.natAbs < b.natAbs := by
  obtain ⟨hpos, hkept, hfinite⟩ := bounds_of_range hy hlow hhigh
  rw [hx.mul_self_lt_iff hy]
  constructor
  · intro hlt
    by_contra hle
    have hmono := roundBits_mul_self_mono (Nat.le_of_not_lt hle)
    omega
  · intro hlt
    suffices hround : roundUnits (a.natAbs * a.natAbs) unitsPerOne <
        roundUnits (b.natAbs * b.natAbs) unitsPerOne by
      rw [← unitsOfBits_roundBits, ← unitsOfBits_roundBits, unitsOfBits_lt_iff] at hround
      omega
    obtain ⟨m, k, hm, -, hlong, hb⟩ := hy.exists_mantissa
    obtain ⟨m', j, hm', -, -, ha⟩ := hx.exists_mantissa
    obtain ⟨e, he⟩ : ∃ e : Nat, e = 1074 := ⟨_, rfl⟩
    rw [ha, hb] at hlt ⊢
    rw [hb] at hkept
    refine roundUnits_mul_self_lt ?_ hm hm' hlt (two_pow_eq_unitsPerOne he).symm hkept
    rcases hlong with hlong | rfl
    · exact hlong
    · rw [pow_zero, Nat.mul_one, ← two_pow_eq_unitsPerOne he] at hkept
      have hsmall : m * m < 2 ^ 53 * 2 ^ 53 := Nat.mul_lt_mul'' hm hm
      have hlarge : 2 ^ 53 ≤ 2 ^ e := Nat.pow_le_pow_right Nat.two_pos (by omega)
      omega

/-- A square is less than that of a double in the range exactly for what lies between the double and
its negative. -/
theorem mul_self_lt_iff_between (x : Float) (hlow : 1e-150 ≤ y) (hhigh : y ≤ 1e150) :
    x * x < y * y ↔ -y < x ∧ x < y := by
  obtain ⟨b, hy⟩ := isFinite_iff_exists_hasUnits.mp (isFinite_of_range hlow hhigh)
  have hpos := (bounds_of_range hy hlow hhigh).1
  cases hx : ofFloat x with
  | finite negative units =>
    have hx : HasUnits x (signed negative units) := ⟨negative, units, hx, rfl⟩
    rw [hx.mul_self_lt_iff_of_range hy hlow hhigh, hy.neg.lt_iff hx, hx.lt_iff hy]
    omega
  | nan =>
    obtain rfl := ofFloat_eq_nan_iff.mp hx
    have hnan : Float.nan.toModel.unpack = .notANumber := rfl
    have hsquare : (Float.nan * Float.nan).toModel.unpack = .notANumber := rfl
    simp only [lt_iff_unpack_lt, hnan, hsquare]
    exact iff_of_false nofun fun h => nomatch h.2
  | infinite negative =>
    obtain ⟨s, hs, -⟩ := exists_unpack_infinity hx
    refine iff_of_false (not_mul_self_lt_of_infinite hx) ?_
    rintro ⟨hleft, hright⟩
    rw [lt_iff_unpack_lt, hs] at hleft hright
    cases s with
    | negative =>
      rw [not_lt_infinity] at hleft
      cases hleft
    | positive =>
      rw [not_infinity_lt] at hright
      cases hright

end Range

end GalaxyScenario.Binary64
