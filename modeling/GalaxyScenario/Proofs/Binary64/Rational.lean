import GalaxyScenario.Proofs.Binary64.Division
import GalaxyScenario.Proofs.Binary64.Square

/-! The rational number that a double stands for. An operation is exact where its result is the
number of a double, and otherwise off by at most one part in `2 ^ 53`, as long as the result is
neither near zero nor near the largest double. The two roundings of a double to a whole number are
those of its rational number. -/
namespace GalaxyScenario.Binary64

/-- The double stands for a rational number. Both zeros stand for `0`. -/
def IsRational (x : Float) (q : ℚ) : Prop := ∃ a : Int, HasUnits x a ∧ (a : ℚ) = q * unitsPerOne

/-- The rational number is that of a double. -/
def Representable (q : ℚ) : Prop := ∃ a : Int, IsDouble a ∧ (a : ℚ) = q * unitsPerOne

theorem units_pos : (0 : ℚ) < unitsPerOne := Nat.cast_pos.mpr unitsPerOne_pos

theorem IsRational.eq {x : Float} {q r : ℚ} (hq : IsRational x q) (hr : IsRational x r) :
    q = r := by
  obtain ⟨a, ha, haq⟩ := hq
  obtain ⟨b, hb, hbr⟩ := hr
  rw [ha.eq hb, hbr] at haq
  exact (mul_right_cancel₀ units_pos.ne' haq).symm

theorem isRational_intCast {x : Float} {n : Int} : IsRational x n ↔ IsWhole x n := by
  constructor
  · rintro ⟨a, ha, han⟩
    have han : a = n * unitsPerOne := by exact_mod_cast han
    rwa [han] at ha
  · intro h
    exact ⟨n * unitsPerOne, h, by push_cast; rfl⟩

/-- Halves of whole numbers up to `2 ^ 53` are numbers of doubles. -/
theorem representable_half {n : Int} (h : n.natAbs < 2 ^ 53) : Representable (n / 2) := by
  obtain ⟨k, hk⟩ : ∃ k : Nat, k + 1 = 1074 := ⟨_, rfl⟩
  refine ⟨n * 2 ^ k, ⟨n.natAbs, k, h, by omega, ?_⟩, ?_⟩
  · rw [Int.natAbs_mul, Int.natAbs_pow]
    rfl
  · rw [← two_pow_eq_unitsPerOne hk]
    push_cast
    ring

theorem representable_whole {n : Int} (h : n.natAbs ≤ 2 ^ 53) : Representable n :=
  ⟨n * unitsPerOne, isDouble_whole h, by push_cast; rfl⟩

section Exact

variable {x y : Float} {q r : ℚ}

theorem IsRational.sub (hx : IsRational x q) (hy : IsRational y r) (h : Representable (q - r)) :
    IsRational (x - y) (q - r) := by
  obtain ⟨a, ha, haq⟩ := hx
  obtain ⟨b, hb, hbr⟩ := hy
  obtain ⟨c, hc, hcq⟩ := h
  have habc : a - b = c := by
    have hcast : (a : ℚ) - b = c := by rw [haq, hbr, hcq, sub_mul]
    exact_mod_cast hcast
  exact ⟨a - b, ha.sub hb (habc ▸ hc), habc ▸ hcq⟩

theorem IsRational.mul (hx : IsRational x q) (hy : IsRational y r) (h : Representable (q * r)) :
    IsRational (x * y) (q * r) := by
  obtain ⟨a, ha, haq⟩ := hx
  obtain ⟨b, hb, hbr⟩ := hy
  obtain ⟨c, hc, hcq⟩ := h
  refine ⟨c, ha.mul hb hc ?_, hcq⟩
  have hcast : (a : ℚ) * b = c * unitsPerOne := by
    rw [haq, hbr, hcq]
    ring
  exact_mod_cast hcast

theorem IsRational.exists_units (hx : IsRational x q) (hq : 0 < q) :
    ∃ a : Nat, 0 < a ∧ HasUnits x a ∧ (a : ℚ) = q * unitsPerOne := by
  obtain ⟨a, ha, haq⟩ := hx
  have hpos : (0 : ℚ) < a := haq ▸ mul_pos hq units_pos
  obtain ⟨n, rfl⟩ := Int.eq_ofNat_of_zero_le (Int.cast_pos.mp hpos).le
  exact ⟨n, by exact_mod_cast hpos, ha, by exact_mod_cast haq⟩

theorem HasUnits.div {a c : Int} {b : Nat} (hx : HasUnits x a) (hy : HasUnits y b) (hb : 0 < b)
    (hc : IsDouble c) (h : a * unitsPerOne = c * b) : HasUnits (x / y) c := by
  rw [hasUnits_iff_represents] at hx hy
  have hround := div_rounds hx hy (canonical_unpack x) (canonical_unpack y) hb
  exact hasUnits_pack (hround.represents hb h hc) hround.canonical hc

theorem IsRational.div (hx : IsRational x q) (hy : IsRational y r) (hr : 0 < r)
    (h : Representable (q / r)) : IsRational (x / y) (q / r) := by
  obtain ⟨a, ha, haq⟩ := hx
  obtain ⟨b, hpos, hb, hbr⟩ := hy.exists_units hr
  obtain ⟨c, hc, hcq⟩ := h
  refine ⟨c, ha.div hb hpos hc ?_, hcq⟩
  have hcast : (a : ℚ) * unitsPerOne = c * b := by
    rw [haq, hbr, hcq]
    generalize (unitsPerOne : ℚ) = U
    field_simp
  exact_mod_cast hcast

theorem IsRational.neg (hx : IsRational x q) : IsRational (-x) (-q) := by
  obtain ⟨a, ha, haq⟩ := hx
  exact ⟨-a, ha.neg, by push_cast; rw [haq, neg_mul]⟩

end Exact

/-- A number of full length is rounded by at most one part in `2 ^ 53`. -/
theorem roundUnits_relative {n d : Nat} (hd : 0 < d) (h : 2 ^ 52 * d ≤ n) :
    2 ^ 53 * (roundUnits n d * d) ≤ 2 ^ 53 * n + n ∧
      2 ^ 53 * n ≤ 2 ^ 53 * (roundUnits n d * d) + n := by
  have hplace := lastPlace_mul_le hd h
  have herror := roundUnits_error n hd
  omega

/-- A number far below the largest double is not rounded to an infinity. -/
theorem Nearest.hasUnits {x : Float} {n d k : Nat} (h : Nearest x n d) (hd : 0 < d) (hk : k ≤ 2045)
    (hn : n ≤ 2 ^ (52 + k) * d) : HasUnits x (roundUnits n d) := by
  have hmagnitude := h.magnitude
  rw [Int.natAbs_natCast] at hmagnitude
  have htop : roundBits (2 ^ (52 + k)) 1 = k * hiddenBit + hiddenBit := by
    have hunits : 2 ^ (52 + k) = unitsOfBits (k * hiddenBit + hiddenBit) * 1 := by
      rw [unitsOfBits_add le_rfl (by decide), Nat.pow_add, Nat.mul_one]
      rfl
    rw [hunits, roundBits_unitsOfBits _ Nat.one_pos]
  have hmono : roundBits n d ≤ roundBits (2 ^ (52 + k)) 1 :=
    roundBits_mono hd Nat.one_pos (by rwa [Nat.mul_one])
  have hfinite : roundBits n d < infinityBits := by
    have hfield := Nat.mul_le_mul_right hiddenBit hk
    rw [htop] at hmono
    unfold infinityBits hiddenBit at *
    omega
  rw [min_eq_left hfinite.le] at hmagnitude
  refine ⟨signBit x, roundUnits n d, ?_, ?_⟩
  · rw [ofFloat_eq_finite_iff, hmagnitude, unitsOfBits_roundBits]
    exact ⟨rfl, hfinite, rfl⟩
  · by_cases hzero : n = 0
    · have hround : roundUnits n d = 0 := by
        rw [← unitsOfBits_roundBits, hzero, roundBits_zero]
        rfl
      rw [hround]
      cases signBit x <;> rfl
    · rw [h.sign (by omega), decide_eq_false (by omega)]
      rfl

/-- What is rounded to a double is near to the number of that double. -/
theorem Nearest.exists_isRational {x : Float} {n d : Nat} {q : ℚ} (h : Nearest x n d) (hd : 0 < d)
    (hq : (n : ℚ) = q * unitsPerOne * d) (hlow : 1 / 2 ^ 100 ≤ q) (hhigh : q ≤ 2 ^ 100) :
    ∃ t, IsRational x t ∧ |t - q| ≤ q / 2 ^ 53 := by
  obtain ⟨k, hk⟩ : ∃ k : Nat, 152 + k = 1074 := ⟨922, rfl⟩
  have hU : (unitsPerOne : ℚ) = 2 ^ 152 * 2 ^ k := by
    rw [← pow_add, ← two_pow_eq_unitsPerOne hk]
    push_cast
    rfl
  have hpos : (0 : ℚ) < unitsPerOne * d := mul_pos units_pos (Nat.cast_pos.mpr hd)
  have hlarge : n ≤ 2 ^ (52 + (k + 200)) * d := by
    have hcast : (n : ℚ) ≤ 2 ^ (52 + (k + 200)) * d := by
      calc (n : ℚ) = q * (unitsPerOne * d) := by rw [hq, mul_assoc]
        _ ≤ 2 ^ 100 * (unitsPerOne * d) := mul_le_mul_of_nonneg_right hhigh hpos.le
        _ = 2 ^ (52 + (k + 200)) * d := by rw [hU]; ring
    exact_mod_cast hcast
  have hlong : 2 ^ 52 * d ≤ n := by
    have hone : (1 : ℚ) ≤ 2 ^ k := one_le_pow₀ (by norm_num)
    have hcast : (2 : ℚ) ^ 52 * d ≤ n := by
      calc (2 : ℚ) ^ 52 * d ≤ 2 ^ 52 * 2 ^ k * d := by
            refine mul_le_mul_of_nonneg_right ?_ (Nat.cast_nonneg d)
            exact le_mul_of_one_le_right (by positivity) hone
        _ = 1 / 2 ^ 100 * ((unitsPerOne : ℚ) * d) := by rw [hU]; ring
        _ ≤ q * (unitsPerOne * d) := mul_le_mul_of_nonneg_right hlow hpos.le
        _ = n := by rw [hq, mul_assoc]
    exact_mod_cast hcast
  have hunits := h.hasUnits hd (by omega) hlarge
  obtain ⟨hupper, hlower⟩ := roundUnits_relative hd hlong
  generalize roundUnits n d = u at hunits hupper hlower
  refine ⟨u / unitsPerOne, ⟨u, hunits, ?_⟩, ?_⟩
  · rw [div_mul_cancel₀ _ units_pos.ne']
    rfl
  · have hupper : (2 : ℚ) ^ 53 * (u * d) ≤ 2 ^ 53 * n + n := by exact_mod_cast hupper
    have hlower : (2 : ℚ) ^ 53 * n ≤ 2 ^ 53 * (u * d) + n := by exact_mod_cast hlower
    have hu : (u : ℚ) * d = u / unitsPerOne * (unitsPerOne * d) := by
      rw [← mul_assoc, div_mul_cancel₀ _ units_pos.ne']
    rw [hq, mul_assoc, hu] at hupper hlower
    rw [abs_le]
    constructor <;> refine le_of_mul_le_mul_right ?_ hpos <;> linarith

section Rounded

variable {x y : Float} {q r : ℚ}

theorem IsRational.div_near (hx : IsRational x q) (hy : IsRational y r) (hq : 0 < q) (hr : 0 < r)
    (hlow : 1 / 2 ^ 100 ≤ q / r) (hhigh : q / r ≤ 2 ^ 100) :
    ∃ t, IsRational (x / y) t ∧ |t - q / r| ≤ q / r / 2 ^ 53 := by
  obtain ⟨a, -, ha, haq⟩ := hx.exists_units hq
  obtain ⟨b, hb, hbr⟩ := hy.exists_units hr
  have hnearest := ha.nearest_div hbr.1 hb
  rw [← Int.natCast_mul] at hnearest
  refine hnearest.exists_isRational hb ?_ hlow hhigh
  rw [Nat.cast_mul, haq, hbr.2]
  generalize (unitsPerOne : ℚ) = U
  field_simp

theorem IsRational.mul_near (hx : IsRational x q) (hy : IsRational y r) (hq : 0 < q) (hr : 0 < r)
    (hlow : 1 / 2 ^ 100 ≤ q * r) (hhigh : q * r ≤ 2 ^ 100) :
    ∃ t, IsRational (x * y) t ∧ |t - q * r| ≤ q * r / 2 ^ 53 := by
  obtain ⟨a, -, ha, haq⟩ := hx.exists_units hq
  obtain ⟨b, -, hb, hbr⟩ := hy.exists_units hr
  have hnearest := ha.nearest_mul hb
  rw [← Int.natCast_mul] at hnearest
  refine hnearest.exists_isRational unitsPerOne_pos ?_ hlow hhigh
  rw [Nat.cast_mul, haq, hbr]
  ring

theorem isRational_ofNat {n : Nat} (h : n ≤ 2 ^ 53) : IsRational (Float.ofNat n) n :=
  isRational_intCast.mpr (isWhole_ofNat h)

theorem exists_isRational_ofNat {n : Nat} (hpos : 0 < n) (h : n < 2 ^ 80) :
    ∃ t, IsRational (Float.ofNat n) t ∧ |t - n| ≤ n / 2 ^ 53 := by
  obtain ⟨f, hf, hround⟩ := exists_rounds_ofNat n
  have hnearest := hround.nearest
  rw [← hf, ← Int.natCast_mul] at hnearest
  have hone : (1 : ℚ) ≤ n := by exact_mod_cast hpos
  have hlarge : (n : ℚ) ≤ 2 ^ 80 := by exact_mod_cast h.le
  refine hnearest.exists_isRational Nat.one_pos ?_ (by linarith) (by linarith)
  rw [Nat.cast_mul, Nat.cast_one, mul_one]

/-- A natural number of at most 53 binary digits is divided with one rounding. -/
theorem exists_isRational_ofNat_div {n : Nat} (hpos : 0 < n) (h : n ≤ 2 ^ 53)
    (hy : IsRational y r) (hr : 1 ≤ r) (hr' : r ≤ 2 ^ 10) :
    ∃ t, IsRational (Float.ofNat n / y) t ∧ |t - n / r| ≤ n / r / 2 ^ 53 := by
  have hr0 : 0 < r := by linarith
  have hone : (1 : ℚ) ≤ n := by exact_mod_cast hpos
  have hsmall : (n : ℚ) ≤ 2 ^ 53 := by exact_mod_cast h
  refine (isRational_ofNat h).div_near hy (by linarith) hr0 ?_ ?_
  · rw [le_div_iff₀ hr0]
    linarith
  · rw [div_le_iff₀ hr0]
    linarith

/-- Where the natural number is rounded too, the quotient is still right up to a factor of two. -/
theorem exists_isRational_ofNat_div_of_lt {n : Nat} (hpos : 0 < n) (h : n < 2 ^ 80)
    (hy : IsRational y r) (hr : 1 ≤ r) (hr' : r ≤ 2 ^ 10) :
    ∃ t, IsRational (Float.ofNat n / y) t ∧ n / r / 2 ≤ t ∧ t ≤ n / r * 2 := by
  have hr0 : 0 < r := by linarith
  have hone : (1 : ℚ) ≤ n := by exact_mod_cast hpos
  have hlarge : (n : ℚ) ≤ 2 ^ 80 := by exact_mod_cast h.le
  have hquotient : 0 ≤ n / r := div_nonneg (by linarith) hr0.le
  obtain ⟨s, hs, hnear⟩ := exists_isRational_ofNat hpos h
  obtain ⟨hs₁, hs₂⟩ := abs_le.mp hnear
  have hlow : n / r * (3 / 4) ≤ s / r := by
    rw [div_mul_eq_mul_div]
    exact div_le_div_of_nonneg_right (by linarith) hr0.le
  have hhigh : s / r ≤ n / r * (4 / 3) := by
    rw [div_mul_eq_mul_div]
    exact div_le_div_of_nonneg_right (by linarith) hr0.le
  obtain ⟨t, ht, hnear'⟩ := hs.div_near hy (by linarith) hr0
    (by rw [le_div_iff₀ hr0]; linarith) (by rw [div_le_iff₀ hr0]; linarith)
  obtain ⟨ht₁, ht₂⟩ := abs_le.mp hnear'
  exact ⟨t, ht, by linarith, by linarith⟩

end Rounded

/-- Without the sign of zero a double is negative when its number is. -/
theorem HasUnits.ofFloat_unsignedZero {x : Float} {a : Int} (h : HasUnits x a) :
    ofFloat (unsignedZero x) = .finite (decide (a < 0)) a.natAbs := by
  have hzero := ofFloat_constants.1
  rw [Nat.zero_mul] at hzero
  unfold unsignedZero
  split_ifs with hbeq
  · have hunits : HasUnits x 0 := by
      rcases eq_zero_or_of_beq_zero hbeq with rfl | rfl
      · exact ⟨false, 0, hzero, rfl⟩
      · exact ⟨true, 0, ofFloat_neg hzero, rfl⟩
    rw [h.eq hunits, hzero]
    rfl
  · obtain ⟨negative, units, hx, rfl⟩ := h
    have hpos : 0 < units := by
      rw [Nat.pos_iff_ne_zero]
      rintro rfl
      cases negative with
      | false =>
        obtain rfl := eq_of_ofFloat_eq hx hzero
        exact hbeq (by decide +kernel)
      | true =>
        obtain rfl := eq_of_ofFloat_eq hx (ofFloat_neg hzero)
        exact hbeq (by decide +kernel)
    rw [hx, natAbs_signed]
    congr 1
    cases negative with
    | false => exact (decide_eq_false (by rw [signed, if_neg Bool.false_ne_true]; omega)).symm
    | true => exact (decide_eq_true (by rw [signed, if_pos rfl]; omega)).symm

theorem unsignedZero_eq_of_isRational {x y : Float} {q : ℚ} (hx : IsRational x q)
    (hy : IsRational y q) : unsignedZero x = unsignedZero y := by
  obtain ⟨a, ha, haq⟩ := hx
  obtain ⟨b, hb, hbq⟩ := hy
  have hab : a = b := by exact_mod_cast haq.trans hbq.symm
  exact eq_of_ofFloat_eq ha.ofFloat_unsignedZero (hab ▸ hb.ofFloat_unsignedZero)

theorem isRational_two : IsRational 2.0 2 :=
  isRational_intCast.mpr (isWhole_of_units false 2 (by decide +kernel))

theorem IsWhole.half {x : Float} {n : Int} (h : IsWhole x n) (hn : n.natAbs < 2 ^ 53) :
    IsRational (x / 2.0) (n / 2) :=
  (isRational_intCast.mpr h).div isRational_two two_pos (representable_half hn)

section WholePart

variable {x : Float} {q : ℚ}

theorem IsRational.exists_ofFloat (h : IsRational x q) :
    ∃ negative units, ofFloat x = .finite negative units ∧
      q = if negative then -((units : ℚ) / unitsPerOne) else units / unitsPerOne := by
  obtain ⟨a, ⟨negative, units, hx, rfl⟩, hq⟩ := h
  refine ⟨negative, units, hx, ?_⟩
  rw [eq_comm, ← eq_div_iff units_pos.ne'] at hq
  rw [hq]
  cases negative
  · rfl
  · rw [signed, if_pos rfl, if_pos rfl, Int.cast_neg, neg_div]
    rfl

/-- Halves go up. -/
theorem IsRational.nearestNat_eq (h : IsRational x q) : nearestNat x = ⌊q + 1 / 2⌋₊ := by
  obtain ⟨negative, units, hx, rfl⟩ := h.exists_ofFloat
  have hU := units_pos
  rw [nearestNat, hx]
  cases negative with
  | true =>
    have hle : (0 : ℚ) ≤ units / unitsPerOne := div_nonneg (Nat.cast_nonneg units) hU.le
    refine (Nat.floor_eq_zero.mpr ?_).symm
    rw [if_pos rfl]
    linarith
  | false =>
    have hsum : (units / unitsPerOne + 1 / 2 : ℚ) =
        (2 * units + unitsPerOne : Nat) / (2 * unitsPerOne : Nat) := by
      push_cast
      generalize (unitsPerOne : ℚ) = U at hU
      field_simp
    rw [if_neg Bool.false_ne_true, hsum, Nat.floor_div_eq_div]
    rfl

theorem IsRational.ceilNat_eq (h : IsRational x q) : ceilNat x = ⌈q⌉₊ := by
  obtain ⟨negative, units, hx, rfl⟩ := h.exists_ofFloat
  have hU := units_pos
  rw [ceilNat, hx]
  cases negative with
  | true =>
    have hle : (0 : ℚ) ≤ units / unitsPerOne := div_nonneg (Nat.cast_nonneg units) hU.le
    refine (Nat.ceil_eq_zero.mpr ?_).symm
    rw [if_pos rfl]
    linarith
  | false =>
    rw [if_neg Bool.false_ne_true]
    refine eq_of_forall_ge_iff fun m => ?_
    have hone := unitsPerOne_pos
    change (units + (unitsPerOne - 1)) / unitsPerOne ≤ m ↔ _
    rw [Nat.ceil_le, div_le_iff₀ hU, Nat.div_le_iff_le_mul_add_pred hone, ← Nat.cast_mul,
      Nat.cast_le, Nat.mul_comm m]
    omega

end WholePart

end GalaxyScenario.Binary64
