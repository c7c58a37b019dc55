import GalaxyScenario.Binary64
import Mathlib

/-! The number a double stands for, read off the sign, mantissa and exponent that the arithmetic of
doubles is defined on. Packing loses nothing of a mantissa and an exponent in canonical form, unless
the exponent is too large. The lemmas about the bits of doubles that this starts from come with no
single module of Mathlib, so the whole library is imported here. -/
namespace GalaxyScenario.Binary64
open Float.Model Float.Model.UnpackedFloat

def isNegative : Sign → Bool
  | .negative => true
  | .positive => false

def ofUnpacked : UnpackedFloat → Binary64
  | .notANumber => .nan
  | .infinity s => .infinite (isNegative s)
  | .zero s => .finite (isNegative s) 0
  | .finite s m e _ => .finite (isNegative s) (m * 2 ^ (e + 1074).toNat)

theorem lt_iff_unpack_lt {x y : Float} :
    x < y ↔ x.toModel.unpack.lt y.toModel.unpack = true := decide_eq_true_iff

theorem le_iff_unpack_le {x y : Float} :
    x ≤ y ↔ x.toModel.unpack.le y.toModel.unpack = true := decide_eq_true_iff

theorem unpack_zero : (0.0 : Float).toModel.unpack = .zero .positive := rfl

/-- The mantissa has at most 53 binary digits, and fewer only at the least exponent. -/
def Canonical : UnpackedFloat → Prop
  | .finite _ m e _ => m < 2 ^ 53 ∧ -1074 ≤ e ∧ (2 ^ 52 ≤ m ∨ e = -1074)
  | _ => True

theorem toNat_unpackMantissa (b : BitVec Format.binary64.numBits) :
    (unpackMantissa b).toNat = b.toNat % hiddenBit := by
  simp [unpackMantissa, BitVec.extractLsb_toNat, hiddenBit]

theorem toNat_unpackExponent (b : BitVec Format.binary64.numBits) :
    (unpackExponent b).toNat = b.toNat / hiddenBit % 2048 := by
  simp [unpackExponent, BitVec.extractLsb_toNat, hiddenBit, Nat.shiftRight_eq_div_pow]

theorem isNegative_unpackSign (b : BitVec Format.binary64.numBits) :
    isNegative (Sign.ofBitVec (unpackSign b)) = decide (signPlace ≤ b.toNat) := by
  have hb : b.toNat < 2 ^ 64 := b.isLt
  have hs : (unpackSign b).toNat = b.toNat / 2 ^ 63 := by
    simp [unpackSign, BitVec.extractLsb_toNat, Nat.shiftRight_eq_div_pow]
    omega
  unfold Sign.ofBitVec
  by_cases h : signPlace ≤ b.toNat
  · have hne : unpackSign b ≠ 0#1 := by
      intro h0
      rw [h0] at hs
      simp [signPlace] at hs h
      omega
    rw [if_neg hne, decide_eq_true h]
    rfl
  · have heq : unpackSign b = 0#1 := by
      apply BitVec.eq_of_toNat_eq
      rw [hs]
      simp [signPlace] at h ⊢
      omega
    rw [if_pos heq, decide_eq_false h]
    rfl

theorem toNat_cons_unpackMantissa (b : BitVec Format.binary64.numBits) :
    (1#1 ++ unpackMantissa b).toNat = hiddenBit + b.toNat % hiddenBit := by
  rw [BitVec.toNat_append, ← Nat.shiftLeft_add_eq_or_of_lt (unpackMantissa b).isLt,
    toNat_unpackMantissa]
  rfl

def packed (x : Float) : BitVec Format.binary64.numBits := x.toModel.toBits.toBitVec

theorem magnitudeBits_eq (x : Float) :
    hiddenBit * (unpackExponent (packed x)).toNat + (unpackMantissa (packed x)).toNat =
      magnitudeBits x := by
  rw [toNat_unpackExponent, toNat_unpackMantissa]
  change _ = (packed x).toNat % signPlace
  simp only [hiddenBit, signPlace]
  omega

/-- What unpacking makes of a sign and magnitude bits. An exponent field of zero leaves the fraction
without a hidden bit. -/
inductive Unpacks (negative : Bool) (bits : Nat) : UnpackedFloat → Prop where
  | nan (above : infinityBits < bits) : Unpacks negative bits .notANumber
  | infinity {s : Sign} (sign : isNegative s = negative) (top : bits = infinityBits) :
      Unpacks negative bits (.infinity s)
  | zero {s : Sign} (sign : isNegative s = negative) (none : bits = 0) :
      Unpacks negative bits (.zero s)
  | subnormal {s : Sign} {m : Nat} {pos : 0 < m} (sign : isNegative s = negative)
      (low : m < hiddenBit) (eq : bits = m) : Unpacks negative bits (.finite s m (-1074) pos)
  | normal {s : Sign} {m k : Nat} {e : Int} {pos : 0 < m} (sign : isNegative s = negative)
      (high : hiddenBit ≤ m) (low : m < 2 * hiddenBit) (field : k ≤ 2045) (exponent : e = k - 1074)
      (eq : bits = k * hiddenBit + m) : Unpacks negative bits (.finite s m e pos)

theorem unpacks (x : Float) : Unpacks (signBit x) (magnitudeBits x) x.toModel.unpack := by
  have hE : (unpackExponent (packed x)).toNat < 2048 := (unpackExponent (packed x)).isLt
  have hM : (unpackMantissa (packed x)).toNat < hiddenBit := (unpackMantissa (packed x)).isLt
  have hbits := magnitudeBits_eq x
  have hsign := isNegative_unpackSign (packed x)
  change _ = signBit x at hsign
  change Unpacks _ _ (UnpackedFloat.unpack Format.binary64 (packed x))
  rw [UnpackedFloat.unpack]
  by_cases htop : unpackExponent (packed x) = -1#11
  · rw [if_pos htop]
    rw [htop] at hbits
    change hiddenBit * 2047 + _ = _ at hbits
    by_cases hzero : unpackMantissa (packed x) = 0#52
    · rw [if_pos hzero]
      rw [hzero] at hbits
      change hiddenBit * 2047 + 0 = _ at hbits
      exact .infinity hsign (by rw [← hbits]; rfl)
    · rw [if_neg hzero]
      have hpos : (unpackMantissa (packed x)).toNat ≠ 0 := fun h =>
        hzero (BitVec.eq_of_toNat_eq h)
      exact .nan (by rw [← hbits, infinityBits]; omega)
  · rw [if_neg htop]
    have hE' : (unpackExponent (packed x)).toNat ≠ 2047 := fun h =>
      htop (BitVec.eq_of_toNat_eq h)
    by_cases hbottom : unpackExponent (packed x) = 0#11
    · rw [if_pos hbottom]
      rw [hbottom] at hbits
      change hiddenBit * 0 + _ = _ at hbits
      rw [Nat.mul_zero, Nat.zero_add] at hbits
      by_cases hzero : unpackMantissa (packed x) = 0#52
      · rw [dif_pos hzero]
        rw [hzero] at hbits
        exact .zero hsign hbits.symm
      · rw [dif_neg hzero]
        have h1 : ((unpackExponent (packed x)).toNat : Int) - (1023 + 52) + 1 = -1074 := by
          rw [hbottom]
          rfl
        change Unpacks _ _
          (.finite _ _ (((unpackExponent (packed x)).toNat : Int) - (1023 + 52) + 1) _)
        simp only [h1]
        exact .subnormal hsign hM hbits.symm
    · rw [if_neg hbottom]
      have hE'' : (unpackExponent (packed x)).toNat ≠ 0 := fun h =>
        hbottom (BitVec.eq_of_toNat_eq h)
      have hlead := toNat_cons_unpackMantissa (packed x)
      rw [← toNat_unpackMantissa] at hlead
      obtain ⟨k, hk⟩ := Nat.exists_eq_add_one_of_ne_zero hE''
      rw [hk] at hbits
      refine .normal (k := k) hsign ?_ ?_ ?_ ?_ ?_
      · omega
      · omega
      · omega
      · change ((unpackExponent (packed x)).toNat : Int) - (1023 + 52) = _
        omega
      · rw [hlead, ← hbits]
        ring

theorem bits_of_unpack_zero {x : Float} {s : Sign} (h : x.toModel.unpack = .zero s) :
    signBit x = isNegative s ∧ magnitudeBits x = 0 := by
  have hx := unpacks x
  rw [h] at hx
  cases hx with
  | zero sign none => exact ⟨sign.symm, none⟩

theorem bits_of_unpack_infinity {x : Float} {s : Sign} (h : x.toModel.unpack = .infinity s) :
    signBit x = isNegative s ∧ magnitudeBits x = infinityBits := by
  have hx := unpacks x
  rw [h] at hx
  cases hx with
  | infinity sign top => exact ⟨sign.symm, top⟩

theorem unitsOfBits_of_field {bits k fraction : Nat} (hfield : bits / hiddenBit = k + 1)
    (hfraction : bits % hiddenBit = fraction) :
    unitsOfBits bits = (hiddenBit + fraction) * 2 ^ k := by
  simp only [unitsOfBits, hfield, hfraction, Nat.shiftLeft_eq]

theorem unitsOfBits_add {k m : Nat} (high : hiddenBit ≤ m) (low : m < 2 * hiddenBit) :
    unitsOfBits (k * hiddenBit + m) = m * 2 ^ k := by
  obtain ⟨fraction, rfl⟩ := Nat.exists_eq_add_of_le high
  have hlt : fraction < hiddenBit := by omega
  have hpos : 0 < hiddenBit := by decide
  have heq : k * hiddenBit + (hiddenBit + fraction) = hiddenBit * (k + 1) + fraction := by ring
  apply unitsOfBits_of_field
  · rw [heq, Nat.mul_add_div hpos, Nat.div_eq_of_lt hlt, Nat.add_zero]
  · rw [heq, Nat.mul_add_mod, Nat.mod_eq_of_lt hlt]

theorem ofFloat_eq_ofUnpacked (x : Float) : ofFloat x = ofUnpacked x.toModel.unpack := by
  unfold ofFloat
  have h := unpacks x
  generalize x.toModel.unpack = f at h
  cases h with
  | nan above =>
    rw [if_neg (by omega), if_neg (by omega)]
    rfl
  | infinity sign top =>
    rw [if_neg (by omega), if_pos top, ← sign]
    rfl
  | zero sign none =>
    rw [none, ← sign]
    rfl
  | subnormal sign low eq =>
    have hfinite : magnitudeBits x < infinityBits := by
      rw [eq, infinityBits]
      omega
    rw [if_pos hfinite, eq, unitsOfBits_of_lt low, ← sign]
    simp [ofUnpacked]
  | normal sign high low field exponent eq =>
    have hfinite : magnitudeBits x < infinityBits := by
      rw [eq, infinityBits]
      have := Nat.mul_le_mul_right hiddenBit field
      omega
    rw [if_pos hfinite, eq, unitsOfBits_add high low, ← sign, ofUnpacked, exponent]
    simp

theorem canonical_unpack (x : Float) : Canonical x.toModel.unpack := by
  have h := unpacks x
  generalize x.toModel.unpack = f at h
  cases h with
  | nan | infinity | zero => trivial
  | subnormal sign low eq =>
    have hlow : _ < 2 ^ 52 := low
    exact ⟨by omega, le_rfl, Or.inr rfl⟩
  | normal sign high low field exponent eq =>
    have hhigh : 2 ^ 52 ≤ _ := high
    have hlow : _ < 2 * 2 ^ 52 := low
    exact ⟨by omega, by omega, Or.inl hhigh⟩

theorem unpack_packComponents_normal {s : Sign} {m k : Nat} {pos : 0 < m} (high : 2 ^ 52 ≤ m)
    (low : m < 2 ^ 53) (field : k ≤ 2045) :
    UnpackedFloat.unpack Format.binary64
      (packComponents Format.binary64 s (BitVec.ofNat 11 (k + 1)) (BitVec.ofNat 52 m)) =
      .finite s m (k - 1074) pos := by
  have hk : (BitVec.ofNat 11 (k + 1)).toNat = k + 1 := by
    rw [BitVec.toNat_ofNat, Nat.mod_eq_of_lt (by omega)]
  have htop : BitVec.ofNat 11 (k + 1) ≠ -1#11 := by
    intro h
    have h := congrArg BitVec.toNat h
    rw [hk] at h
    change k + 1 = 2047 at h
    omega
  have hbottom : BitVec.ofNat 11 (k + 1) ≠ 0#11 := by
    intro h
    have h := congrArg BitVec.toNat h
    rw [hk] at h
    exact absurd h (Nat.succ_ne_zero k)
  have hm : (1#1 ++ BitVec.ofNat 52 m).toNat = m := by
    rw [BitVec.toNat_append, ← Nat.shiftLeft_add_eq_or_of_lt (BitVec.ofNat 52 m).isLt,
      BitVec.toNat_ofNat]
    change 1 <<< 52 + m % 2 ^ 52 = m
    omega
  rw [UnpackedFloat.unpack]
  simp only [unpackExponent_packComponents, unpackMantissa_packComponents,
    unpackSign_packComponents, Sign.ofBitVec_toBitVec, htop, hbottom, if_false, hm, hk]
  congr 1
  change ((k + 1 : Nat) : Int) - (1023 + 52) = k - 1074
  omega

theorem unpack_packComponents_subnormal {s : Sign} {m : Nat} {pos : 0 < m} (low : m < 2 ^ 52) :
    UnpackedFloat.unpack Format.binary64
      (packComponents Format.binary64 s 0#11 (BitVec.ofNat 52 m)) =
      .finite s m (-1074) pos := by
  have hm : (BitVec.ofNat 52 m).toNat = m := by
    rw [BitVec.toNat_ofNat, Nat.mod_eq_of_lt low]
  have hzero : BitVec.ofNat 52 m ≠ 0#52 := by
    intro h
    have h := congrArg BitVec.toNat h
    rw [hm] at h
    exact absurd h (Nat.ne_of_gt pos)
  have htop : 0#11 ≠ -1#11 := by decide
  rw [UnpackedFloat.unpack]
  simp only [unpackExponent_packComponents, unpackMantissa_packComponents,
    unpackSign_packComponents, Sign.ofBitVec_toBitVec, htop, hzero, if_false, if_true, dite_false,
    hm]
  rfl

theorem unpack_pack_zero (s : Sign) : (Float.Model.pack (.zero s)).unpack = .zero s := by
  cases s <;> rfl

theorem unpack_pack_infinity (s : Sign) :
    (Float.Model.pack (.infinity s)).unpack = .infinity s := by
  cases s <;> rfl

/-- A canonical form is recovered from the packed bits, if its exponent is not too large. -/
theorem unpack_pack_finite {s : Sign} {m : Nat} {e : Int} {pos : 0 < m}
    (h : Canonical (.finite s m e pos)) (he : e ≤ 971) :
    (Float.Model.pack (.finite s m e pos)).unpack = .finite s m e pos := by
  obtain ⟨hm, hlow, hc⟩ := h
  have hsmall : ¬ 2 ^ 11 ≤ (e + (1023 : Nat) + (52 : Nat)).toNat + 1 := by omega
  change UnpackedFloat.unpack Format.binary64
    (if 2 ^ 11 ≤ (e + (1023 : Nat) + (52 : Nat)).toNat + 1 then packedInfinity _ s
      else if m.log2 + 1 = 53 then
        packComponents Format.binary64 s (BitVec.ofNat 11 (e + (1023 : Nat) + (52 : Nat)).toNat)
          (BitVec.ofNat 52 m)
      else packComponents Format.binary64 s 0#11 (BitVec.ofNat 52 m)) = _
  rw [if_neg hsmall]
  by_cases hnormal : 2 ^ 52 ≤ m
  · obtain ⟨k, rfl⟩ : ∃ k : Nat, e = k - 1074 := ⟨(e + 1074).toNat, by omega⟩
    have hfield : ((k : Int) - 1074 + (1023 : Nat) + (52 : Nat)).toNat = k + 1 := by omega
    rw [if_pos, hfield, unpack_packComponents_normal hnormal hm (by omega)]
    rw [(Nat.log2_eq_iff (Nat.ne_of_gt pos)).mpr ⟨hnormal, hm⟩]
  · obtain rfl : e = -1074 := hc.resolve_left hnormal
    have hlog : m.log2 < 52 := (Nat.log2_lt (Nat.ne_of_gt pos)).mpr (by omega)
    rw [if_neg (by omega), unpack_packComponents_subnormal (by omega)]

end GalaxyScenario.Binary64
