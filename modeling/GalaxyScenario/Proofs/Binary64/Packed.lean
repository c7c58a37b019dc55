import GalaxyScenario.Proofs.Binary64.Nearest
import GalaxyScenario.Proofs.Binary64.Whole

/-! Doubles by their sign and their magnitude bits. The sum, difference, product or quotient of two
finite doubles has the sign of its exact value and the magnitude bits nearest to it, where
everything beyond the largest double is an infinity. -/
namespace GalaxyScenario.Binary64
open Float.Model Float.Model.UnpackedFloat

theorem assemble_signBit_magnitudeBits (x : Float) :
    assemble (signBit x) (magnitudeBits x) = x := by
  have hlt := x.toBits.toNat_lt
  have hbits : (if signBit x then signPlace + magnitudeBits x else magnitudeBits x) =
      x.toBits.toNat := by
    unfold signBit magnitudeBits signPlace
    split_ifs with h
    · have h := of_decide_eq_true h
      omega
    · have h := of_decide_eq_false (Bool.eq_false_iff.mpr h)
      omega
  rw [assemble, hbits, UInt64.ofNat_toNat, Float.ofBits_toBits]

theorem ofFloat_eq_nan_iff {x : Float} : ofFloat x = .nan ↔ x = Float.nan := by
  rw [ofFloat_eq_ofUnpacked]
  have hnan : x.isNaN = true ↔ x = Float.nan := by
    rw [Float.isNaN_eq_decide_eq_nan, decide_eq_true_iff]
  rw [← hnan]
  change _ ↔ x.toModel.unpack.isNaN = true
  cases x.toModel.unpack with
  | notANumber => exact iff_of_true rfl rfl
  | infinity | zero | finite => exact iff_of_false nofun nofun

theorem ofFloat_eq_infinite_iff {x : Float} {negative : Bool} :
    ofFloat x = .infinite negative ↔ signBit x = negative ∧ magnitudeBits x = infinityBits := by
  unfold ofFloat
  dsimp only
  split_ifs with hlt heq
  · exact iff_of_false nofun fun h => by omega
  · rw [Binary64.infinite.injEq, and_iff_left heq]
  · exact iff_of_false nofun fun h => heq h.2

theorem ofFloat_eq_finite_iff {x : Float} {negative : Bool} {units : Nat} :
    ofFloat x = .finite negative units ↔ signBit x = negative ∧
      magnitudeBits x < infinityBits ∧ unitsOfBits (magnitudeBits x) = units := by
  unfold ofFloat
  dsimp only
  split_ifs with hlt heq
  · rw [Binary64.finite.injEq, and_iff_right hlt]
  · exact iff_of_false nofun fun h => hlt h.2.1
  · exact iff_of_false nofun fun h => hlt h.2.1

theorem ofFloat_eq_of_isFinite {x : Float} (h : isFinite x = true) :
    ofFloat x = .finite (signBit x) (unitsOfBits (magnitudeBits x)) :=
  ofFloat_eq_finite_iff.mpr ⟨rfl, of_decide_eq_true h, rfl⟩

/-- A finite double is the only one with its sign and its units. -/
theorem eq_of_ofFloat_eq {x y : Float} {negative : Bool} {units : Nat}
    (hx : ofFloat x = .finite negative units) (hy : ofFloat y = .finite negative units) :
    x = y := by
  obtain ⟨hsign, -, hunits⟩ := ofFloat_eq_finite_iff.mp hx
  obtain ⟨hsign', -, hunits'⟩ := ofFloat_eq_finite_iff.mp hy
  have hbits := unitsOfBits_injective (hunits.trans hunits'.symm)
  rw [← assemble_signBit_magnitudeBits x, hsign, hbits, ← hsign', assemble_signBit_magnitudeBits]

theorem assemble_nanBits : assemble false nanBits = Float.nan := by decide +kernel

theorem roundBits_zero (d : Nat) : roundBits 0 d = 0 := by
  simp [roundBits, divHalfEven]

theorem isFinite_iff_exists_hasUnits {x : Float} : isFinite x = true ↔ ∃ a, HasUnits x a := by
  rw [isFinite, decide_eq_true_iff]
  constructor
  · intro h
    exact ⟨_, signBit x, _, ofFloat_eq_finite_iff.mpr ⟨rfl, h, rfl⟩, rfl⟩
  · rintro ⟨a, negative, units, hx, -⟩
    exact (ofFloat_eq_finite_iff.mp hx).2.1

theorem HasUnits.unitsOfBits_eq {x : Float} {a : Int} (h : HasUnits x a) :
    magnitudeBits x < infinityBits ∧ unitsOfBits (magnitudeBits x) = a.natAbs := by
  obtain ⟨negative, units, hx, rfl⟩ := h
  rw [natAbs_signed]
  exact (ofFloat_eq_finite_iff.mp hx).2

theorem HasUnits.roundBits_eq {x : Float} {a : Int} (h : HasUnits x a) :
    roundBits a.natAbs 1 = magnitudeBits x := by
  have hself := roundBits_unitsOfBits (magnitudeBits x) Nat.one_pos
  rwa [Nat.mul_one, h.unitsOfBits_eq.2] at hself

theorem le_of_unitsOfBits_le {a b : Nat} (h : unitsOfBits a ≤ unitsOfBits b) : a ≤ b := by
  rw [← roundBits_unitsOfBits a Nat.one_pos, ← roundBits_unitsOfBits b Nat.one_pos]
  exact roundBits_mono Nat.one_pos Nat.one_pos (Nat.mul_le_mul_right _ (Nat.mul_le_mul_right _ h))

/-- The double is the one nearest to `a / d` units, or an infinity beyond the largest double. Zero
has either sign. -/
structure Nearest (x : Float) (a : Int) (d : Nat) : Prop where
  sign : a ≠ 0 → signBit x = decide (a < 0)
  magnitude : magnitudeBits x = min (roundBits a.natAbs d) infinityBits

theorem Rounds.nearest {f : UnpackedFloat} {a : Int} {d : Nat} (h : Rounds f a d) :
    Nearest (.ofModel (Float.Model.pack f)) a d := by
  obtain ⟨hc, negative, hf, hsign⟩ := h
  rw [← unitsOfBits_roundBits] at hf
  obtain ⟨bits, hbits⟩ : ∃ bits, bits = roundBits a.natAbs d := ⟨_, rfl⟩
  rw [← hbits] at hf
  suffices hpack : signBit (.ofModel (Float.Model.pack f)) = negative ∧
      magnitudeBits (.ofModel (Float.Model.pack f)) = min bits infinityBits from
    ⟨fun ha => hpack.1.trans (hsign ha), hbits ▸ hpack.2⟩
  clear hbits
  cases f with
  | notANumber | infinity => cases hf
  | zero s =>
    obtain ⟨rfl, hunits⟩ := Binary64.finite.inj hf
    obtain rfl : 0 = bits := unitsOfBits_injective hunits
    exact bits_of_unpack_zero (unpack_pack_zero s)
  | finite s m e pos =>
    obtain ⟨rfl, hunits⟩ := Binary64.finite.inj hf
    by_cases he : e ≤ 971
    · have hfloat : ofFloat (.ofModel (Float.Model.pack (.finite s m e pos))) =
          .finite (isNegative s) (unitsOfBits bits) := by
        rw [ofFloat_eq_ofUnpacked]
        change ofUnpacked (Float.Model.pack (.finite s m e pos)).unpack = _
        rw [unpack_pack_finite hc he, ofUnpacked, hunits]
      obtain ⟨hs, hfinite, heq⟩ := ofFloat_eq_finite_iff.mp hfloat
      have heq := unitsOfBits_injective heq
      rw [heq] at hfinite ⊢
      exact ⟨hs, (min_eq_left hfinite.le).symm⟩
    · have hpack : Float.ofModel (Float.Model.pack (.finite s m e pos)) =
          .ofModel (Float.Model.pack (.infinity s)) := by
        have hlarge : 2 ^ 11 ≤ (e + (1023 : Nat) + (52 : Nat)).toNat + 1 := by omega
        exact Float.toBits_inj.mp (UInt64.toBitVec_inj.mp (if_pos hlarge))
      have htop : infinityBits ≤ bits := by
        apply le_of_unitsOfBits_le
        have hm : 2 ^ 52 ≤ m := hc.2.2.resolve_right (by omega)
        obtain ⟨k, hk⟩ : ∃ k : Nat, k = 2046 := ⟨_, rfl⟩
        have hinfinity : infinityBits = k * hiddenBit + hiddenBit := by
          rw [hk, infinityBits]
          ring
        rw [← hunits, hinfinity, unitsOfBits_add le_rfl (by decide)]
        exact Nat.mul_le_mul hm (Nat.pow_le_pow_right Nat.two_pos (by omega))
      rw [hpack, min_eq_right htop]
      exact bits_of_unpack_infinity (unpack_pack_infinity s)

section Operations

variable {x y : Float} {a b : Int}

theorem HasUnits.nearest_sub (hx : HasUnits x a) (hy : HasUnits y b) :
    Nearest (x - y) (a - b) 1 := by
  rw [hasUnits_iff_represents] at hx hy
  exact (sub_rounds hx hy (canonical_unpack x) (canonical_unpack y)).nearest

theorem HasUnits.nearest_mul (hx : HasUnits x a) (hy : HasUnits y b) :
    Nearest (x * y) (a * b) unitsPerOne := by
  rw [hasUnits_iff_represents] at hx hy
  exact (mul_rounds hx hy (canonical_unpack x) (canonical_unpack y)).nearest

/-- Taking something away from a finite double does not make it infinite. -/
theorem HasUnits.sub_ne_infinite (hx : HasUnits x a) (hy : HasUnits y b) (hb : 0 < b) :
    ofFloat (x - y) ≠ .infinite false := by
  intro h
  obtain ⟨hsign, htop⟩ := ofFloat_eq_infinite_iff.mp h
  obtain ⟨hneg, hmagnitude⟩ := hx.nearest_sub hy
  have hfinite := hx.unitsOfBits_eq.1
  have hbits := hx.roundBits_eq
  have hround : infinityBits ≤ roundBits (a - b).natAbs 1 := by omega
  by_cases hle : a - b ≤ 0
  · by_cases hzero : a - b = 0
    · rw [hzero, Int.natAbs_zero, roundBits_zero] at hround
      exact absurd hround (by decide)
    · rw [hneg hzero] at hsign
      have := of_decide_eq_false hsign
      omega
  · have hmono : roundBits (a - b).natAbs 1 ≤ roundBits a.natAbs 1 :=
      roundBits_mono Nat.one_pos Nat.one_pos (by omega)
    omega

end Operations

section Order

variable {x y : Float}

theorem zero_lt_iff : 0.0 < x ↔ ofFloat x = .infinite false ∨ ∃ a, 0 < a ∧ HasUnits x a := by
  rw [lt_iff_unpack_lt, unpack_zero, ofFloat_eq_ofUnpacked]
  simp only [hasUnits_iff_represents]
  generalize x.toModel.unpack = f
  constructor
  · intro h
    cases f with
    | notANumber => cases h
    | infinity s =>
      cases s with
      | negative => cases h
      | positive => exact Or.inl rfl
    | zero s => cases s <;> cases h
    | finite s m e pos =>
      cases s with
      | negative => cases h
      | positive => exact Or.inr ⟨_, Int.natCast_pos.mpr (by positivity), represents_finite _ _ _ _⟩
  · rintro (h | ⟨a, ha, h⟩)
    · cases f with
      | notANumber | zero | finite => cases h
      | infinity s =>
        cases s with
        | negative => cases h
        | positive => rfl
    · rcases h.zero_or_finite with ⟨s, rfl, rfl⟩ | ⟨s, m, e, pos, rfl, rfl⟩
      · exact absurd ha (lt_irrefl 0)
      · cases s with
        | negative =>
          change 0 < -((m * 2 ^ (e + 1074).toNat : Nat) : Int) at ha
          omega
        | positive => rfl

theorem zero_lt_of_bits (hsign : signBit x = false) (hpos : 0 < magnitudeBits x)
    (hle : magnitudeBits x ≤ infinityBits) : 0.0 < x := by
  rw [zero_lt_iff]
  rcases Nat.lt_or_eq_of_le hle with hlt | htop
  · have hunits : 0 < unitsOfBits (magnitudeBits x) :=
      Nat.pos_of_ne_zero fun hzero => hpos.ne' (unitsOfBits_injective hzero)
    exact Or.inr ⟨_, Int.natCast_pos.mpr hunits, false, _,
      ofFloat_eq_finite_iff.mpr ⟨hsign, hlt, rfl⟩, rfl⟩
  · exact Or.inl (ofFloat_eq_infinite_iff.mpr ⟨hsign, htop⟩)

/-- It does not matter for the order which zero a zero is. -/
theorem HasUnits.lt_iff_zero_lt (hy : HasUnits y 0) : y < x ↔ 0.0 < x := by
  obtain ⟨s, hs⟩ := (hasUnits_iff_represents.mp hy).exists_zero
  rw [lt_iff_unpack_lt, lt_iff_unpack_lt, hs, unpack_zero]
  cases x.toModel.unpack with
  | notANumber | zero => rfl
  | infinity t | finite t m e pos => cases t <;> rfl

theorem exists_unpack_infinity {negative : Bool} (h : ofFloat x = .infinite negative) :
    ∃ s, x.toModel.unpack = .infinity s ∧ isNegative s = negative := by
  rw [ofFloat_eq_ofUnpacked] at h
  generalize x.toModel.unpack = f at h
  cases f with
  | notANumber | zero | finite => cases h
  | infinity s => exact ⟨s, rfl, Binary64.infinite.inj h⟩

theorem unpack_eq_infinity (h : ofFloat x = .infinite false) :
    x.toModel.unpack = .infinity .positive := by
  obtain ⟨s, hx, hsign⟩ := exists_unpack_infinity h
  cases s with
  | negative => cases hsign
  | positive => exact hx

/-- A positive double times four is positive, also where that is infinite. -/
theorem zero_lt_four_mul (h : 0.0 < x) : 0.0 < 4.0 * x := by
  rcases zero_lt_iff.mp h with htop | ⟨a, ha, hx⟩
  · have hfour : mul Format.binary64 (4.0 : Float).toModel.unpack (.infinity .positive) =
        .infinity .positive := rfl
    have hlt : 0.0 < 4.0 * x ↔ (UnpackedFloat.zero .positive).lt (Float.Model.pack
        (mul Format.binary64 (4.0 : Float).toModel.unpack x.toModel.unpack)).unpack = true :=
      decide_eq_true_iff
    rw [hlt, unpack_eq_infinity htop, hfour]
    decide
  · obtain ⟨hsign, hbits⟩ := HasUnits.nearest_mul isWhole_four hx
    have hone := unitsPerOne_pos
    generalize unitsPerOne = one at hone hsign hbits
    have hpos : 0 < roundBits a.natAbs 1 := by
      rw [hx.roundBits_eq]
      refine Nat.pos_of_ne_zero fun hzero => ?_
      have hunits := hx.unitsOfBits_eq.2
      rw [hzero] at hunits
      change 0 = a.natAbs at hunits
      omega
    have hmono : roundBits a.natAbs 1 ≤ roundBits (4 * one * a).natAbs one := by
      refine roundBits_mono Nat.one_pos hone ?_
      rw [Int.natAbs_mul, Int.natAbs_mul, Int.natAbs_natCast]
      calc a.natAbs * one ≤ 4 * (a.natAbs * one) := Nat.le_mul_of_pos_left _ (by decide)
        _ = 4 * one * a.natAbs * 1 := by ring
    have hprod : 0 < 4 * (one : Int) * a := by positivity
    have htop : 0 < infinityBits := by decide
    refine zero_lt_of_bits ?_ (by omega) (by omega)
    rw [hsign hprod.ne', decide_eq_false (by omega)]

/-- Taking something positive away from a finite double does not make it infinite. -/
theorem sub_ne_infinite (hx : isFinite x = true) (hy : 0.0 < y) :
    ofFloat (x - y) ≠ .infinite false := by
  obtain ⟨a, hx⟩ := isFinite_iff_exists_hasUnits.mp hx
  rcases zero_lt_iff.mp hy with htop | ⟨b, hb, hy⟩
  · rw [ofFloat_eq_ofUnpacked]
    rw [hasUnits_iff_represents] at hx
    change ofUnpacked (Float.Model.pack (sub _ x.toModel.unpack y.toModel.unpack)).unpack ≠ _
    have hsub : sub Format.binary64 x.toModel.unpack (.infinity .positive) =
        .infinity .negative := by
      rcases hx.zero_or_finite with ⟨s, hf, -⟩ | ⟨s, m, e, pos, hf, -⟩
      · rw [hf]
        rfl
      · rw [hf]
        rfl
    rw [unpack_eq_infinity htop, hsub]
    decide
  · exact hx.sub_ne_infinite hy hb

/-- What lies between a positive double and one that is not infinite is finite. -/
theorem isFinite_of_le_of_le {z : Float} (hx : 0.0 < x) (hxy : x ≤ y) (hyz : y ≤ z)
    (hz : ofFloat z ≠ .infinite false) : isFinite y = true := by
  rw [lt_iff_unpack_lt, unpack_zero] at hx
  rw [le_iff_unpack_le] at hxy hyz
  rw [ofFloat_eq_ofUnpacked] at hz
  rw [isFinite_iff_exists_hasUnits]
  simp only [hasUnits_iff_represents]
  generalize x.toModel.unpack = f at hx hxy
  generalize y.toModel.unpack = g at hxy hyz
  generalize z.toModel.unpack = h at hyz hz
  cases g with
  | notANumber => cases f <;> cases hxy
  | infinity s =>
    cases s with
    | negative =>
      cases f with
      | notANumber | zero => cases hxy
      | infinity t | finite t =>
        cases t with
        | negative => cases hx
        | positive => cases hxy
    | positive =>
      cases h with
      | notANumber | zero | finite => cases hyz
      | infinity t =>
        cases t with
        | negative => cases hyz
        | positive => exact absurd rfl hz
  | zero s => exact ⟨0, represents_zero s⟩
  | finite s m e pos => exact ⟨_, represents_finite s m e pos⟩

end Order

end GalaxyScenario.Binary64
