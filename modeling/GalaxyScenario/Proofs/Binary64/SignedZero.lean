import GalaxyScenario.Proofs.Binary64.Comparison

/-! The two zeros. They compare as equal, and sums, differences and squares of differences depend
on which zero an operand is at most in the sign of a zero. -/
namespace GalaxyScenario.Binary64
open Float.Model Float.Model.UnpackedFloat

/-- The double with the positive zero in place of the negative one. -/
def unsignedZero (x : Float) : Float := if x == 0.0 then 0.0 else x

def withoutZeroSign : UnpackedFloat → UnpackedFloat
  | .zero _ => .zero .positive
  | f => f

theorem unpack_neg_zero : (-0.0 : Float).toModel.unpack = .zero .negative := rfl

theorem ofModel_pack_unpack (x : Float) : Float.ofModel (Float.Model.pack x.toModel.unpack) = x :=
  Float.ofBits_toBits x

theorem eq_zero_or_of_beq_zero {x : Float} (h : (x == 0.0) = true) : x = 0.0 ∨ x = -0.0 := by
  have hbeq : x.toModel.unpack.beq (.zero .positive) = true := h
  rw [← ofModel_pack_unpack x]
  cases hx : x.toModel.unpack with
  | notANumber =>
    rw [hx] at hbeq
    cases hbeq
  | infinity s | finite s =>
    rw [hx] at hbeq
    cases s <;> cases hbeq
  | zero s =>
    cases s with
    | negative => exact Or.inr rfl
    | positive => exact Or.inl (ofModel_pack_unpack 0.0)

theorem unpack_unsignedZero (x : Float) :
    (unsignedZero x).toModel.unpack = withoutZeroSign x.toModel.unpack := by
  have hbeq : (x == 0.0) = x.toModel.unpack.beq (.zero .positive) := rfl
  unfold unsignedZero
  rw [hbeq]
  cases hx : x.toModel.unpack with
  | notANumber => exact hx
  | infinity s => cases s <;> exact hx
  | zero s =>
    rw [if_pos (by cases s <;> rfl)]
    rfl
  | finite s m e pos => cases s <;> exact hx

theorem magnitudeBits_unsignedZero (x : Float) :
    magnitudeBits (unsignedZero x) = magnitudeBits x := by
  unfold unsignedZero
  split_ifs with h
  · rcases eq_zero_or_of_beq_zero h with rfl | rfl
    · rfl
    · rw [(bits_of_unpack_zero unpack_zero).2, (bits_of_unpack_zero unpack_neg_zero).2]
  · rfl

/-- Adding zero changes nothing but the sign of zero. -/
theorem add_zero_eq (x : Float) : x + 0.0 = unsignedZero x := by
  rw [← ofModel_pack_unpack (unsignedZero x), unpack_unsignedZero]
  change Float.ofModel
    (Float.Model.pack (add Format.binary64 x.toModel.unpack (.zero .positive))) = _
  cases x.toModel.unpack with
  | notANumber | infinity | finite => rfl
  | zero s => cases s <;> rfl

theorem unpack_pack_withoutZeroSign (f : UnpackedFloat) :
    withoutZeroSign (Float.Model.pack (withoutZeroSign f)).unpack =
      withoutZeroSign (Float.Model.pack f).unpack := by
  cases f with
  | notANumber | infinity | finite => rfl
  | zero s => cases s <;> rfl

theorem withoutZeroSign_add (f g : UnpackedFloat) :
    withoutZeroSign (add Format.binary64 (withoutZeroSign f) g) =
      withoutZeroSign (add Format.binary64 f g) := by
  cases f with
  | notANumber | infinity | finite => rfl
  | zero s =>
    cases g with
    | notANumber | infinity | finite => rfl
    | zero t => cases s <;> cases t <;> rfl

theorem withoutZeroSign_sub (f g : UnpackedFloat) :
    withoutZeroSign (sub Format.binary64 (withoutZeroSign f) g) =
      withoutZeroSign (sub Format.binary64 f g) := by
  cases f with
  | notANumber | infinity | finite => rfl
  | zero s =>
    cases g with
    | notANumber | infinity | finite => rfl
    | zero t => cases s <;> cases t <;> rfl

theorem mul_self_withoutZeroSign (f : UnpackedFloat) :
    mul Format.binary64 (withoutZeroSign f) (withoutZeroSign f) = mul Format.binary64 f f := by
  cases f with
  | notANumber | infinity | finite => rfl
  | zero s => cases s <;> rfl

theorem compare_withoutZeroSign (f g : UnpackedFloat) :
    (withoutZeroSign f).compare (withoutZeroSign g) = f.compare g := by
  cases f with
  | notANumber => rfl
  | infinity s => cases g <;> cases s <;> rfl
  | zero s =>
    cases g with
    | notANumber | zero => rfl
    | infinity t | finite t => cases t <;> rfl
  | finite s m e pos => cases g <;> cases s <;> rfl

section Operations

variable (x y : Float)

theorem unsignedZero_unsignedZero : unsignedZero (unsignedZero x) = unsignedZero x := by
  rw [← ofModel_pack_unpack (unsignedZero (unsignedZero x)), unpack_unsignedZero,
    unpack_unsignedZero, ← ofModel_pack_unpack (unsignedZero x), unpack_unsignedZero]
  cases x.toModel.unpack <;> rfl

theorem unsignedZero_eq_iff {x y : Float} : unsignedZero x = unsignedZero y ↔
    withoutZeroSign x.toModel.unpack = withoutZeroSign y.toModel.unpack := by
  constructor
  · intro h
    rw [← unpack_unsignedZero, h, unpack_unsignedZero]
  · intro h
    rw [← ofModel_pack_unpack (unsignedZero x), unpack_unsignedZero, h, ← unpack_unsignedZero,
      ofModel_pack_unpack]

theorem unsignedZero_add : unsignedZero (unsignedZero x + y) = unsignedZero (x + y) := by
  rw [unsignedZero_eq_iff]
  change withoutZeroSign (Float.Model.pack (add _ (unsignedZero x).toModel.unpack _)).unpack =
    withoutZeroSign (Float.Model.pack (add _ x.toModel.unpack _)).unpack
  rw [unpack_unsignedZero, ← unpack_pack_withoutZeroSign, withoutZeroSign_add,
    unpack_pack_withoutZeroSign]

theorem sub_mul_self_unsignedZero :
    (unsignedZero x - y) * (unsignedZero x - y) = (x - y) * (x - y) := by
  have hsquare : ∀ a b : Float, (a - b) * (a - b) = Float.ofModel (Float.Model.pack
      (mul Format.binary64
        (withoutZeroSign (Float.Model.pack (withoutZeroSign (sub Format.binary64
          a.toModel.unpack b.toModel.unpack))).unpack)
        (withoutZeroSign (Float.Model.pack (withoutZeroSign (sub Format.binary64
          a.toModel.unpack b.toModel.unpack))).unpack))) := by
    intro a b
    rw [unpack_pack_withoutZeroSign, mul_self_withoutZeroSign]
    rfl
  rw [hsquare, hsquare x y, unpack_unsignedZero, withoutZeroSign_sub]

theorem unsignedZero_le_iff : unsignedZero x ≤ unsignedZero y ↔ x ≤ y := by
  rw [le_iff_unpack_le, le_iff_unpack_le, UnpackedFloat.le, UnpackedFloat.le, unpack_unsignedZero,
    unpack_unsignedZero, compare_withoutZeroSign]

end Operations

/-- Doubles that differ at most in the sign of zero are equal numbers or both NaN. -/
theorem unsignedZero_eq_iff_beq {x y : Float} :
    unsignedZero x = unsignedZero y ↔ (x == y) = true ∨ x.isNaN = true ∧ y.isNaN = true := by
  rw [unsignedZero_eq_iff]
  change _ ↔ x.toModel.unpack.beq y.toModel.unpack = true ∨
    x.toModel.unpack.isNaN = true ∧ y.toModel.unpack.isNaN = true
  rw [beq_iff_ne_notANumber_and_eq, isNaN_iff, isNaN_iff]
  generalize x.toModel.unpack = f
  generalize y.toModel.unpack = g
  constructor
  · intro h
    cases f with
    | notANumber => cases g <;> simp_all [withoutZeroSign]
    | infinity s | finite s => cases g <;> simp_all [withoutZeroSign]
    | zero s =>
      cases g with
      | notANumber | infinity | finite => cases h
      | zero t => cases s <;> cases t <;> simp
  · rintro (⟨-, -, rfl | ⟨rfl, rfl⟩ | ⟨rfl, rfl⟩⟩ | ⟨rfl, rfl⟩) <;> rfl

section Order

variable {x y z : Float}

theorem withoutZeroSign_pack_add (s : Sign) :
    withoutZeroSign (Float.Model.pack (add Format.binary64 (.zero s) x.toModel.unpack)).unpack =
        withoutZeroSign x.toModel.unpack ∧
      withoutZeroSign (Float.Model.pack (add Format.binary64 x.toModel.unpack (.zero s))).unpack =
        withoutZeroSign x.toModel.unpack := by
  have hself : (Float.Model.pack x.toModel.unpack).unpack = x.toModel.unpack :=
    congrArg (fun y : Float => y.toModel.unpack) (ofModel_pack_unpack x)
  cases hx : x.toModel.unpack with
  | notANumber => cases s <;> exact ⟨rfl, rfl⟩
  | infinity t | finite t m e pos =>
    rw [hx] at hself
    exact ⟨congrArg withoutZeroSign hself, congrArg withoutZeroSign hself⟩
  | zero t => cases s <;> cases t <;> exact ⟨rfl, rfl⟩

theorem HasUnits.add_lt_iff (hz : HasUnits z 0) :
    (z + x < y ↔ x < y) ∧ (x + z < y ↔ x < y) := by
  have hcongr : ∀ u : Float, withoutZeroSign u.toModel.unpack = withoutZeroSign x.toModel.unpack →
      (u < y ↔ x < y) := by
    intro u hu
    rw [lt_iff_unpack_lt, lt_iff_unpack_lt, UnpackedFloat.lt, UnpackedFloat.lt,
      ← compare_withoutZeroSign, hu, compare_withoutZeroSign]
  obtain ⟨s, hs⟩ := (hasUnits_iff_represents.mp hz).exists_zero
  obtain ⟨hleft, hright⟩ := withoutZeroSign_pack_add (x := x) s
  rw [← hs] at hleft hright
  exact ⟨hcongr _ hleft, hcongr _ hright⟩

end Order

end GalaxyScenario.Binary64
