import GalaxyScenario.Proofs.Binary64.Unpacked

/-! Negation changes nothing but the sign. The two differences of two doubles, infinities and NaN
included, are equal or each other's negative: rounding treats both signs alike. Their squares are
therefore the same double. -/
namespace GalaxyScenario.Binary64
open Float.Model Float.Model.UnpackedFloat

theorem unpack_packComponents_neg {format : Format} (s : Sign) (e : BitVec format.exponentBits)
    (m : BitVec format.mantissaBitsWithoutImplicit) :
    UnpackedFloat.unpack format (packComponents format (-s) e m) =
      (UnpackedFloat.unpack format (packComponents format s e m)).neg := by
  simp only [UnpackedFloat.unpack, unpackExponent_packComponents, unpackMantissa_packComponents,
    unpackSign_packComponents, Sign.ofBitVec_toBitVec]
  split_ifs <;> rfl

theorem unpack_pack_neg (f : UnpackedFloat) :
    (Float.Model.pack f.neg).unpack = (Float.Model.pack f).unpack.neg := by
  change UnpackedFloat.unpack Format.binary64 (UnpackedFloat.pack Format.binary64 f.neg) =
    (UnpackedFloat.unpack Format.binary64 (UnpackedFloat.pack Format.binary64 f)).neg
  cases f with
  | notANumber => rfl
  | infinity s => exact unpack_packComponents_neg s _ _
  | zero s => exact unpack_packComponents_neg s _ _
  | finite s m e pos =>
    simp only [UnpackedFloat.neg, UnpackedFloat.pack]
    split_ifs
    · exact unpack_packComponents_neg s _ _
    · exact unpack_packComponents_neg s _ _
    · exact unpack_packComponents_neg s _ _

theorem ofFloat_neg {x : Float} {negative : Bool} {units : Nat}
    (h : ofFloat x = .finite negative units) : ofFloat (-x) = .finite (!negative) units := by
  have hself : (Float.Model.pack x.toModel.unpack).unpack = x.toModel.unpack :=
    congrArg (fun y : Float => y.toModel.unpack) (Float.ofBits_toBits x)
  rw [ofFloat_eq_ofUnpacked] at h ⊢
  change ofUnpacked (Float.Model.pack x.toModel.unpack.neg).unpack = _
  rw [unpack_pack_neg, hself]
  cases hx : x.toModel.unpack with
  | notANumber | infinity =>
    rw [hx] at h
    cases h
  | zero s | finite s =>
    rw [hx] at h
    obtain ⟨rfl, rfl⟩ := Binary64.finite.inj h
    cases s <;> rfl

theorem round_neg (s : Sign) (m : Nat) (e : Int) :
    UnpackedFloat.round Format.binary64 (-s) m e =
      (UnpackedFloat.round Format.binary64 s m e).neg := by
  unfold UnpackedFloat.round roundWithAccuracy
  dsimp only
  split <;> rfl

/-- The forms are equal up to the sign. -/
def SameMagnitude (f g : UnpackedFloat) : Prop := f = g ∨ f = g.neg

theorem sameMagnitude_zero (s₁ s₂ : Sign) : SameMagnitude (.zero s₁) (.zero s₂) := by
  cases s₁ <;> cases s₂
  · exact Or.inl rfl
  · exact Or.inr rfl
  · exact Or.inr rfl
  · exact Or.inl rfl

theorem sameMagnitude_normalize_neg (m e : Int) (s : Sign) :
    SameMagnitude (UnpackedFloat.normalize Format.binary64 m e s)
      (UnpackedFloat.normalize Format.binary64 (-m) e s) := by
  unfold UnpackedFloat.normalize
  rcases lt_trichotomy m 0 with h | rfl | h
  · rw [Int.compare_eq_lt.mpr h, Int.compare_eq_gt.mpr (by omega)]
    exact Or.inr (round_neg .positive (-m).toNat e)
  · exact Or.inl rfl
  · rw [Int.compare_eq_gt.mpr h, Int.compare_eq_lt.mpr (by omega), Int.neg_neg]
    exact Or.inr (round_neg .negative m.toNat e)

theorem sameMagnitude_sub_comm (f g : UnpackedFloat) :
    SameMagnitude (sub Format.binary64 f g) (sub Format.binary64 g f) := by
  cases f with
  | notANumber => cases g <;> exact Or.inl rfl
  | infinity s₁ =>
    cases g with
    | notANumber => exact Or.inl rfl
    | zero | finite => cases s₁ <;> exact Or.inr rfl
    | infinity s₂ =>
      cases s₁ <;> cases s₂
      · exact Or.inl rfl
      · exact Or.inr rfl
      · exact Or.inr rfl
      · exact Or.inl rfl
  | zero s₁ =>
    cases g with
    | notANumber => exact Or.inl rfl
    | infinity | finite => exact Or.inr rfl
    | zero s₂ => cases s₁ <;> cases s₂ <;> exact sameMagnitude_zero _ _
  | finite s₁ m₁ e₁ pos₁ =>
    cases g with
    | notANumber => exact Or.inl rfl
    | infinity s₂ => cases s₂ <;> exact Or.inr rfl
    | zero s₂ => cases s₁ <;> exact Or.inr rfl
    | finite s₂ m₂ e₂ pos₂ =>
      have h := sameMagnitude_normalize_neg
        (s₁.apply (m₁ <<< (e₁ - min e₁ e₂).toNat : Nat) -
          s₂.apply (m₂ <<< (e₂ - min e₁ e₂).toNat : Nat)) (min e₁ e₂) .positive
      rw [Int.neg_sub] at h
      change SameMagnitude (UnpackedFloat.normalize Format.binary64 _ (min e₁ e₂) .positive)
        (UnpackedFloat.normalize Format.binary64 (s₂.apply (m₂ <<< (e₂ - min e₂ e₁).toNat : Nat) -
          s₁.apply (m₁ <<< (e₁ - min e₂ e₁).toNat : Nat)) (min e₂ e₁) .positive)
      rwa [Int.min_comm e₂ e₁]

theorem mul_neg_neg (f : UnpackedFloat) :
    mul Format.binary64 f.neg f.neg = mul Format.binary64 f f := by
  cases f with
  | notANumber => rfl
  | infinity s | zero s | finite s => cases s <;> rfl

theorem sub_mul_self_comm (x y : Float) : (x - y) * (x - y) = (y - x) * (y - x) := by
  have hsquare : ∀ f g, SameMagnitude f g →
      mul Format.binary64 (Float.Model.pack f).unpack (Float.Model.pack f).unpack =
        mul Format.binary64 (Float.Model.pack g).unpack (Float.Model.pack g).unpack := by
    rintro f g (rfl | rfl)
    · rfl
    · rw [unpack_pack_neg, mul_neg_neg]
  exact congrArg (fun f => Float.ofModel (Float.Model.pack f))
    (hsquare _ _ (sameMagnitude_sub_comm x.toModel.unpack y.toModel.unpack))

end GalaxyScenario.Binary64
