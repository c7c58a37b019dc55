import GalaxyScenario.Proofs.Binary64.Exact

/-! Comparison of doubles that stand for numbers. Canonical forms are ordered by exponent and then
by mantissa, which is the order of their units, so the comparisons of two such doubles are those of
their numbers of units. -/
namespace GalaxyScenario.Binary64
open Float.Model Float.Model.UnpackedFloat

theorem compare_natCast (u v : Nat) : compare (u : Int) v = compare u v := by
  rw [Int.compare_eq_ite_lt, Nat.compare_eq_ite_lt]
  simp only [Int.ofNat_lt]

theorem compare_neg_neg (a b : Int) : compare (-a) (-b) = (compare a b).swap := by
  rw [Int.compare_swap, Int.compare_eq_ite_lt, Int.compare_eq_ite_lt]
  simp only [Int.neg_lt_neg_iff]

theorem units_lt_of_exponent_lt {s₁ s₂ : Sign} {m₁ m₂ : Nat} {e₁ e₂ : Int} {pos₁ : 0 < m₁}
    {pos₂ : 0 < m₂} (c₁ : Canonical (.finite s₁ m₁ e₁ pos₁))
    (c₂ : Canonical (.finite s₂ m₂ e₂ pos₂)) (h : e₁ < e₂) :
    m₁ * 2 ^ (e₁ + 1074).toNat < m₂ * 2 ^ (e₂ + 1074).toNat := by
  obtain ⟨hm₁, hlow₁, -⟩ := c₁
  obtain ⟨-, hlow₂, hc₂⟩ := c₂
  have hm₂ : 2 ^ 52 ≤ m₂ := hc₂.resolve_right (by omega)
  obtain ⟨k, hk⟩ : ∃ k, (e₂ + 1074).toNat = (e₁ + 1074).toNat + 1 + k :=
    Nat.exists_eq_add_of_le (by omega)
  calc m₁ * 2 ^ (e₁ + 1074).toNat
      < 2 ^ 53 * 2 ^ (e₁ + 1074).toNat := Nat.mul_lt_mul_of_pos_right hm₁ (Nat.two_pow_pos _)
    _ = 2 ^ 52 * 2 ^ ((e₁ + 1074).toNat + 1) := by ring
    _ ≤ 2 ^ 52 * 2 ^ (e₂ + 1074).toNat := by
        rw [hk]
        exact Nat.mul_le_mul_left _ (Nat.pow_le_pow_right Nat.two_pos (Nat.le_add_right _ k))
    _ ≤ m₂ * 2 ^ (e₂ + 1074).toNat := Nat.mul_le_mul_right _ hm₂

theorem compare_units {s₁ s₂ : Sign} {m₁ m₂ : Nat} {e₁ e₂ : Int} {pos₁ : 0 < m₁}
    {pos₂ : 0 < m₂} (c₁ : Canonical (.finite s₁ m₁ e₁ pos₁))
    (c₂ : Canonical (.finite s₂ m₂ e₂ pos₂)) :
    (compare e₁ e₂).then (compare m₁ m₂) =
      compare (m₁ * 2 ^ (e₁ + 1074).toNat) (m₂ * 2 ^ (e₂ + 1074).toNat) := by
  rcases lt_trichotomy e₁ e₂ with h | rfl | h
  · rw [Int.compare_eq_lt.mpr h, Nat.compare_eq_lt.mpr (units_lt_of_exponent_lt c₁ c₂ h)]
    rfl
  · rw [Int.compare_eq_eq.mpr rfl, Ordering.eq_then, Nat.compare_eq_ite_lt, Nat.compare_eq_ite_lt]
    simp only [Nat.mul_lt_mul_right (Nat.two_pow_pos (e₁ + 1074).toNat)]
  · rw [Int.compare_eq_gt.mpr h, Nat.compare_eq_gt.mpr (units_lt_of_exponent_lt c₂ c₁ h)]
    rfl

theorem compare_spec {f g : UnpackedFloat} {a b : Int} (hf : Represents f a) (hg : Represents g b)
    (cf : Canonical f) (cg : Canonical g) : f.compare g = some (compare a b) := by
  rcases hf.zero_or_finite with ⟨s₁, rfl, rfl⟩ | ⟨s₁, m₁, e₁, pos₁, rfl, rfl⟩
  · rcases hg.zero_or_finite with ⟨s₂, rfl, rfl⟩ | ⟨s₂, m₂, e₂, pos₂, rfl, rfl⟩
    · rfl
    · have hpos : (0 : Int) < (m₂ * 2 ^ (e₂ + 1074).toNat : Nat) := by positivity
      cases s₂ with
      | negative => rw [Sign.apply, Int.compare_eq_gt.mpr (by omega)]; rfl
      | positive => rw [Sign.apply, Int.compare_eq_lt.mpr hpos]; rfl
  · have hpos₁ : (0 : Int) < (m₁ * 2 ^ (e₁ + 1074).toNat : Nat) := by positivity
    rcases hg.zero_or_finite with ⟨s₂, rfl, rfl⟩ | ⟨s₂, m₂, e₂, pos₂, rfl, rfl⟩
    · cases s₁ with
      | negative => rw [Sign.apply, Int.compare_eq_lt.mpr (by omega)]; rfl
      | positive => rw [Sign.apply, Int.compare_eq_gt.mpr hpos₁]; rfl
    · have hpos₂ : (0 : Int) < (m₂ * 2 ^ (e₂ + 1074).toNat : Nat) := by positivity
      have hunits := compare_units cf cg
      cases s₁ with
      | negative =>
        cases s₂ with
        | negative =>
          rw [Sign.apply, Sign.apply, compare_neg_neg, compare_natCast, ← hunits]
          rfl
        | positive =>
          rw [Sign.apply, Sign.apply, Int.compare_eq_lt.mpr (by omega)]
          rfl
      | positive =>
        cases s₂ with
        | negative =>
          rw [Sign.apply, Sign.apply, Int.compare_eq_gt.mpr (by omega)]
          rfl
        | positive =>
          rw [Sign.apply, Sign.apply, compare_natCast, ← hunits]
          rfl

theorem HasUnits.compare_eq {x y : Float} {a b : Int} (hx : HasUnits x a) (hy : HasUnits y b) :
    x.toModel.unpack.compare y.toModel.unpack = some (compare a b) := by
  rw [hasUnits_iff_represents] at hx hy
  exact compare_spec hx hy (canonical_unpack x) (canonical_unpack y)

theorem HasUnits.lt_iff {x y : Float} {a b : Int} (hx : HasUnits x a) (hy : HasUnits y b) :
    x < y ↔ a < b := by
  rw [lt_iff_unpack_lt, UnpackedFloat.lt, hx.compare_eq hy, ← Int.compare_eq_lt]
  cases compare a b <;> decide

theorem HasUnits.le_iff {x y : Float} {a b : Int} (hx : HasUnits x a) (hy : HasUnits y b) :
    x ≤ y ↔ a ≤ b := by
  rw [le_iff_unpack_le, UnpackedFloat.le, hx.compare_eq hy, ← Int.isLE_compare]
  rfl

end GalaxyScenario.Binary64
