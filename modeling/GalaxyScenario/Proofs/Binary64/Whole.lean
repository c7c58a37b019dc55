import GalaxyScenario.Proofs.Binary64.Comparison

/-! Whole numbers among the doubles. Every whole number up to `2 ^ 53` is a double, so arithmetic
on whole doubles is exact as long as its results stay in this range. -/
namespace GalaxyScenario.Binary64

/-- The double stands for a whole number. Both zeros stand for `0`. -/
def IsWhole (x : Float) (n : Int) : Prop := HasUnits x (n * unitsPerOne)

theorem IsWhole.hasUnits_natCast {x : Float} {n : Nat} (h : IsWhole x n) :
    HasUnits x (n * unitsPerOne : Nat) := by
  rw [Int.natCast_mul]
  exact h

theorem IsWhole.eq {x : Float} {a b : Int} (ha : IsWhole x a) (hb : IsWhole x b) : a = b := by
  have hpos : (unitsPerOne : Int) ≠ 0 := Int.natCast_ne_zero.mpr unitsPerOne_pos.ne'
  exact Int.eq_of_mul_eq_mul_right hpos (HasUnits.eq ha hb)

theorem isDouble_whole {n : Int} (h : n.natAbs ≤ 2 ^ 53) : IsDouble (n * unitsPerOne) := by
  obtain ⟨k, hk⟩ : ∃ k : Nat, k = 1074 := ⟨_, rfl⟩
  rw [IsDouble, Int.natAbs_mul, Int.natAbs_natCast, ← two_pow_eq_unitsPerOne hk]
  rcases Nat.lt_or_eq_of_le h with hlt | heq
  · exact ⟨n.natAbs, k, hlt, by omega, rfl⟩
  · refine ⟨2 ^ 52, k + 1, by decide, by omega, ?_⟩
    rw [heq]
    ring

theorem signed_mul (negative : Bool) (u v : Nat) :
    signed negative (u * v : Nat) = signed negative u * v := by
  cases negative
  · exact Int.natCast_mul u v
  · exact (congrArg Neg.neg (Int.natCast_mul u v)).trans (Int.neg_mul u v).symm

theorem isWhole_of_units {x : Float} (negative : Bool) (u : Nat)
    (h : ofFloat x = .finite negative (u * unitsPerOne)) : IsWhole x (signed negative u) :=
  ⟨negative, u * unitsPerOne, h, signed_mul negative u unitsPerOne⟩

section Arithmetic

variable {x y : Float} {a b : Int}

theorem IsWhole.add (hx : IsWhole x a) (hy : IsWhole y b) (hab : (a + b).natAbs ≤ 2 ^ 53) :
    IsWhole (x + y) (a + b) := by
  have hdouble := isDouble_whole hab
  rw [Int.add_mul] at hdouble
  rw [IsWhole, Int.add_mul]
  exact HasUnits.add hx hy hdouble

theorem IsWhole.sub (hx : IsWhole x a) (hy : IsWhole y b) (hab : (a - b).natAbs ≤ 2 ^ 53) :
    IsWhole (x - y) (a - b) := by
  have hdouble := isDouble_whole hab
  rw [Int.sub_mul] at hdouble
  rw [IsWhole, Int.sub_mul]
  exact HasUnits.sub hx hy hdouble

theorem IsWhole.mul (hx : IsWhole x a) (hy : IsWhole y b) (hab : (a * b).natAbs ≤ 2 ^ 53) :
    IsWhole (x * y) (a * b) := by
  refine HasUnits.mul hx hy (isDouble_whole hab) ?_
  ring

theorem IsWhole.lt_iff (hx : IsWhole x a) (hy : IsWhole y b) : x < y ↔ a < b := by
  have hpos : (0 : Int) < unitsPerOne := Int.natCast_pos.mpr unitsPerOne_pos
  exact (HasUnits.lt_iff hx hy).trans (Int.mul_lt_mul_right hpos)

theorem IsWhole.le_iff (hx : IsWhole x a) (hy : IsWhole y b) : x ≤ y ↔ a ≤ b := by
  have hpos : (0 : Int) < unitsPerOne := Int.natCast_pos.mpr unitsPerOne_pos
  exact (HasUnits.le_iff hx hy).trans (Int.mul_le_mul_right hpos)

end Arithmetic

theorem ofFloat_constants : ofFloat 0.0 = .finite false (0 * unitsPerOne) ∧
    ofFloat 1.0 = .finite false (1 * unitsPerOne) ∧
    ofFloat (-1.0) = .finite true (1 * unitsPerOne) ∧
    ofFloat 4.0 = .finite false (4 * unitsPerOne) := by decide +kernel

theorem isWhole_zero : IsWhole 0.0 0 := isWhole_of_units false 0 ofFloat_constants.1

theorem isWhole_one : IsWhole 1.0 1 := isWhole_of_units false 1 ofFloat_constants.2.1

theorem isWhole_neg_one : IsWhole (-1.0) (-1) := isWhole_of_units true 1 ofFloat_constants.2.2.1

theorem isWhole_four : IsWhole 4.0 4 := isWhole_of_units false 4 ofFloat_constants.2.2.2

end GalaxyScenario.Binary64
