import GalaxyScenario.Decimal.Shortest
import GalaxyScenario.Proofs.Binary64.Nearest

/-! The double that a decimal stands for depends only on the value of the decimal, and the shortest
decimal of a finite double reads back as that double. -/
namespace GalaxyScenario

namespace Binary64

theorem nearestBits_eq_zero {n d : Nat} (h : 2 * (n * unitsPerOne) < d) : nearestBits n d = 0 := by
  have hlt : n * unitsPerOne < d := by omega
  have hround : roundBits (n * unitsPerOne) d = 0 := by
    simp only [roundBits, Nat.div_eq_of_lt hlt, Nat.log2_zero, Nat.zero_sub, pow_zero, Nat.mul_one,
      divHalfEven, Nat.mod_eq_of_lt hlt, if_pos h, Nat.zero_mul]
  rw [nearestBits_eq_min, hround, Nat.zero_min]

theorem nearestBits_eq_infinityBits {n k : Nat} (hk : 1024 ≤ k) (h : 2 ^ k ≤ n) :
    nearestBits n 1 = infinityBits := by
  obtain ⟨j, hj⟩ : ∃ j : Nat, j = 1074 := ⟨_, rfl⟩
  have hunits : 2 ^ (k + j) ≤ n * unitsPerOne := by
    rw [Nat.pow_add, two_pow_eq_unitsPerOne hj]
    exact Nat.mul_le_mul_right _ h
  have hlog : k + j ≤ (n * unitsPerOne / 1).log2 := by
    rw [Nat.div_one]
    have := Nat.two_pow_pos (k + j)
    exact (Nat.le_log2 (by omega)).mpr hunits
  obtain ⟨shift, hshift⟩ : ∃ shift, (n * unitsPerOne / 1).log2 - 52 = shift := ⟨_, rfl⟩
  have hmantissa := (roundedMantissa_bounds hshift).2 (by omega)
  have hfield : 2046 * hiddenBit ≤ shift * hiddenBit := Nat.mul_le_mul_right _ (by omega)
  have htop : infinityBits ≤ roundBits (n * unitsPerOne) 1 := by
    unfold roundBits infinityBits
    rw [hshift]
    dsimp only
    omega
  rw [nearestBits_eq_min, min_eq_right htop]

end Binary64

namespace Decimal
open Binary64

theorem powerOfTen_add (m n : Nat) : powerOfTen (m + n) = powerOfTen m * powerOfTen n :=
  Nat.pow_add 10 m n

theorem powerOfTen_pos (n : Nat) : 0 < powerOfTen n := Nat.pow_pos (by decide)

theorem den_pos (d : Decimal) : 0 < d.den := powerOfTen_pos _

theorem eight_pow_le_powerOfTen (n : Nat) : 2 ^ (3 * n) ≤ powerOfTen n := by
  rw [Nat.pow_mul]
  exact Nat.pow_le_pow_left (by decide) n

/-- The shortcuts for very large and very small decimals agree with the nearest double. -/
theorem nearestBits_eq (d : Decimal) : d.nearestBits = Binary64.nearestBits d.num d.den := by
  obtain ⟨digits, exponent⟩ := d
  unfold nearestBits
  dsimp only
  split_ifs with hzero hlarge hsmall
  · rw [nearestBits_eq_zero]
    rw [num, hzero, Nat.zero_mul, Nat.zero_mul]
    exact den_pos _
  · obtain ⟨e, rfl⟩ := Int.eq_ofNat_of_zero_le (show 0 ≤ exponent by omega)
    have hnum : 2 ^ (3 * e) ≤ num ⟨digits, e⟩ :=
      (eight_pow_le_powerOfTen e).trans (Nat.le_mul_of_pos_left _ (Nat.pos_of_ne_zero hzero))
    have hden : den ⟨digits, e⟩ = 1 := by
      rw [den, show (-(e : Int)).toNat = 0 by omega]
      rfl
    rw [hden, nearestBits_eq_infinityBits (k := 3 * e) (by omega) hnum]
  · obtain ⟨e, he⟩ : ∃ e : Nat, exponent = -e := ⟨(-exponent).toNat, by omega⟩
    subst he
    obtain ⟨j, hj⟩ : ∃ j : Nat, j = 1074 := ⟨_, rfl⟩
    have hnum : num ⟨digits, -e⟩ < 2 ^ (digits.log2 + 1) := by
      rw [num, show (-(e : Int)).toNat = 0 by omega]
      exact (Nat.mul_one digits).trans_lt Nat.lt_log2_self
    rw [nearestBits_eq_zero]
    calc 2 * (num ⟨digits, -e⟩ * unitsPerOne)
        < 2 * (2 ^ (digits.log2 + 1) * unitsPerOne) := by
          have := Nat.mul_lt_mul_of_pos_right hnum unitsPerOne_pos
          omega
      _ = 2 ^ (digits.log2 + 2 + j) := by
          rw [← two_pow_eq_unitsPerOne hj]
          ring
      _ ≤ 2 ^ (3 * e) := Nat.pow_le_pow_right Nat.two_pos (by omega)
      _ ≤ den ⟨digits, -e⟩ := by
          rw [den, show (- -(e : Int)).toNat = e by omega]
          exact eight_pow_le_powerOfTen e
  · rfl

/-- Zeros at the end of the digits can be counted in the exponent. -/
theorem nearestBits_mul_powerOfTen (n k : Nat) (e : Int) :
    nearestBits ⟨n * powerOfTen k, e⟩ = nearestBits ⟨n, e + k⟩ := by
  rw [nearestBits_eq, nearestBits_eq]
  refine Binary64.nearestBits_congr (den_pos _) (den_pos _) ?_
  have hexp : k + e.toNat + (-(e + k)).toNat = (e + k).toNat + (-e).toNat := by omega
  have hpow := congrArg powerOfTen hexp
  simp only [powerOfTen_add] at hpow
  simp only [num, den]
  calc n * powerOfTen k * powerOfTen e.toNat * powerOfTen (-(e + k)).toNat
      = n * (powerOfTen k * powerOfTen e.toNat * powerOfTen (-(e + k)).toNat) := by ring
    _ = n * powerOfTen (e + k).toNat * powerOfTen (-e).toNat := by rw [hpow]; ring

theorem nearestBits_dropLastZero (d : Decimal) : d.dropLastZero.nearestBits = d.nearestBits := by
  unfold dropLastZero
  split_ifs with hzero
  · have hdigits : d.digits / 10 * powerOfTen 1 = d.digits := by
      change d.digits / 10 * 10 = d.digits
      omega
    have hshift := nearestBits_mul_powerOfTen (d.digits / 10) 1 d.exponent
    rw [hdigits] at hshift
    exact hshift.symm
  · rfl

/-- What is found on a grid lies on it and reads back as the double it was found for. -/
theorem of_onGrid?_eq_some {tie : Tie} {bits units : Nat} {exponent : Int} {d : Decimal}
    (h : onGrid? tie bits units exponent = some d) :
    d.exponent = exponent ∧ d.nearestBits = bits := by
  unfold onGrid? at h
  dsimp only at h
  split at h
  case h_1 hlow hhigh =>
    have hlow := of_decide_eq_true hlow
    have hhigh := of_decide_eq_true hhigh
    split_ifs at h
    · obtain rfl := Option.some.inj h
      exact ⟨rfl, hhigh⟩
    · obtain rfl := Option.some.inj h
      exact ⟨rfl, hlow⟩
  case h_2 hlow _ =>
    obtain rfl := Option.some.inj h
    exact ⟨rfl, of_decide_eq_true hlow⟩
  case h_3 _ hhigh =>
    obtain rfl := Option.some.inj h
    exact ⟨rfl, of_decide_eq_true hhigh⟩
  case h_4 => cases h

theorem nearestBits_exact {bits : Nat} (h : bits ≤ infinityBits) :
    (exact (unitsOfBits bits)).nearestBits = bits := by
  obtain ⟨k, hk⟩ : ∃ k : Nat, k = 1074 := ⟨_, rfl⟩
  have hexact : exact (unitsOfBits bits) = ⟨unitsOfBits bits * Nat.pow 5 k, -k⟩ := by
    have hexponent : (-1074 : Int) = -k := by omega
    unfold exact
    rw [hexponent]
    generalize 1074 = j at hk ⊢
    rw [hk]
  have hpow : Nat.pow 5 k * 2 ^ k = powerOfTen k := (Nat.mul_pow 5 2 k).symm
  have hwhole : powerOfTen (-(k : Int)).toNat = 1 := by
    rw [show (-(k : Int)).toNat = 0 by omega]
    rfl
  rw [nearestBits_eq, hexact]
  refine nearestBits_of_units (den_pos _) h ?_
  rw [num, den, Int.neg_neg, Int.toNat_natCast, hwhole, Nat.mul_one, Nat.mul_assoc,
    ← two_pow_eq_unitsPerOne hk, hpow]

/-- The shortest decimal of a finite double reads back as that double. -/
theorem nearestBits_shortest (tie : Tie) {bits : Nat} (h : bits < infinityBits) :
    (shortest tie bits).nearestBits = bits := by
  unfold shortest
  dsimp only
  split_ifs with hzero
  · have hbits : bits = 0 := unitsOfBits_injective hzero
    rw [hbits]
    rfl
  · rw [nearestBits_dropLastZero]
    cases hfound : (List.range 17).findSome? fun n =>
        onGrid? tie bits (unitsOfBits bits)
          (decade (unitsOfBits bits) unitsPerOne - (n + 1 : Nat)) with
    | none => exact nearestBits_exact h.le
    | some d =>
      obtain ⟨n, -, hd⟩ := List.exists_of_findSome?_eq_some hfound
      exact (of_onGrid?_eq_some hd).2

end Decimal
end GalaxyScenario
