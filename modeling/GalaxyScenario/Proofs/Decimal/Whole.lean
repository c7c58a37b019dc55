import GalaxyScenario.Proofs.Binary64.Division
import GalaxyScenario.Proofs.Decimal.Positional

/-! Whole doubles as decimals. No other whole number is nearest to the double that a whole number
below `2 ^ 53` is, so the shortest decimal of such a double is the number itself, with zeros at its
end moved into the exponent. -/
namespace GalaxyScenario

namespace Binary64

theorem nearestBits_mono {a b : Nat} (h : a ≤ b) : nearestBits a 1 ≤ nearestBits b 1 := by
  rw [nearestBits_eq_min, nearestBits_eq_min]
  refine min_le_min_right _ (roundBits_mono Nat.one_pos Nat.one_pos ?_)
  exact Nat.mul_le_mul_right _ (Nat.mul_le_mul_right _ h)

theorem unitsOfBits_nearestBits {n : Nat} (h : n ≤ 2 ^ 53) :
    unitsOfBits (nearestBits n 1) = n * unitsPerOne := by
  have hwhole := (isWhole_ofNat h).hasUnits_natCast
  have hround := hwhole.roundBits_eq
  obtain ⟨hfinite, hunits⟩ := hwhole.unitsOfBits_eq
  rw [Int.natAbs_natCast] at hround hunits
  rw [nearestBits_eq_min, hround, min_eq_left hfinite.le, hunits]

/-- A double below `2 ^ 53` that is nearest to a whole number is that number. -/
theorem unitsOfBits_of_nearestBits_eq {v bits : Nat}
    (hsmall : unitsOfBits bits < 2 ^ 53 * unitsPerOne) (h : nearestBits v 1 = bits) :
    unitsOfBits bits = v * unitsPerOne := by
  rcases Nat.lt_or_ge (2 ^ 53) v with hlarge | hle
  · have htop := unitsOfBits_nearestBits (le_refl (2 ^ 53))
    have hmono : nearestBits (2 ^ 53) 1 ≤ bits := (nearestBits_mono hlarge.le).trans_eq h
    rw [← htop] at hsmall
    have heq := Nat.le_antisymm hmono (le_of_unitsOfBits_le hsmall.le)
    exact absurd (congrArg unitsOfBits heq) hsmall.ne'
  · rw [← h, unitsOfBits_nearestBits hle]

/-- No other whole number is nearest to the double that a whole number below `2 ^ 53` is. -/
theorem eq_of_nearestBits_eq {v n : Nat} (hn : n < 2 ^ 53) (h : nearestBits v 1 = nearestBits n 1) :
    v = n := by
  have hunits := unitsOfBits_nearestBits hn.le
  have hsmall : unitsOfBits (nearestBits n 1) < 2 ^ 53 * unitsPerOne := by
    rw [hunits]
    exact Nat.mul_lt_mul_of_pos_right hn unitsPerOne_pos
  have hother := unitsOfBits_of_nearestBits_eq hsmall h
  exact Nat.eq_of_mul_eq_mul_right unitsPerOne_pos (hother.symm.trans hunits)

end Binary64

open Binary64

/-- What is found first in a range. -/
theorem findSome?_range_eq_some {α : Type} {f : Nat → Option α} {n : Nat} {b : α}
    (h : (List.range n).findSome? f = some b) : ∃ a, f a = some b ∧ ∀ j < a, f j = none := by
  induction n with
  | zero => cases h
  | succ n ih =>
    rw [List.range_succ, List.findSome?_append] at h
    cases hfound : (List.range n).findSome? f with
    | some c =>
      rw [hfound, Option.some_or] at h
      exact ih (hfound.trans h)
    | none =>
      rw [hfound, Option.none_or] at h
      refine ⟨n, by simpa using h, fun j hj => ?_⟩
      exact List.findSome?_eq_none_iff.mp hfound j (List.mem_range.mpr hj)

theorem findSome?_range_of_first {α : Type} {f : Nat → Option α} {n a : Nat} {b : α} (ha : a < n)
    (h : f a = some b) (hbefore : ∀ j < a, f j = none) : (List.range n).findSome? f = some b := by
  cases hfound : (List.range n).findSome? f with
  | none =>
    rw [List.findSome?_eq_none_iff.mp hfound a (List.mem_range.mpr ha)] at h
    cases h
  | some c =>
    obtain ⟨i, hi, hfirst⟩ := findSome?_range_eq_some hfound
    rcases lt_trichotomy i a with hlt | rfl | hlt
    · rw [hbefore i hlt] at hi
      cases hi
    · exact hi.symm.trans h
    · rw [hfirst a hlt] at h
      cases h

namespace Decimal

variable {tie : Tie} {bits n : Nat}

theorem digitCount_le {k : Nat} (hk : 0 < k) (h : n < 10 ^ k) : digitCount n ≤ k :=
  Nat.toDigits_length 10 n k hk h

theorem nearestBits_natural (n : Nat) : nearestBits ⟨n, 0⟩ = Binary64.nearestBits n 1 := by
  rw [nearestBits_eq]
  exact congrArg (Binary64.nearestBits · 1) (Nat.mul_one n)

theorem nearestBits_of_unitsOfBits (hbits : bits ≤ infinityBits)
    (hunits : unitsOfBits bits = n * unitsPerOne) : nearestBits ⟨n, 0⟩ = bits := by
  rw [nearestBits_natural]
  refine nearestBits_of_units Nat.one_pos hbits ?_
  rw [hunits, Nat.mul_one]

/-- A whole number is found on the grid of whole numbers. -/
theorem isSome_onGrid?_zero (hbits : bits ≤ infinityBits)
    (hunits : unitsOfBits bits = n * unitsPerOne) :
    (onGrid? tie bits (unitsOfBits bits) 0).isSome = true := by
  have hone : powerOfTen (-0 : Int).toNat = 1 ∧ powerOfTen (0 : Int).toNat = 1 := ⟨rfl, rfl⟩
  have hlower : unitsOfBits bits / unitsPerOne = n := by
    rw [hunits, Nat.mul_div_cancel n unitsPerOne_pos]
  unfold onGrid?
  dsimp only
  rw [hone.1, hone.2, Nat.mul_one, Nat.mul_one, hlower,
    decide_eq_true (nearestBits_of_unitsOfBits hbits hunits)]
  split <;> simp_all

/-- The shortest decimal of a whole number has no digits after the point. -/
theorem exponent_shortest_nonneg (tie : Tie) (hn : n < 2 ^ 53) (hpos : 0 < n)
    (hbits : bits ≤ infinityBits) (hunits : unitsOfBits bits = n * unitsPerOne) :
    0 ≤ (shortest tie bits).exponent := by
  have hone := unitsPerOne_pos
  have hne : unitsOfBits bits ≠ 0 := by
    rw [hunits]
    exact (Nat.mul_pos hpos hone).ne'
  have htop : decade (unitsOfBits bits) unitsPerOne = digitCount n := by
    rw [decade, hunits, if_pos (Nat.le_mul_of_pos_left _ hpos), Nat.mul_div_cancel n hone]
  have hcount : digitCount n ≤ 16 := digitCount_le (by decide) (hn.trans (by decide))
  have hleast : 0 < digitCount n := List.length_pos_iff.mpr (digitList_ne_nil n)
  unfold shortest
  dsimp only
  rw [if_neg hne, htop]
  -- The grid of whole numbers is among those that are tried, so no finer one is reached.
  have hzero : (onGrid? tie bits (unitsOfBits bits)
      (digitCount n - ((digitCount n - 1) + 1 : Nat))).isSome = true := by
    rw [show ((digitCount n : Int) - ((digitCount n - 1) + 1 : Nat)) = 0 by omega]
    exact isSome_onGrid?_zero hbits hunits
  cases hfound : (List.range 17).findSome? fun i =>
      onGrid? tie bits (unitsOfBits bits) (digitCount n - (i + 1 : Nat)) with
  | none =>
    have hnone := List.findSome?_eq_none_iff.mp hfound (digitCount n - 1)
      (List.mem_range.mpr (by omega))
    rw [hnone] at hzero
    cases hzero
  | some d =>
    obtain ⟨i, hi, hbefore⟩ := findSome?_range_eq_some hfound
    have hle : i ≤ digitCount n - 1 := by
      by_contra hlt
      rw [hbefore _ (Nat.lt_of_not_le hlt)] at hzero
      cases hzero
    have hexponent := (of_onGrid?_eq_some hi).1
    rw [Option.getD_some, dropLastZero]
    split_ifs
    · dsimp only
      omega
    · omega

/-- The shortest decimal of a whole number is that number, with zeros at its end in the exponent. -/
theorem shortest_whole (tie : Tie) (hn : n < 2 ^ 53) (hbits : bits < infinityBits)
    (hunits : unitsOfBits bits = n * unitsPerOne) : 0 ≤ (shortest tie bits).exponent ∧
      (shortest tie bits).num = n ∧
      ((shortest tie bits).digits ≠ 0 ∨ (shortest tie bits).exponent ≤ 0) := by
  rcases Nat.eq_zero_or_pos n with rfl | hpos
  · rw [Nat.zero_mul] at hunits
    have hzero : shortest tie bits = ⟨0, 0⟩ := by rw [shortest, hunits, if_pos rfl]
    rw [hzero]
    exact ⟨le_rfl, rfl, Or.inr le_rfl⟩
  · have hexponent := exponent_shortest_nonneg tie hn hpos hbits.le hunits
    obtain ⟨e, he⟩ := Int.eq_ofNat_of_zero_le hexponent
    have hmove := nearestBits_mul_powerOfTen (shortest tie bits).digits e 0
    rw [Int.zero_add, ← he, nearestBits_shortest tie hbits, nearestBits_natural] at hmove
    have hwhole := nearestBits_of_unitsOfBits hbits.le hunits
    rw [nearestBits_natural] at hwhole
    have hnum : (shortest tie bits).num = n := by
      rw [num, he]
      exact eq_of_nearestBits_eq hn (hmove.trans hwhole.symm)
    refine ⟨hexponent, hnum, Or.inl fun hzero => ?_⟩
    rw [num, hzero, Nat.zero_mul] at hnum
    exact hpos.ne hnum

theorem digitCount_add_le {d e k : Nat} (hd : d ≠ 0) (h : d * powerOfTen e < 10 ^ k) :
    digitCount d + e ≤ k := by
  have hpower : powerOfTen e < 10 ^ k :=
    (Nat.le_mul_of_pos_left _ (Nat.pos_of_ne_zero hd)).trans_lt h
  have hlt : e < k := (Nat.pow_lt_pow_iff_right (by decide : 1 < 10)).mp hpower
  have hcount : digitCount d ≤ k - e := by
    refine digitCount_le (by omega) (Nat.lt_of_mul_lt_mul_right (a := powerOfTen e) ?_)
    rwa [powerOfTen, Nat.pow_eq, ← Nat.pow_add, Nat.sub_add_cancel hlt.le]
  omega

end Decimal

end GalaxyScenario
