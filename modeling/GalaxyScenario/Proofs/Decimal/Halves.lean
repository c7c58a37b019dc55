import GalaxyScenario.Proofs.Binary64.Rational
import GalaxyScenario.Proofs.Decimal.Whole
import GalaxyScenario.Proofs.StarIdentity

/-! Halves of whole numbers as coordinates. Half of an odd number is a whole number of tenths, and
no whole number is nearest to it, so the grid of tenths is the coarsest one that has it. Half of an
even number is whole. The text of such a coordinate is its exact decimal, with a minus only in front
of negative numbers, and no other number has this text. -/
namespace GalaxyScenario
open Binary64

namespace Decimal

/-- The magnitude bits are those of half of an odd number. -/
structure OddHalf (bits n : Nat) : Prop where
  odd : n % 2 = 1
  small : n < 2 ^ 53
  units : 2 * unitsOfBits bits = n * unitsPerOne
  notNan : bits ≤ infinityBits

section OddHalf

variable {tie : Tie} {bits n : Nat}

theorem OddHalf.nearestBits_ne (h : OddHalf bits n) {d : Decimal} (hd : 0 ≤ d.exponent) :
    d.nearestBits ≠ bits := by
  intro heq
  have hden : d.den = 1 := by
    rw [den, show (-d.exponent).toNat = 0 by omega]
    rfl
  rw [nearestBits_eq, hden] at heq
  have hunits := h.units
  have hodd := h.odd
  have hlt := Nat.mul_lt_mul_of_pos_right h.small unitsPerOne_pos
  have hwhole := unitsOfBits_of_nearestBits_eq (by omega) heq
  rw [hwhole, ← Nat.mul_assoc] at hunits
  have htwice := Nat.eq_of_mul_eq_mul_right unitsPerOne_pos hunits
  omega

theorem OddHalf.nearestBits_tenths (h : OddHalf bits n) : nearestBits ⟨5 * n, -1⟩ = bits := by
  rw [nearestBits_eq]
  refine nearestBits_of_units (den_pos _) h.notNan ?_
  have hunits := h.units
  change 5 * n * 1 * unitsPerOne = unitsOfBits bits * 10
  rw [Nat.mul_one, Nat.mul_assoc]
  omega

theorem OddHalf.onGrid?_whole (h : OddHalf bits n) {e : Int} (he : 0 ≤ e) :
    onGrid? tie bits (unitsOfBits bits) e = none := by
  cases hfound : onGrid? tie bits (unitsOfBits bits) e with
  | none => rfl
  | some d =>
    obtain ⟨hexponent, hnearest⟩ := of_onGrid?_eq_some hfound
    exact absurd hnearest (h.nearestBits_ne (by omega))

/-- The double lies on the grid of tenths, so the lower neighbour is chosen. -/
theorem OddHalf.onGrid?_tenths (h : OddHalf bits n) :
    onGrid? tie bits (unitsOfBits bits) (-1) = some ⟨5 * n, -1⟩ := by
  have hone : powerOfTen (- -1 : Int).toNat = 10 ∧ powerOfTen (-1 : Int).toNat = 1 := ⟨rfl, rfl⟩
  have hnum : unitsOfBits bits * 10 = 5 * n * unitsPerOne := by
    have hunits := h.units
    rw [Nat.mul_assoc]
    omega
  have hexact : tie.takesUpper (5 * n) 0 unitsPerOne = false := by
    rw [Tie.takesUpper.eq_def, Nat.mul_zero, Nat.compare_eq_lt.mpr unitsPerOne_pos]
  unfold onGrid?
  dsimp only
  rw [hone.1, hone.2, Nat.mul_one, hnum, Nat.mul_div_cancel _ unitsPerOne_pos,
    Nat.mul_mod_left, hexact, decide_eq_true h.nearestBits_tenths]
  split <;> simp_all

/-- The grid of tenths is among those that are tried. -/
theorem OddHalf.exists_decade (h : OddHalf bits n) :
    ∃ k < 17, decade (unitsOfBits bits) unitsPerOne = (k : Nat) := by
  have hone := unitsPerOne_pos
  have hunits := h.units
  have hodd := h.odd
  unfold decade
  split_ifs with hlarge
  · refine ⟨_, Nat.lt_succ_of_le (digitCount_le (by decide) ?_), rfl⟩
    have hsmall := h.small
    rw [Nat.div_lt_iff_lt_mul hone]
    have hlt := Nat.mul_lt_mul_of_pos_right hsmall hone
    omega
  · -- Below one there is only a half.
    have hn : n = 1 := by
      by_contra hne
      have hle := Nat.mul_le_mul_right unitsPerOne (show 2 ≤ n by omega)
      omega
    rw [hn, Nat.one_mul] at hunits
    have hquotient : (unitsPerOne - 1) / unitsOfBits bits = 1 :=
      Nat.div_eq_of_lt_le (by omega) (by omega)
    rw [hquotient]
    exact ⟨0, by decide, rfl⟩

theorem OddHalf.shortest_eq (h : OddHalf bits n) : shortest tie bits = ⟨5 * n, -1⟩ := by
  have hone := unitsPerOne_pos
  have hunits := h.units
  have hodd := h.odd
  have hne : unitsOfBits bits ≠ 0 := by
    intro hzero
    rw [hzero] at hunits
    have hpos := Nat.mul_pos (show 0 < n by omega) hone
    omega
  obtain ⟨k, hk, htop⟩ := h.exists_decade
  have htenths : onGrid? tie bits (unitsOfBits bits) (k - (k + 1 : Nat)) = some ⟨5 * n, -1⟩ := by
    rw [show ((k : Int) - (k + 1 : Nat)) = -1 by omega]
    exact h.onGrid?_tenths
  have hfound : (List.range 17).findSome? (fun i =>
      onGrid? tie bits (unitsOfBits bits) (k - (i + 1 : Nat))) = some ⟨5 * n, -1⟩ :=
    findSome?_range_of_first hk htenths fun i hi => h.onGrid?_whole (by omega)
  unfold shortest
  dsimp only
  rw [if_neg hne, htop, hfound, Option.getD_some, dropLastZero, if_neg]
  dsimp only
  omega

end OddHalf

/-- The last digit of a number stands behind the digits of its tenth part. -/
theorem digitList_of_ten_le {n : Nat} (h : 10 ≤ n) :
    digitList n = digitList (n / 10) ++ [(n % 10).digitChar] := by
  unfold digitList
  rw [Nat.toDigits_eq_if (by decide), if_neg (by omega)]

theorem digitList_mul_powerOfTen {n : Nat} (hn : n ≠ 0) (k : Nat) :
    digitList (n * powerOfTen k) = digitList n ++ List.replicate k '0' := by
  induction k with
  | zero => exact (congrArg digitList (Nat.mul_one n)).trans (List.append_nil _).symm
  | succ k ih =>
    have hstep : n * powerOfTen (k + 1) = n * powerOfTen k * 10 := (Nat.mul_assoc _ _ _).symm
    have hpos := Nat.mul_pos (Nat.pos_of_ne_zero hn) (powerOfTen_pos k)
    rw [hstep, digitList_of_ten_le (by omega), Nat.mul_div_cancel _ (by decide), ih,
      Nat.mul_mod_left, List.append_assoc, List.replicate_succ']
    rfl

end Decimal

namespace Layout
open Decimal

theorem decimal_plain_whole {d : Decimal} (he : 0 ≤ d.exponent)
    (hlead : d.digits ≠ 0 ∨ d.exponent ≤ 0) : plain.decimal d = digitList d.num := by
  obtain ⟨n, e⟩ := d
  obtain ⟨k, rfl⟩ := Int.eq_ofNat_of_zero_le he
  have hpos : 0 < (digitList n).length := List.length_pos_iff.mpr (digitList_ne_nil n)
  change placePoint false (digitList n) ((digitList n).length + k) = digitList (n * powerOfTen k)
  have hdigits : digitList (n * powerOfTen k) = digitList n ++ List.replicate k '0' := by
    by_cases hn : n = 0
    · obtain rfl : k = 0 := by
        have := hlead.resolve_left (not_not.mpr hn)
        dsimp only at this
        omega
      rw [hn]
      rfl
    · exact digitList_mul_powerOfTen hn k
  unfold placePoint
  rw [hdigits, if_neg (by omega), if_pos (by omega),
    show ((digitList n).length + (k : Int)).toNat - (digitList n).length = k by omega]
  exact List.append_nil _

theorem decimal_plain_odd_half {n : Nat} (h : n % 2 = 1) :
    plain.decimal ⟨5 * n, -1⟩ = digitList (n / 2) ++ ['.', '5'] := by
  by_cases hone : n = 1
  · rw [hone]
    decide
  · have hdigits : digitList (5 * n) = digitList (n / 2) ++ ['5'] := by
      rw [digitList_of_ten_le (by omega), show 5 * n / 10 = n / 2 by omega,
        show 5 * n % 10 = 5 by omega]
      rfl
    have hpos : 0 < (digitList (n / 2)).length := List.length_pos_iff.mpr (digitList_ne_nil _)
    change placePoint false (digitList (5 * n)) ((digitList (5 * n)).length + -1) = _
    unfold placePoint
    rw [hdigits, List.length_append, List.length_singleton, if_neg (by omega), if_neg (by omega),
      show (((digitList (n / 2)).length + 1 : Nat) + -1 : Int).toNat = (digitList (n / 2)).length by
        omega, List.take_left, List.drop_left]

end Layout

/-- Coordinates of the same text are the same number. -/
theorem eq_of_coordinateText_eq {x y : Float} {q r : ℚ} (hx : IsRational x q)
    (hy : IsRational y r) (h : coordinateText x = coordinateText y) : q = r := by
  have hread := read?_coordinateText y
  rw [← h, read?_coordinateText, Option.some.injEq] at hread
  obtain ⟨a, ha, haq⟩ := hx
  obtain ⟨b, hb, hbr⟩ := hy
  have hfloat := hb.ofFloat_unsignedZero
  rw [← hread, ha.ofFloat_unsignedZero] at hfloat
  obtain ⟨hsign, hunits⟩ := Binary64.finite.inj hfloat
  rw [decide_eq_decide] at hsign
  have hab : a = b := by omega
  refine mul_right_cancel₀ units_pos.ne' ?_
  rw [← haq, hab, hbr]

namespace Decimal

/-- The decimal of half of a whole number. -/
def halfText (n : Int) : String :=
  (if n < 0 then "-" else "") ++ toString (n.natAbs / 2) ++ if n % 2 = 0 then "" else ".5"

theorem toList_halfText (n : Int) : (halfText n).toList = Layout.sign (decide (n < 0)) ++
    (digitList (n.natAbs / 2) ++ if n.natAbs % 2 = 0 then [] else ['.', '5']) := by
  have hparity : n.natAbs % 2 = 0 ↔ n % 2 = 0 := by omega
  rw [halfText]
  by_cases hneg : n < 0 <;> by_cases heven : n % 2 = 0 <;>
    simp [hneg, heven, hparity, Layout.sign, digitList]

end Decimal

/-- The plain layout writes the double of half of a number as the decimal of that half. -/
theorem decimal_plain_half {bits n : Nat} (hn : n < 2 ^ 53) (hbits : bits < infinityBits)
    (hunits : 2 * unitsOfBits bits = n * unitsPerOne) :
    Layout.plain.decimal (Decimal.shortest .up bits) =
      Decimal.digitList (n / 2) ++ if n % 2 = 0 then [] else ['.', '5'] := by
  split_ifs with hparity
  · obtain ⟨k, rfl⟩ : 2 ∣ n := Nat.dvd_of_mod_eq_zero hparity
    rw [Nat.mul_assoc] at hunits
    have hwhole := Nat.eq_of_mul_eq_mul_left two_pos hunits
    obtain ⟨he, hnum, hlead⟩ := Decimal.shortest_whole .up (n := k) (by omega) hbits hwhole
    rw [Layout.decimal_plain_whole he hlead, hnum, Nat.mul_div_cancel_left _ two_pos,
      List.append_nil]
  · have hodd : Decimal.OddHalf bits n := ⟨by omega, hn, hunits, hbits.le⟩
    rw [hodd.shortest_eq, Layout.decimal_plain_odd_half hodd.odd]

theorem coordinateText_half {x : Float} {q : ℚ} {n : Int} (hx : IsRational x q) (hq : q = n / 2)
    (hn : n.natAbs < 2 ^ 53) : coordinateText x = Decimal.halfText n := by
  obtain ⟨a, ha, han⟩ := hx
  have htwice : 2 * a = n * unitsPerOne := by
    have hcast : (2 * a : ℚ) = n * unitsPerOne := by
      rw [han, hq]
      ring
    exact_mod_cast hcast
  have hsign : decide (a < 0) = decide (n < 0) := by
    have hpos : (0 : Int) < unitsPerOne := Int.natCast_pos.mpr unitsPerOne_pos
    rw [decide_eq_decide, ← Int.mul_lt_mul_right (b := n) hpos, Int.zero_mul, ← htwice]
    omega
  have habs := congrArg Int.natAbs htwice
  rw [Int.natAbs_mul, Int.natAbs_mul, Int.natAbs_natCast] at habs
  obtain ⟨hbits, hunits⟩ := ha.unitsOfBits_eq
  have hdecimal := decimal_plain_half hn hbits (hunits ▸ habs)
  rw [← String.toList_inj, toList_coordinateText, Layout.chars, ha.ofFloat_unsignedZero]
  dsimp only
  rw [magnitudeBits_unsignedZero, hsign, Decimal.toList_halfText, ← hdecimal]
  rfl

example : [-7, -1, 0, 1, 30].map Decimal.halfText = ["-3.5", "-0.5", "0", "0.5", "15"] := by
  decide

end GalaxyScenario
