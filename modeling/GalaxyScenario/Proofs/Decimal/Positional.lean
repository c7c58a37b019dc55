import GalaxyScenario.Decimal.Layout
import GalaxyScenario.Decimal.Numeral
import GalaxyScenario.Proofs.Decimal.Shortest

/-! Decimals written without an exponent: digits, with a point among them where the decimal is not
whole. What is written is read as a decimal of the same value, so a double written in the plain
layout is read as itself. -/
namespace GalaxyScenario
open Binary64

/-- Digits with a point in front of the last of them; none if nothing follows it. -/
def withPoint (whole fraction : List Char) : List Char :=
  whole ++ if fraction.isEmpty then [] else '.' :: fraction

/-- The digits before and after the point are those of the decimal. -/
structure Positional (d : Decimal) (whole fraction : List Char) : Prop where
  nonempty : whole ≠ []
  whole_digits : ∀ c ∈ whole, c.isDigit = true
  fraction_digits : ∀ c ∈ fraction, c.isDigit = true
  value : Numeral.digitsValue (Numeral.digitsValue 0 whole) fraction =
    d.digits * Decimal.powerOfTen d.exponent.toNat
  length : fraction.length = (-d.exponent).toNat
  leading : d.digits ≠ 0 ∨ d.exponent ≤ 0 → whole.head? = some '0' → whole = ['0']

/-- What holds of every digit and of a point holds of all that is written. -/
theorem Positional.forall_mem_withPoint {d : Decimal} {whole fraction : List Char} {P : Char → Prop}
    (h : Positional d whole fraction) (hdigit : ∀ c, c.isDigit = true → P c) (hpoint : P '.') :
    ∀ c ∈ withPoint whole fraction, P c := by
  intro c hc
  rcases List.mem_append.mp hc with hc | hc
  · exact hdigit c (h.whole_digits c hc)
  · split_ifs at hc
    · cases hc
    · rcases List.mem_cons.mp hc with rfl | hc
      · exact hpoint
      · exact hdigit c (h.fraction_digits c hc)

namespace Numeral

theorem digitsValue_append (start : Nat) (cs ds : List Char) :
    digitsValue start (cs ++ ds) = digitsValue (digitsValue start cs) ds := List.foldl_append

theorem digitsValue_digitList (n : Nat) : digitsValue 0 (Decimal.digitList n) = n :=
  Nat.ofDigitChars_ten_toDigits

theorem digitsValue_replicate_zero (start n : Nat) :
    digitsValue start (List.replicate n '0') = start * Decimal.powerOfTen n :=
  Nat.ofDigitChars_replicate_zero.trans (Nat.mul_comm _ _)

end Numeral

namespace Decimal

theorem isDigit_of_mem_digitList {n : Nat} {c : Char} (h : c ∈ digitList n) : c.isDigit = true :=
  Nat.isDigit_of_mem_toDigits (by decide) (by decide) h

theorem notMem_toDigits {c : Char} (hc : c.isDigit = false) (n : Nat) :
    c ∉ Nat.toDigits 10 n := by
  intro h
  rw [isDigit_of_mem_digitList h] at hc
  cases hc

theorem digitList_ne_nil (n : Nat) : digitList n ≠ [] := Nat.toDigits_ne_nil

theorem head?_digitList {n : Nat} (h : n ≠ 0) : (digitList n).head? ≠ some '0' := by
  induction n using Nat.strongRecOn with
  | ind n ih =>
    unfold digitList at ih ⊢
    rw [Nat.toDigits_eq_if (by decide)]
    split_ifs with hlt
    · rw [List.head?_cons, ne_eq, Option.some.injEq]
      interval_cases n <;> simp_all [Nat.digitChar]
    · rw [List.head?_append_of_ne_nil _ Nat.toDigits_ne_nil]
      exact ih (n / 10) (by omega) (by omega)

end Decimal

theorem isDigit_of_mem_replicate {n : Nat} {c : Char} (h : c ∈ List.replicate n '0') :
    c.isDigit = true := by
  rw [List.eq_of_mem_replicate h]
  decide

section Cases

variable {n : Nat} {e : Int}

theorem positional_below (h : (Decimal.digitList n).length + e ≤ 0) :
    Positional ⟨n, e⟩ ['0']
      (List.replicate (-((Decimal.digitList n).length + e)).toNat '0' ++ Decimal.digitList n) where
  nonempty := List.cons_ne_nil _ _
  whole_digits := fun _ hc => isDigit_of_mem_replicate (n := 1) hc
  fraction_digits := by
    intro c hc
    rcases List.mem_append.mp hc with hc | hc
    · exact isDigit_of_mem_replicate hc
    · exact Decimal.isDigit_of_mem_digitList hc
  value := by
    have hzero : Numeral.digitsValue 0 ['0'] = 0 := rfl
    rw [hzero, Numeral.digitsValue_append, Numeral.digitsValue_replicate_zero, Nat.zero_mul,
      Numeral.digitsValue_digitList, show e.toNat = 0 by omega]
    exact (Nat.mul_one n).symm
  length := by
    rw [List.length_append, List.length_replicate]
    dsimp only
    omega
  leading := fun _ _ => rfl

theorem positional_above (h : 0 ≤ e) :
    Positional ⟨n, e⟩ (Decimal.digitList n ++ List.replicate e.toNat '0') [] where
  nonempty := List.append_ne_nil_of_left_ne_nil (Decimal.digitList_ne_nil n) _
  whole_digits := by
    intro c hc
    rcases List.mem_append.mp hc with hc | hc
    · exact Decimal.isDigit_of_mem_digitList hc
    · exact isDigit_of_mem_replicate hc
  fraction_digits := fun c hc => absurd hc List.not_mem_nil
  value := by
    rw [Numeral.digitsValue_append, Numeral.digitsValue_digitList,
      Numeral.digitsValue_replicate_zero]
    rfl
  length := by
    dsimp only [List.length_nil]
    omega
  leading := by
    intro hn hzero
    rw [List.head?_append_of_ne_nil _ (Decimal.digitList_ne_nil n)] at hzero
    have he : e ≤ 0 := hn.resolve_left fun hn => Decimal.head?_digitList hn hzero
    have hn : n = 0 := by_contra fun hn => Decimal.head?_digitList hn hzero
    rw [hn, show e.toNat = 0 by omega]
    rfl

theorem positional_among (hlow : 0 < (Decimal.digitList n).length + e) (h : e < 0) :
    Positional ⟨n, e⟩ ((Decimal.digitList n).take ((Decimal.digitList n).length + e).toNat)
      ((Decimal.digitList n).drop ((Decimal.digitList n).length + e).toNat) where
  nonempty := by
    rw [ne_eq, List.take_eq_nil_iff, not_or]
    exact ⟨by omega, Decimal.digitList_ne_nil n⟩
  whole_digits := fun c hc => Decimal.isDigit_of_mem_digitList (List.mem_of_mem_take hc)
  fraction_digits := fun c hc => Decimal.isDigit_of_mem_digitList (List.mem_of_mem_drop hc)
  value := by
    rw [← Numeral.digitsValue_append, List.take_append_drop, Numeral.digitsValue_digitList,
      show e.toNat = 0 by omega]
    exact (Nat.mul_one n).symm
  length := by
    rw [List.length_drop]
    dsimp only
    omega
  leading := by
    intro _ hzero
    rw [List.head?_take, if_neg (by omega)] at hzero
    have hn : n = 0 := by_contra fun hn => Decimal.head?_digitList hn hzero
    subst hn
    change 0 < (1 : Int) + e at hlow
    omega

end Cases

/-- The plain layout writes the digits of a decimal around its point. -/
theorem Layout.exists_positional (d : Decimal) : ∃ whole fraction,
    Layout.plain.decimal d = withPoint whole fraction ∧ Positional d whole fraction := by
  obtain ⟨n, e⟩ := d
  change ∃ whole fraction, Layout.placePoint false (Decimal.digitList n)
    ((Decimal.digitList n).length + e) = _ ∧ _
  have hne := Decimal.digitList_ne_nil n
  unfold Layout.placePoint
  by_cases hlow : (Decimal.digitList n).length + e ≤ 0
  · refine ⟨_, _, ?_, positional_below hlow⟩
    rw [if_pos hlow, withPoint, if_neg]
    · rfl
    · simp [hne]
  · rw [if_neg hlow]
    by_cases hwhole : 0 ≤ e
    · refine ⟨_, _, ?_, positional_above hwhole⟩
      rw [if_pos (by omega), withPoint,
        show ((Decimal.digitList n).length + e).toNat - (Decimal.digitList n).length = e.toNat by
          omega]
      rfl
    · refine ⟨_, _, ?_, positional_among (by omega) (by omega)⟩
      rw [if_neg (by omega), withPoint, if_neg]
      rw [List.isEmpty_iff, List.drop_eq_nil_iff]
      omega

namespace Numeral

/-- Digits with a point among them are read as a decimal of the same value. -/
theorem decimal?_withPoint {d : Decimal} {whole fraction : List Char}
    (h : Positional d whole fraction) : ∃ read, decimal? (withPoint whole fraction) = some read ∧
      read.nearestBits = d.nearestBits := by
  have hpoint : ∀ rest : List Char, (whole ++ '.' :: rest).takeWhile Char.isDigit = whole ∧
      (whole ++ '.' :: rest).dropWhile Char.isDigit = '.' :: rest := by
    intro rest
    rw [List.takeWhile_append_of_pos h.whole_digits, List.dropWhile_append_of_pos h.whole_digits]
    exact ⟨List.append_nil whole, rfl⟩
  refine ⟨⟨d.digits * Decimal.powerOfTen d.exponent.toNat, 0 - (fraction.length : Int)⟩, ?_, ?_⟩
  · have hne : whole.isEmpty = false := List.isEmpty_eq_false_iff.mpr h.nonempty
    unfold withPoint
    split_ifs with hempty
    · rw [List.isEmpty_iff] at hempty
      subst hempty
      have htake := List.takeWhile_eq_self_iff.mpr h.whole_digits
      have hdrop := List.dropWhile_eq_nil_iff.mpr h.whole_digits
      simp [decimal?, htake, hdrop, Numeral.fraction, hne, exponent?, h.value]
    · have htake := List.takeWhile_eq_self_iff.mpr h.fraction_digits
      have hdrop := List.dropWhile_eq_nil_iff.mpr h.fraction_digits
      simp [decimal?, hpoint, htake, hdrop, Numeral.fraction, hne, exponent?, h.value]
  · rw [Decimal.nearestBits_mul_powerOfTen, h.length]
    congr 2
    omega

end Numeral
end GalaxyScenario
