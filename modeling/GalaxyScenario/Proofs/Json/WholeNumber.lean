import GalaxyScenario.Proofs.Decimal.Whole
import GalaxyScenario.Proofs.Json.ShortNumber

/-! Whole numbers in a document, which writes all their digits and `.0`. As long as these digits are
still a double when they are taken for one number, a whole number is read as itself. -/
namespace GalaxyScenario
open Binary64

/-- A whole number is also a number of tenths. -/
theorem Positional.tenths {d : Decimal} {whole : List Char} (h : Positional d whole [])
    (hlead : d.digits ≠ 0 ∨ d.exponent ≤ 0) : Positional ⟨d.num * 10, -1⟩ whole ['0'] where
  nonempty := h.nonempty
  whole_digits := h.whole_digits
  fraction_digits := fun _ hc => isDigit_of_mem_replicate (n := 1) hc
  value := by
    have hvalue : Numeral.digitsValue 0 whole = d.num := h.value
    rw [hvalue]
    change 10 * d.num + 0 = d.num * 10 * 1
    omega
  length := rfl
  leading := fun _ => h.leading hlead

/-- In the layout of documents, a whole number of up to 16 digits is written with all of them. -/
theorem Layout.decimal_json_of_whole {d : Decimal} (he : 0 ≤ d.exponent)
    (hcount : Decimal.digitCount d.digits + d.exponent ≤ 16) : Layout.json.decimal d =
      withPoint (Decimal.digitList d.digits ++ List.replicate d.exponent.toNat '0') ['0'] := by
  have hpos : 0 < Decimal.digitCount d.digits :=
    List.length_pos_iff.mpr (Decimal.digitList_ne_nil d.digits)
  unfold Decimal.digitCount at hcount hpos
  have hpositional : Layout.json.positional
      ((Decimal.digitList d.digits).length + d.exponent - 1) = true :=
    decide_eq_true (by omega)
  unfold Layout.decimal Layout.placePoint
  dsimp only
  rw [if_pos hpositional, if_neg (by omega), if_pos (by omega),
    show ((Decimal.digitList d.digits).length + d.exponent).toNat -
      (Decimal.digitList d.digits).length = d.exponent.toNat by omega]
  rfl

/-- The double stands for a whole number between `-2 ^ 49` and `2 ^ 49`. -/
def SmallWhole (x : Float) : Prop := ∃ n : Int, IsWhole x n ∧ n.natAbs ≤ 2 ^ 49

namespace Json

variable {x : Float}

theorem exists_positional_chars_json {n : Int} (h : IsWhole x n) (hn : n.natAbs ≤ 2 ^ 49) :
    ∃ whole, Positional ⟨n.natAbs * 10, -1⟩ whole ['0'] ∧
      Layout.json.chars x = Layout.sign (signBit x) ++ withPoint whole ['0'] := by
  obtain ⟨hbits, hunits⟩ := HasUnits.unitsOfBits_eq h
  rw [Int.natAbs_mul, Int.natAbs_natCast] at hunits
  have hfinite := ofFloat_eq_of_isFinite (decide_eq_true hbits)
  obtain ⟨he, hnum, hlead⟩ := Decimal.shortest_whole .toEven (by omega) hbits hunits
  have hchars : Layout.json.chars x = Layout.sign (signBit x) ++
      Layout.json.decimal (Decimal.shortest .toEven (magnitudeBits x)) := by
    rw [Layout.chars, hfinite]
    rfl
  generalize Decimal.shortest .toEven (magnitudeBits x) = d at he hnum hlead hchars
  have hcount : Decimal.digitCount d.digits + d.exponent ≤ 16 := by
    by_cases hdigits : d.digits = 0
    · have hone : Decimal.digitCount 0 = 1 := rfl
      have hexponent := hlead.resolve_left (not_not.mpr hdigits)
      rw [hdigits, hone]
      omega
    · have hadd := Decimal.digitCount_add_le (k := 16) hdigits
        (hnum.trans_lt (hn.trans_lt (by decide)))
      omega
  refine ⟨_, ?_, by rw [hchars, Layout.decimal_json_of_whole he hcount]⟩
  rw [← hnum]
  exact (positional_above he).tenths hlead

theorem isFinite_of_smallWhole (h : SmallWhole x) : isFinite x = true := by
  obtain ⟨n, hwhole, -⟩ := h
  exact isFinite_iff_exists_hasUnits.mpr ⟨_, hwhole⟩

theorem wellSpelled_ofFloat (h : SmallWhole x) : (ofFloat x).WellSpelled := by
  rw [ofFloat, if_pos (isFinite_of_smallWhole h)]
  obtain ⟨n, hwhole, hn⟩ := h
  obtain ⟨whole, hplaces, hchars⟩ := exists_positional_chars_json hwhole hn
  rw [WellSpelled, hchars]
  exact isSpelling_withPoint hplaces (Or.inr (show (-1 : Int) ≤ 0 by decide)) _

theorem toFloat?_ofFloat (h : SmallWhole x) : (ofFloat x).toFloat? = some x := by
  have hfinite := isFinite_of_smallWhole h
  obtain ⟨n, hwhole, hn⟩ := h
  obtain ⟨-, hunits⟩ := HasUnits.unitsOfBits_eq hwhole
  rw [Int.natAbs_mul, Int.natAbs_natCast] at hunits
  obtain ⟨whole, hplaces, hchars⟩ := exists_positional_chars_json hwhole hn
  have hnearest : Decimal.nearestBits ⟨n.natAbs * 10, -1⟩ = magnitudeBits x := by
    have hmove := Decimal.nearestBits_mul_powerOfTen n.natAbs 1 (-1)
    exact hmove.trans (Decimal.nearestBits_of_unitsOfBits (of_decide_eq_true hfinite).le hunits)
  have hshort : Decimal.Short ⟨n.natAbs * 10, -1⟩ := by
    refine ⟨?_, show (-22 : Int) ≤ -1 by decide⟩
    change n.natAbs * 10 * 1 ≤ 2 ^ 53
    omega
  rw [ofFloat, if_pos hfinite, hchars]
  exact toFloat?_withPoint hplaces (Or.inr (show (-1 : Int) ≤ 0 by decide)) hshort hfinite hnearest

end Json
end GalaxyScenario
