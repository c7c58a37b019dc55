import GalaxyScenario.Proofs.Binary64.Packed
import GalaxyScenario.Proofs.Decimal.Positional

/-! Every double, infinities and NaN included, is read back from its text in the plain layout. -/
namespace GalaxyScenario
open Binary64

namespace Numeral

/-- What begins with a digit has no sign and is no word. -/
theorem splitSign_of_isDigit {c : Char} (h : c.isDigit = true) (rest : List Char) :
    splitSign (c :: rest) = (false, c :: rest) := by
  unfold splitSign
  split
  case h_1 heq =>
    obtain ⟨rfl, -⟩ := List.cons.inj heq
    cases h
  case h_2 heq =>
    obtain ⟨rfl, -⟩ := List.cons.inj heq
    cases h
  case h_3 => rfl

theorem toLower_of_isDigit {c : Char} (h : c.isDigit = true) : c.toLower = c := by
  apply Char.toLower_eq_of_not_isUpper
  have hnine : c.toNat ≤ 57 := (Char.isDigit_iff_toNat.mp h).2
  intro hupper
  simp [Char.isUpper, UInt32.le_iff_toNat_le] at hupper
  omega

theorem word?_of_isDigit {c : Char} (h : c.isDigit = true) (rest : List Char) :
    word? (c :: rest) = none := by
  unfold word?
  rw [List.map_cons, toLower_of_isDigit h]
  split
  case h_1 heq =>
    obtain ⟨rfl, -⟩ := List.cons.inj heq
    cases h
  case h_2 heq =>
    obtain ⟨rfl, -⟩ := List.cons.inj heq
    cases h
  case h_3 heq =>
    obtain ⟨rfl, -⟩ := List.cons.inj heq
    cases h
  case h_4 => rfl

/-- A finite double is read back from its sign and its shortest digits. -/
theorem read?_sign_append {negative : Bool} {bits : Nat} (h : bits < infinityBits) :
    read? (Layout.sign negative ++ Layout.plain.decimal (Decimal.shortest .up bits)) =
      some (assemble negative bits) := by
  obtain ⟨whole, fraction, hchars, hplaces⟩ :=
    Layout.exists_positional (Decimal.shortest .up bits)
  obtain ⟨d, hread, hnearest⟩ := decimal?_withPoint hplaces
  rw [Decimal.nearestBits_shortest .up h] at hnearest
  obtain ⟨c, rest, hwhole⟩ := List.exists_cons_of_ne_nil hplaces.nonempty
  have hdigit : c.isDigit = true :=
    hplaces.whole_digits c (hwhole ▸ List.mem_cons_self)
  obtain ⟨tail, htail⟩ : ∃ tail, withPoint whole fraction = c :: tail := by
    rw [withPoint, hwhole]
    exact ⟨_, rfl⟩
  have hsplit : splitSign (Layout.sign negative ++ withPoint whole fraction) =
      (negative, withPoint whole fraction) := by
    cases negative with
    | true => rfl
    | false =>
      rw [htail]
      exact splitSign_of_isDigit hdigit tail
  have hword : word? (withPoint whole fraction) = none := by
    rw [htail]
    exact word?_of_isDigit hdigit tail
  rw [read?, hchars, hsplit]
  dsimp only
  rw [hword, hread, Option.map_some, hnearest]
  rfl

/-- A double is read back from its text in the plain layout. -/
theorem read?_chars_plain (x : Float) : read? (Layout.plain.chars x) = some x := by
  have hself := assemble_signBit_magnitudeBits x
  unfold Layout.chars
  cases hx : ofFloat x with
  | nan =>
    rw [ofFloat_eq_nan_iff.mp hx, ← assemble_nanBits]
    rfl
  | infinite negative =>
    obtain ⟨hsign, htop⟩ := ofFloat_eq_infinite_iff.mp hx
    rw [hsign, htop] at hself
    rw [← hself]
    cases negative <;> rfl
  | finite negative units =>
    obtain ⟨hsign, hfinite, -⟩ := ofFloat_eq_finite_iff.mp hx
    rw [hsign] at hself
    exact (read?_sign_append hfinite).trans (congrArg some hself)

end Numeral
end GalaxyScenario
