import GalaxyScenario.Point.Key
import GalaxyScenario.Proofs.Binary64.SignedZero
import GalaxyScenario.Proofs.Decimal.ReadBack

/-! The key of a position is read back as that position, except that both zeros are the positive
one. So two positions have the same key exactly when their coordinates are the same numbers, where
NaN counts as one number. -/
namespace GalaxyScenario
open Binary64

/-- The characters of numbers: a comma and white space are none of them. -/
def isNumeralChar (c : Char) : Bool := c.isDigit || c ∈ ['-', '.', 'N', 'a', 'i', 'n', 'f']

theorem isNumeralChar_of_isDigit {c : Char} (h : c.isDigit = true) : isNumeralChar c = true := by
  rw [isNumeralChar, h, Bool.true_or]

theorem not_comma_of_isNumeralChar {c : Char} (h : isNumeralChar c = true) : c ≠ ',' := by
  rintro rfl
  exact absurd h (by decide)

theorem not_isBlank_of_isNumeralChar {c : Char} (h : isNumeralChar c = true) :
    Text.isBlank c = false := by
  rw [isNumeralChar, Bool.or_eq_true, decide_eq_true_iff] at h
  rcases h with hdigit | hother
  · obtain ⟨hlow, hhigh⟩ := Char.isDigit_iff_toNat.mp hdigit
    change 48 ≤ c.toNat at hlow
    change c.toNat ≤ 57 at hhigh
    simp only [Text.isBlank, Bool.or_eq_false_iff, Bool.and_eq_false_iff, decide_eq_false_iff_not,
      beq_eq_false_iff_ne]
    omega
  · have hall : ['-', '.', 'N', 'a', 'i', 'n', 'f'].all (!Text.isBlank ·) = true := rfl
    exact (Bool.not_eq_true' _).mp (List.all_eq_true.mp hall c hother)

namespace Layout

theorem isNumeralChar_sign (negative : Bool) : ∀ c ∈ sign negative, isNumeralChar c = true := by
  cases negative
  · exact List.all_eq_true.mp rfl
  · exact List.all_eq_true.mp rfl

/-- The plain layout writes no comma and no white space. -/
theorem isNumeralChar_chars_plain (x : Float) : ∀ c ∈ plain.chars x, isNumeralChar c = true := by
  unfold chars
  cases ofFloat x with
  | nan => exact List.all_eq_true.mp rfl
  | infinite negative =>
    cases negative
    · exact List.all_eq_true.mp rfl
    · exact List.all_eq_true.mp rfl
  | finite negative units =>
    obtain ⟨whole, fraction, hchars, hplaces⟩ :=
      exists_positional (Decimal.shortest .up (magnitudeBits x))
    intro c hc
    rcases List.mem_append.mp hc with hc | hc
    · exact isNumeralChar_sign negative c hc
    · exact hplaces.forall_mem_withPoint (fun _ => isNumeralChar_of_isDigit) rfl c (hchars ▸ hc)

end Layout

theorem Text.trim_eq_self {cs : List Char} (h : ∀ c ∈ cs, isBlank c = false) : trim cs = cs := by
  have hdrop : ∀ ds : List Char, (∀ c ∈ ds, isBlank c = false) → ds.dropWhile isBlank = ds := by
    intro ds hds
    cases ds with
    | nil => rfl
    | cons c rest => exact List.dropWhile_cons_of_neg (by simp [hds c List.mem_cons_self])
  rw [trim, hdrop cs h, hdrop cs.reverse fun c hc => h c (List.mem_reverse.mp hc),
    List.reverse_reverse]

theorem toList_coordinateText (x : Float) :
    (coordinateText x).toList = Layout.plain.chars (unsignedZero x) := by
  rw [coordinateText, add_zero_eq, Layout.text, String.toList_ofList]

theorem read?_coordinateText (x : Float) :
    Numeral.read? (coordinateText x).toList = some (unsignedZero x) := by
  rw [toList_coordinateText, Numeral.read?_chars_plain]

theorem coordinateText_ne_neg_zero (x : Float) : coordinateText x ≠ "-0" := by
  intro h
  have hread := read?_coordinateText x
  have hzero : Numeral.read? "-0".toList = some (-0.0) := by decide +kernel
  rw [h, hzero, Option.some.injEq, unsignedZero] at hread
  split_ifs at hread with hbeq
  · exact absurd hread (by decide +kernel)
  · exact hbeq (hread ▸ by decide +kernel)

namespace Point

def unsignedZeros (p : Point) : Point := ⟨unsignedZero p.x, unsignedZero p.y⟩

theorem toList_key (p : Point) : p.key.toList =
    Layout.plain.chars (unsignedZero p.x) ++ ',' :: Layout.plain.chars (unsignedZero p.y) := by
  rw [key, String.toList_append, String.toList_append, toList_coordinateText,
    toList_coordinateText]
  exact List.append_assoc _ _ _

/-- What holds of the characters of numerals and of a comma holds of a key. -/
theorem forall_mem_key {P : Char → Prop} (hnumeral : ∀ c, isNumeralChar c = true → P c)
    (hcomma : P ',') (p : Point) : ∀ c ∈ p.key.toList, P c := by
  have hcoordinate : ∀ x, ∀ c ∈ Layout.plain.chars x, P c := fun x c hc =>
    hnumeral c (Layout.isNumeralChar_chars_plain x c hc)
  rw [toList_key]
  intro c hc
  rcases List.mem_append.mp hc with hc | hc
  · exact hcoordinate _ c hc
  · rcases List.mem_cons.mp hc with rfl | hc
    · exact hcomma
    · exact hcoordinate _ c hc

theorem notMem_key {c : Char} (hnumeral : isNumeralChar c = false) (hcomma : c ≠ ',') (p : Point) :
    c ∉ p.key.toList := by
  have hne : ∀ d ∈ p.key.toList, d ≠ c := by
    refine p.forall_mem_key (fun d hd => ?_) hcomma.symm
    rintro rfl
    rw [hd] at hnumeral
    cases hnumeral
  exact fun hmem => hne c hmem rfl

/-- A text is cut at its only comma. -/
theorem components?_append {left right : List Char} (hleft : ∀ c ∈ left, c ≠ ',')
    (hright : ∀ c ∈ right, c ≠ ',') :
    components? (left ++ ',' :: right) = some (left, right) := by
  have hpass : ∀ c ∈ left, (c != ',') = true := fun c hc => bne_iff_ne.mpr (hleft c hc)
  have hno : ',' ∉ right := fun hmem => hright ',' hmem rfl
  rw [components?, List.dropWhile_append_of_pos hpass, List.takeWhile_append_of_pos hpass]
  simp [hno]

theorem coordinate?_chars_plain (key : String) (x : Float) :
    coordinate? key (Layout.plain.chars x) = .ok x := by
  rw [coordinate?, Text.trim_eq_self fun c hc =>
    not_isBlank_of_isNumeralChar (Layout.isNumeralChar_chars_plain x c hc),
    Numeral.read?_chars_plain]

theorem ofKey_key (p : Point) : ofKey p.key = .ok p.unsignedZeros := by
  have hcomma : ∀ x : Float, ∀ c ∈ Layout.plain.chars x, c ≠ ',' := fun x c hc =>
    not_comma_of_isNumeralChar (Layout.isNumeralChar_chars_plain x c hc)
  rw [ofKey, toList_key, components?_append (hcomma _) (hcomma _)]
  dsimp only
  rw [coordinate?_chars_plain, coordinate?_chars_plain]
  rfl

/-- Keys are equal when the positions differ at most in the signs of zeros. -/
theorem key_eq_key_iff {p q : Point} : p.key = q.key ↔ p.unsignedZeros = q.unsignedZeros := by
  constructor
  · intro h
    have hread := ofKey_key p
    rw [h, ofKey_key q] at hread
    exact (Except.ok.inj hread).symm
  · intro h
    obtain ⟨hx, hy⟩ := mk.inj h
    rw [key, key, coordinateText, coordinateText, coordinateText, coordinateText, add_zero_eq,
      add_zero_eq, add_zero_eq, add_zero_eq, hx, hy]

end Point

namespace Binary64

/-- The doubles are equal numbers, or both are NaN. -/
def SameNumber (x y : Float) : Prop := (x == y) = true ∨ x.isNaN = true ∧ y.isNaN = true

/-- Two positions have the same key exactly when both pairs of coordinates are equal numbers or both
NaN. -/
theorem key_eq_key_iff_sameNumber {p q : Point} :
    p.key = q.key ↔ SameNumber p.x q.x ∧ SameNumber p.y q.y := by
  rw [Point.key_eq_key_iff, Point.unsignedZeros, Point.unsignedZeros, Point.mk.injEq,
    unsignedZero_eq_iff_beq, unsignedZero_eq_iff_beq]
  rfl

/-- What a double is read back as: a double of the same bits, but the positive zero for the negative
one and any NaN for NaN. -/
def ReadAs (x y : Float) : Prop :=
  if x.isNaN then y.isNaN = true
  else y.toBits = if x.toBits = (-0.0 : Float).toBits then (0.0 : Float).toBits else x.toBits

theorem readAs_unsignedZero (x : Float) : ReadAs x (unsignedZero x) := by
  unfold ReadAs
  by_cases hx : (x == 0.0) = true
  · rw [unsignedZero, if_pos hx]
    rcases eq_zero_or_of_beq_zero hx with rfl | rfl <;> decide +kernel
  · have hne : x.toBits ≠ (-0.0 : Float).toBits := by
      intro hbits
      obtain rfl := Float.toBits_inj.mp hbits
      exact hx (by decide +kernel)
    rw [if_neg hne, unsignedZero, if_neg hx]
    split_ifs with hnan
    · exact hnan
    · rfl

end Binary64

/-- The key of a position is read back as the position, but for the sign of zero and the kind of
NaN. Two positions have the same key exactly when both pairs of coordinates are equal numbers or
both NaN. -/
theorem Point.ofKey_key_and_key_eq_iff :
    (∀ p : Point, ∃ q, ofKey p.key = .ok q ∧ ReadAs p.x q.x ∧ ReadAs p.y q.y) ∧
      ∀ p q : Point, p.key = q.key ↔ SameNumber p.x q.x ∧ SameNumber p.y q.y := by
  refine ⟨fun p => ?_, fun p q => key_eq_key_iff_sameNumber⟩
  exact ⟨p.unsignedZeros, ofKey_key p, readAs_unsignedZero p.x, readAs_unsignedZero p.y⟩

end GalaxyScenario
