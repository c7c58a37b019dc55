import GalaxyScenario.Json.Decode
import GalaxyScenario.Proofs.Binary64.Division
import GalaxyScenario.Proofs.Binary64.Negation
import GalaxyScenario.Proofs.Decimal.Positional
import GalaxyScenario.Proofs.Json.RoundTrip

/-! Short numbers in a document. Where the digits of a number stay below `2 ^ 53` and at most 22 of
them follow the point, the digits and the power of ten are doubles. So only the division rounds, and
the number is read as the double nearest to it. -/
namespace GalaxyScenario

theorem Numeral.le_digitsValue (start : Nat) (cs : List Char) : start ≤ digitsValue start cs := by
  induction cs generalizing start with
  | nil => exact le_rfl
  | cons c cs ih => exact (by omega : start ≤ 10 * start + (c.toNat - '0'.toNat)).trans (ih _)

namespace Json
open Binary64

namespace Number

theorem digits?_append {ds : List Char} (hne : ds ≠ []) (hds : ∀ c ∈ ds, c.isDigit = true)
    (rest : List Char) (hrest : ∀ c ∈ rest.head?, c.isDigit = false) :
    digits? (ds ++ rest) = some (ds, rest) := by
  have htake : rest.takeWhile Char.isDigit = [] := by
    cases rest with
    | nil => rfl
    | cons c rest => simp [hrest c rfl]
  have hdrop : rest.dropWhile Char.isDigit = rest := by
    cases rest with
    | nil => rfl
    | cons c rest => simp [hrest c rfl]
  simp [digits?, List.takeWhile_append_of_pos hds, List.dropWhile_append_of_pos hds, htake, hdrop,
    hne]

variable {d : Decimal} {whole fraction : List Char}

/-- Digits around a point follow the grammar, if a zero in front stands alone. -/
theorem ofChars?_withPoint (h : Positional d whole fraction)
    (hlead : d.digits ≠ 0 ∨ d.exponent ≤ 0) (negative : Bool) :
    ofChars? (Layout.sign negative ++ withPoint whole fraction) =
      some ⟨negative, whole, fraction, none⟩ := by
  have hzero : ¬ (whole.head? = some '0' ∧ 1 < whole.length) := by
    rintro ⟨hhead, hlength⟩
    rw [h.leading hlead hhead] at hlength
    exact absurd hlength (by decide)
  have hunsigned : ∀ cs : List Char, withPoint whole fraction ≠ '-' :: cs := by
    intro cs hcs
    obtain ⟨c, rest, hwhole⟩ := List.exists_cons_of_ne_nil h.nonempty
    have hdigit := h.whole_digits c (hwhole ▸ List.mem_cons_self)
    rw [withPoint, hwhole] at hcs
    obtain rfl := (List.cons.inj hcs).1
    cases hdigit
  have hwhole : whole? (withPoint whole fraction) =
      some (whole, if fraction.isEmpty then [] else '.' :: fraction) := by
    have hdigits := digits?_append h.nonempty h.whole_digits
      (if fraction.isEmpty then [] else '.' :: fraction) (by split_ifs <;> simp)
    simp only [whole?, withPoint, hdigits, Option.bind_eq_bind, Option.bind_some, if_neg hzero]
  have hfraction : fraction? (if fraction.isEmpty then [] else '.' :: fraction) =
      some (fraction, []) := by
    split_ifs with hempty
    · rw [List.isEmpty_iff.mp hempty]
      rfl
    · have hne : fraction ≠ [] := fun hnil => hempty (List.isEmpty_iff.mpr hnil)
      have hdigits := digits?_append hne h.fraction_digits [] (by simp)
      rwa [List.append_nil] at hdigits
  generalize (if fraction.isEmpty then [] else '.' :: fraction) = rest at hwhole hfraction
  -- Without a minus sign, the first digit decides the match on the sign, by `hunsigned`.
  cases negative <;> simp [ofChars?, Layout.sign, hwhole, hfraction, exponent?]

/-- Digits that fit into a word are all collected. -/
theorem collect_eq {word : Nat} {cs : List Char} (h : Numeral.digitsValue word cs ≤ wordMax) :
    collect word cs = (Numeral.digitsValue word cs, 0) := by
  induction cs generalizing word with
  | nil => rfl
  | cons c cs ih =>
    have hstep : Numeral.digitsValue word (c :: cs) =
        Numeral.digitsValue (10 * word + (c.toNat - '0'.toNat)) cs := rfl
    have hle : 10 * word + (c.toNat - '0'.toNat) ≤ wordMax :=
      (Numeral.le_digitsValue _ cs).trans (hstep ▸ h)
    rw [hstep] at h ⊢
    rw [collect, Nat.mul_comm word 10, if_pos hle, ih h]

theorem significand_eq {n : Number}
    (h : Numeral.digitsValue (Numeral.digitsValue 0 n.whole) n.fraction ≤ wordMax) :
    n.significand = (Numeral.digitsValue (Numeral.digitsValue 0 n.whole) n.fraction,
      -(n.fraction.length : Int)) := by
  simp [significand, collect_eq ((Numeral.le_digitsValue _ _).trans h), collect_eq h]

theorem isWhole_powerOfTen {k : Nat} (hk : k ≤ 22) : IsWhole (powerOfTen k) (10 ^ k : Nat) := by
  have hpowers : ∀ k ≤ 22, Binary64.ofFloat (powerOfTen k) =
      Binary64.finite false (10 ^ k * unitsPerOne) := by decide +kernel
  exact isWhole_of_units false (10 ^ k) (hpowers k hk)

theorem bits_of_nearest {x : Float} {a d n m : Nat} (h : Nearest x a d) (hd : 0 < d) (hm : 0 < m)
    (hn : 0 < n) (heq : a * m = n * d) :
    signBit x = false ∧ magnitudeBits x = min (roundBits n m) infinityBits := by
  have ha : a ≠ 0 := by
    rintro rfl
    have := Nat.mul_pos hn hd
    omega
  obtain ⟨hsign, hmagnitude⟩ := h
  rw [Int.natAbs_natCast, roundBits_congr hd hm heq] at hmagnitude
  refine ⟨?_, hmagnitude⟩
  rw [hsign (by omega), decide_eq_false (by omega)]

theorem scale_zero {k : Nat} (hk : k ≤ 22) :
    scale 3 (Float.ofNat 0) (-(k : Int)) = some 0.0 := by
  have hscale : ∀ k : Nat, k ≤ 22 → scale 3 (Float.ofNat 0) (-(k : Int)) = some 0.0 := by
    decide +kernel
  exact hscale k hk

/-- A short word and a small power of ten are scaled to the double nearest to their quotient. -/
theorem exists_scale_eq {v k : Nat} (hv : v ≤ 2 ^ 53) (hk : k ≤ 22) :
    ∃ f, scale 3 (Float.ofNat v) (-(k : Int)) = some f ∧ signBit f = false ∧
      magnitudeBits f = Binary64.nearestBits v (Decimal.powerOfTen k) := by
  rcases Nat.eq_zero_or_pos v with rfl | hpos
  · refine ⟨0.0, scale_zero hk, by decide +kernel, ?_⟩
    have hzero : 2 * (0 * unitsPerOne) < Decimal.powerOfTen k := by
      rw [Nat.zero_mul]
      exact Decimal.powerOfTen_pos k
    rw [Binary64.nearestBits_eq_zero hzero]
    decide +kernel
  have hone := unitsPerOne_pos
  have hunits := Nat.mul_pos hpos hone
  have hpowers := Decimal.powerOfTen_pos k
  have hword := (isWhole_ofNat hv).hasUnits_natCast
  have hpower := (isWhole_powerOfTen hk).hasUnits_natCast
  have hreach : (-(k : Int)).natAbs ≤ 308 := by omega
  have hten : Decimal.powerOfTen k = 10 ^ k := rfl
  rw [nearestBits_eq_min]
  unfold scale
  rw [if_pos hreach, Int.natAbs_neg, Int.natAbs_natCast]
  by_cases hzero : k = 0
  · have hmul := hword.nearest_mul hpower
    rw [← Int.natCast_mul] at hmul
    have hbits := bits_of_nearest hmul hone hpowers hunits
      (by rw [hten, hzero, pow_zero, Nat.one_mul, Nat.mul_one])
    have hproduct : isFinite (Float.ofNat v * powerOfTen k) = true := by
      refine isFinite_iff_exists_hasUnits.mpr
        ⟨_, (isWhole_ofNat hv).mul (isWhole_powerOfTen hk) ?_⟩
      rw [hzero, pow_zero, Nat.cast_one, Int.mul_one]
      omega
    refine ⟨_, by rw [if_neg (by omega), if_pos hproduct], hbits⟩
  · have hdiv := hword.nearest_div hpower (Nat.mul_pos hpowers hone)
    rw [← Int.natCast_mul] at hdiv
    have hbits := bits_of_nearest hdiv (Nat.mul_pos hpowers hone) hpowers hunits
      (by rw [hten]; ring)
    exact ⟨_, if_pos (by omega), hbits⟩

end Number

end Json

namespace Decimal

/-- The digits, without the point, make a double, and at most 22 of them follow the point. -/
structure Short (d : Decimal) : Prop where
  digits : d.digits * powerOfTen d.exponent.toNat ≤ 2 ^ 53
  places : -22 ≤ d.exponent

theorem shortest_eq_zero {bits : Nat} (h : bits < Binary64.infinityBits)
    (hzero : (shortest .up bits).digits = 0) : bits = 0 := by
  have hnearest := nearestBits_shortest .up h
  rw [nearestBits, if_pos hzero] at hnearest
  exact hnearest.symm

end Decimal

namespace Json
open Binary64

section Coordinate

variable {x : Float}

/-- Digits around a point are scanned as one number, if a zero in front stands alone. -/
theorem isSpelling_withPoint {d : Decimal} {whole fraction : List Char}
    (hplaces : Positional d whole fraction) (hlead : d.digits ≠ 0 ∨ d.exponent ≤ 0)
    (negative : Bool) : IsSpelling (Layout.sign negative ++ withPoint whole fraction) := by
  have hdigit : ∀ c : Char, c.isDigit = true → Token.isNumberChar c = true := fun c hc => by
    simp [Token.isNumberChar, hc]
  have hminus : ∀ c ∈ Layout.sign negative, Token.isNumberChar c = true := by
    cases negative <;> simp [Layout.sign, Token.isNumberChar]
  refine ⟨Option.isSome_of_eq_some (Number.ofChars?_withPoint hplaces hlead negative), ?_, ?_⟩
  · cases negative with
    | true => exact fun c hc => Or.inr (Option.some.inj hc).symm
    | false =>
      obtain ⟨c, rest, hwhole⟩ := List.exists_cons_of_ne_nil hplaces.nonempty
      have hfirst := hplaces.whole_digits c (hwhole ▸ List.mem_cons_self)
      rw [withPoint, hwhole]
      rintro d hd
      obtain rfl := Option.some.inj hd
      exact Or.inl hfirst
  · intro c hc
    rcases List.mem_append.mp hc with hc | hc
    · exact hminus c hc
    · exact hplaces.forall_mem_withPoint hdigit rfl c hc

/-- The magnitude of a short decimal is read as the double nearest to it. -/
theorem exists_magnitude?_eq {d : Decimal} {whole fraction : List Char}
    (hplaces : Positional d whole fraction) (hshort : d.Short) (h : isFinite x = true)
    (hnearest : d.nearestBits = magnitudeBits x) :
    ∃ f, Number.magnitude? ⟨signBit x, whole, fraction, none⟩ = some f ∧
      Binary64.ofFloat f = Binary64.finite false (unitsOfBits (magnitudeBits x)) := by
  have hsmall := hshort.digits
  have hplace := hshort.places
  rw [Decimal.nearestBits_eq] at hnearest
  have hsignificand := Number.significand_eq (n := ⟨signBit x, whole, fraction, none⟩)
    (hplaces.value.trans_le (hsmall.trans (by decide)))
  obtain ⟨f, hscale, hsign, hmagnitude⟩ :=
    Number.exists_scale_eq (k := (-d.exponent).toNat) hsmall (by omega)
  refine ⟨f, ?_, ofFloat_eq_finite_iff.mpr ⟨hsign, ?_⟩⟩
  · rw [Number.magnitude?, hsignificand, hplaces.value, hplaces.length]
    exact hscale
  · rw [hmagnitude.trans hnearest]
    exact ⟨of_decide_eq_true h, rfl⟩

/-- A double is read from any short decimal that it is nearest to, with its sign in front. -/
theorem toFloat?_withPoint {d : Decimal} {whole fraction : List Char}
    (hplaces : Positional d whole fraction) (hlead : d.digits ≠ 0 ∨ d.exponent ≤ 0)
    (hshort : d.Short) (h : isFinite x = true) (hnearest : d.nearestBits = magnitudeBits x) :
    (Json.number (Layout.sign (signBit x) ++ withPoint whole fraction)).toFloat? = some x := by
  have hfinite := ofFloat_eq_of_isFinite h
  obtain ⟨f, hmagnitude, hf⟩ := exists_magnitude?_eq hplaces hshort h hnearest
  rw [toFloat?, Number.ofChars?_withPoint hplaces hlead, Option.bind_some,
    Number.toFloat?, hmagnitude, Option.map_some]
  cases hsign : signBit x with
  | true =>
    rw [hsign] at hfinite
    exact congrArg some (eq_of_ofFloat_eq (ofFloat_neg hf) hfinite)
  | false =>
    rw [hsign] at hfinite
    exact congrArg some (eq_of_ofFloat_eq hf hfinite)

/-- A finite double in the plain layout is written around a point, and a zero in front stands
alone. -/
theorem exists_positional_chars_plain (h : isFinite x = true) : ∃ whole fraction,
    Positional (Decimal.shortest .up (magnitudeBits x)) whole fraction ∧
      ((Decimal.shortest .up (magnitudeBits x)).digits ≠ 0 ∨
        (Decimal.shortest .up (magnitudeBits x)).exponent ≤ 0) ∧
      Layout.plain.chars x = Layout.sign (signBit x) ++ withPoint whole fraction := by
  have hbits := of_decide_eq_true h
  have hfinite := ofFloat_eq_of_isFinite h
  obtain ⟨whole, fraction, hdecimal, hplaces⟩ :=
    Layout.exists_positional (Decimal.shortest .up (magnitudeBits x))
  refine ⟨whole, fraction, hplaces, ?_, ?_⟩
  · by_cases hzero : (Decimal.shortest .up (magnitudeBits x)).digits = 0
    · rw [Decimal.shortest_eq_zero hbits hzero]
      exact Or.inr le_rfl
    · exact Or.inl hzero
  · rw [Layout.chars, hfinite, ← hdecimal]
    rfl

theorem isSpelling_chars_plain (h : isFinite x = true) : IsSpelling (Layout.plain.chars x) := by
  obtain ⟨whole, fraction, hplaces, hlead, hchars⟩ := exists_positional_chars_plain h
  rw [hchars]
  exact isSpelling_withPoint hplaces hlead _

/-- A short double in the plain layout is read as itself. -/
theorem toFloat?_chars_plain (h : isFinite x = true)
    (hshort : (Decimal.shortest .up (magnitudeBits x)).Short) :
    (Json.number (Layout.plain.chars x)).toFloat? = some x := by
  obtain ⟨whole, fraction, hplaces, hlead, hchars⟩ := exists_positional_chars_plain h
  rw [hchars]
  exact toFloat?_withPoint hplaces hlead hshort h
    (Decimal.nearestBits_shortest .up (of_decide_eq_true h))

end Coordinate

end Json
end GalaxyScenario
