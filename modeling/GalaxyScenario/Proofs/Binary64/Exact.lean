import GalaxyScenario.Proofs.Binary64.Rounding

/-! Arithmetic on numbers of units. The units of a double are a signed whole number, and each
operation rounds its exact result once: to the canonical form of the nearest double, with packing
still to come. So a result is exact as soon as its exact number of units fits into 53 binary digits
and below the largest double. -/
namespace GalaxyScenario.Binary64
open Float.Model Float.Model.UnpackedFloat

def signed (negative : Bool) (units : Nat) : Int := if negative then -units else units

/-- The unpacked form stands for a finite number of units. -/
def Represents (f : UnpackedFloat) (a : Int) : Prop :=
  ∃ negative units, ofUnpacked f = .finite negative units ∧ signed negative units = a

/-- The double stands for a finite number of units. -/
def HasUnits (x : Float) (a : Int) : Prop :=
  ∃ negative units, ofFloat x = .finite negative units ∧ signed negative units = a

/-- The numbers of units of the finite doubles: a mantissa of 53 binary digits and a bounded
exponent. -/
def IsDouble (a : Int) : Prop := ∃ m j : Nat, m < 2 ^ 53 ∧ j ≤ 2045 ∧ a.natAbs = m * 2 ^ j

theorem HasUnits.eq {x : Float} {a b : Int} (ha : HasUnits x a) (hb : HasUnits x b) : a = b := by
  obtain ⟨negative, units, hx, rfl⟩ := ha
  obtain ⟨negative', units', hx', rfl⟩ := hb
  obtain ⟨rfl, rfl⟩ := Binary64.finite.inj (hx.symm.trans hx')
  rfl

theorem hasUnits_iff_represents {x : Float} {a : Int} :
    HasUnits x a ↔ Represents x.toModel.unpack a := by
  rw [HasUnits, ofFloat_eq_ofUnpacked]
  rfl

theorem natAbs_signed (negative : Bool) (units : Nat) :
    (signed negative units).natAbs = units := by
  cases negative
  · exact Int.natAbs_natCast units
  · exact (Int.natAbs_neg _).trans (Int.natAbs_natCast units)

theorem apply_eq_signed (s : Sign) (units : Nat) :
    s.apply units = signed (isNegative s) units := by
  cases s <;> rfl

theorem decide_apply_neg (s : Sign) {u : Nat} (hu : 0 < u) :
    decide (s.apply u < 0) = isNegative s := by
  cases s with
  | negative => exact decide_eq_true (Int.neg_neg_of_pos (Int.natCast_pos.mpr hu))
  | positive => exact decide_eq_false (Int.not_lt.mpr (Int.natCast_nonneg u))

theorem represents_zero (s : Sign) : Represents (.zero s) 0 :=
  ⟨isNegative s, 0, rfl, by cases s <;> rfl⟩

theorem represents_finite (s : Sign) (m : Nat) (e : Int) (pos : 0 < m) :
    Represents (.finite s m e pos) (s.apply (m * 2 ^ (e + 1074).toNat : Nat)) :=
  ⟨isNegative s, m * 2 ^ (e + 1074).toNat, rfl, (apply_eq_signed s _).symm⟩

theorem Represents.zero_or_finite {f : UnpackedFloat} {a : Int} (h : Represents f a) :
    (∃ s, f = .zero s ∧ a = 0) ∨ ∃ s m e pos, f = .finite s m e pos ∧
      a = s.apply (m * 2 ^ (e + 1074).toNat : Nat) := by
  obtain ⟨negative, units, hf, rfl⟩ := h
  cases f with
  | notANumber => cases hf
  | infinity s => cases hf
  | zero s =>
    cases hf
    exact Or.inl ⟨s, rfl, by cases s <;> rfl⟩
  | finite s m e pos =>
    cases hf
    exact Or.inr ⟨s, m, e, pos, rfl, (apply_eq_signed s _).symm⟩

theorem Represents.exists_zero {f : UnpackedFloat} (h : Represents f 0) : ∃ s, f = .zero s := by
  rcases h.zero_or_finite with ⟨s, hf, -⟩ | ⟨s, m, e, pos, -, hzero⟩
  · exact ⟨s, hf⟩
  · have hpos : 0 < m * 2 ^ (e + 1074).toNat := by positivity
    have habs := natAbs_signed (isNegative s) (m * 2 ^ (e + 1074).toNat)
    rw [← apply_eq_signed, ← hzero, Int.natAbs_zero] at habs
    omega

theorem hasUnits_pack {f : UnpackedFloat} {a : Int} (h : Represents f a) (hc : Canonical f)
    (ha : IsDouble a) : HasUnits (.ofModel (Float.Model.pack f)) a := by
  rw [hasUnits_iff_represents]
  change Represents (Float.Model.pack f).unpack a
  rcases h.zero_or_finite with ⟨s, rfl, rfl⟩ | ⟨s, m, e, pos, rfl, rfl⟩
  · have hz : (Float.Model.pack (.zero s)).unpack = .zero s := by cases s <;> rfl
    rw [hz]
    exact represents_zero s
  · obtain ⟨m', j, hm', hj, heq⟩ := ha
    rw [apply_eq_signed, natAbs_signed] at heq
    have he : e ≤ 971 := by
      by_contra hlarge
      have hm : 2 ^ 52 ≤ m := hc.2.2.resolve_right (by omega)
      have hlow : 2 ^ (52 + (e + 1074).toNat) ≤ m * 2 ^ (e + 1074).toNat := by
        rw [Nat.pow_add]
        exact Nat.mul_le_mul_right _ hm
      have hhigh : m' * 2 ^ j < 2 ^ (53 + j) := by
        rw [Nat.pow_add]
        exact Nat.mul_lt_mul_of_pos_right hm' (Nat.two_pow_pos j)
      have hexp := (Nat.pow_lt_pow_iff_right Nat.one_lt_two).mp
        (lt_of_le_of_lt (heq ▸ hlow) hhigh)
      omega
    rw [unpack_pack_finite hc he]
    exact represents_finite s m e pos

theorem divHalfEven_mul_self (v : Nat) {d : Nat} (hd : 0 < d) : divHalfEven (v * d) d = v := by
  simp [divHalfEven, Nat.mul_div_cancel v hd, Nat.mul_mod_left, hd]

/-- A number of 53 binary digits and an exponent is not rounded. -/
theorem roundUnits_mul_two_pow {m : Nat} (j : Nat) (hm : m < 2 ^ 53) {d : Nat} (hd : 0 < d) :
    roundUnits (m * 2 ^ j * d) d = m * 2 ^ j := by
  obtain ⟨u, heq⟩ : ∃ u, u = m * 2 ^ j := ⟨_, rfl⟩
  rw [← heq, roundUnits, Nat.mul_div_cancel u hd]
  have hshift : u.log2 - 52 ≤ j := by
    by_cases hu : u = 0
    · rw [hu]
      exact Nat.zero_le j
    · have hlt : u < 2 ^ (53 + j) := by
        rw [heq, Nat.pow_add]
        exact Nat.mul_lt_mul_of_pos_right hm (Nat.two_pow_pos j)
      have := (Nat.log2_lt hu).mpr hlt
      omega
  obtain ⟨i, hi⟩ := Nat.exists_eq_add_of_le hshift
  have hu : u = m * 2 ^ i * 2 ^ (u.log2 - 52) := by
    conv_lhs => rw [heq, hi]
    ring
  have hnum : u * d = m * 2 ^ i * (d * 2 ^ (u.log2 - 52)) := by
    conv_lhs => rw [hu]
    ring
  rw [hnum, divHalfEven_mul_self _ (by positivity)]
  exact hu.symm

/-- The form is the canonical one for the double nearest to `a / d` units, as if there were no
largest double. Zero has either sign. -/
structure Rounds (f : UnpackedFloat) (a : Int) (d : Nat) : Prop where
  canonical : Canonical f
  units : ∃ negative, ofUnpacked f = .finite negative (roundUnits a.natAbs d) ∧
    (a ≠ 0 → negative = decide (a < 0))

theorem Rounds.represents {f : UnpackedFloat} {a c : Int} {d : Nat} (h : Rounds f a d)
    (hd : 0 < d) (ha : a = c * d) (hc : IsDouble c) : Represents f c := by
  obtain ⟨-, negative, hf, hsign⟩ := h
  obtain ⟨m, j, hm, -, heq⟩ := hc
  have hunits : roundUnits a.natAbs d = c.natAbs := by
    rw [ha, Int.natAbs_mul, Int.natAbs_natCast, heq, roundUnits_mul_two_pow j hm hd]
  refine ⟨negative, c.natAbs, by rw [hf, hunits], ?_⟩
  by_cases hzero : c = 0
  · subst hzero
    cases negative <;> rfl
  · have hpos : (0 : Int) < d := Int.natCast_pos.mpr hd
    have hlt : a < 0 ↔ c < 0 := by
      rw [ha, mul_neg_iff]
      omega
    rw [hsign (by rw [ha]; exact Int.mul_ne_zero hzero hpos.ne'), decide_eq_decide.mpr hlt, signed]
    split_ifs with hneg
    · have := of_decide_eq_true hneg
      omega
    · have := of_decide_eq_false (Bool.eq_false_iff.mpr hneg)
      omega

theorem rounds_zero (s : Sign) (d : Nat) : Rounds (.zero s) 0 d := by
  have hzero : roundUnits 0 d = 0 := by simp [roundUnits, divHalfEven]
  exact ⟨trivial, isNegative s, by rw [Int.natAbs_zero, hzero]; rfl, fun h => absurd rfl h⟩

theorem Represents.rounds {f : UnpackedFloat} {a : Int} (h : Represents f a) (hc : Canonical f) :
    Rounds f a 1 := by
  rcases h.zero_or_finite with ⟨s, rfl, rfl⟩ | ⟨s, m, e, pos, rfl, rfl⟩
  · exact rounds_zero s 1
  · have hunits := roundUnits_mul_two_pow (e + 1074).toNat hc.1 Nat.one_pos
    rw [Nat.mul_one] at hunits
    have hpos : 0 < m * 2 ^ (e + 1074).toNat := by positivity
    refine ⟨hc, isNegative s, ?_, fun _ => ?_⟩
    · rw [apply_eq_signed, natAbs_signed, hunits]
      rfl
    · exact (decide_apply_neg s hpos).symm

/-- Rounding gives the double nearest to a tracked quotient. -/
theorem roundWithAccuracy_rounds (s : Sign) {m n d K : Nat} {e : Int} {accuracy : Accuracy}
    (hm : m ≠ 0 ∨ e ≤ -1074)
    (h : Tracks (ExtendedMantissa.ofMantissaAndAccuracy m accuracy) n d) (hK : 1074 ≤ K)
    (heK : 0 ≤ e + K) (he : e ≤ max (m.log2 + e - 52) (-1074)) :
    Rounds (roundWithAccuracy Format.binary64 s m e accuracy)
      (s.apply (n * 2 ^ (e + K).toNat : Nat)) (d * 2 ^ (K - 1074)) := by
  obtain ⟨hunits, hcanonical⟩ := roundWithAccuracy_spec s hm h hK heK he
  refine ⟨hcanonical, isNegative s, ?_, fun hne => ?_⟩
  · rw [hunits, apply_eq_signed, natAbs_signed]
  · refine (decide_apply_neg s (Nat.pos_of_ne_zero fun hzero => hne ?_)).symm
    rw [hzero]
    cases s <;> rfl

/-- Spreading a mantissa over more binary digits before rounding changes nothing. -/
theorem round_rounds (s : Sign) {m : Nat} {e : Int} (hm : m ≠ 0) (he : -1074 ≤ e) :
    Rounds (UnpackedFloat.round Format.binary64 s m e)
      (s.apply (m * 2 ^ (e + 1074).toNat : Nat)) 1 := by
  rw [UnpackedFloat.round, targetExponent_eq]
  generalize ht : max ((m.log2 : Int) + e - 52) (-1074) = t
  obtain ⟨k, hk⟩ : ∃ k : Nat, (e - t).toNat = k := ⟨_, rfl⟩
  have hspread : decreaseExponent m e t = (m * 2 ^ k, e - k) := by
    rw [decreaseExponent, hk, Nat.shiftLeft_eq]
  rw [hspread]
  have hlog : (m * 2 ^ k).log2 = m.log2 + k := by
    have hdiv := log2_mul_two_pow_div (n := m) Nat.one_pos (by rwa [Nat.div_one]) k 0
    simpa only [pow_zero, Nat.mul_one, Nat.div_one, Nat.sub_zero] using hdiv
  have hm' : m * 2 ^ k ≠ 0 := Nat.mul_ne_zero hm (Nat.two_pow_pos k).ne'
  have hround := roundWithAccuracy_rounds s (Or.inl hm') (tracks_exact (m * 2 ^ k)) (K := 1074)
    (e := e - k) le_rfl (by omega) (by omega)
  have hexp : (e + 1074).toNat = k + (e - k + (1074 : Nat)).toNat := by omega
  rwa [Nat.sub_self, pow_zero, Nat.mul_one, Nat.mul_assoc, ← Nat.pow_add, ← hexp] at hround

theorem normalize_rounds {m e : Int} (s : Sign) (he : -1074 ≤ e) :
    Rounds (UnpackedFloat.normalize Format.binary64 m e s) (m * 2 ^ (e + 1074).toNat) 1 := by
  unfold UnpackedFloat.normalize
  split
  · rename_i hlt
    have hneg : m < 0 := Int.compare_eq_lt.mp hlt
    have hround := round_rounds .negative (m := (-m).toNat) (by omega) he
    rwa [Sign.apply, Int.natCast_mul, Int.toNat_of_nonneg (by omega), Int.natCast_pow,
      Int.neg_mul_eq_neg_mul, Int.neg_neg] at hround
  · rename_i heq
    rw [Int.compare_eq_eq.mp heq, Int.zero_mul]
    exact rounds_zero s 1
  · rename_i hgt
    have hpos : 0 < m := Int.compare_eq_gt.mp hgt
    have hround := round_rounds .positive (m := m.toNat) (by omega) he
    rwa [Sign.apply, Int.natCast_mul, Int.toNat_of_nonneg hpos.le, Int.natCast_pow] at hround

theorem align_units (s : Sign) (m : Nat) {e t : Int} (ht : -1074 ≤ t) (hte : t ≤ e) :
    s.apply (m <<< (e - t).toNat : Nat) * 2 ^ (t + 1074).toNat =
      s.apply (m * 2 ^ (e + 1074).toNat : Nat) := by
  have hexp : (e + 1074).toNat = (e - t).toNat + (t + 1074).toNat := by omega
  rw [Nat.shiftLeft_eq, hexp, Nat.pow_add, ← Nat.mul_assoc]
  cases s <;> simp [Sign.apply]

theorem add_rounds {f g : UnpackedFloat} {a b : Int} (hf : Represents f a) (hg : Represents g b)
    (cf : Canonical f) (cg : Canonical g) : Rounds (add Format.binary64 f g) (a + b) 1 := by
  rcases hf.zero_or_finite with ⟨s₁, rfl, rfl⟩ | ⟨s₁, m₁, e₁, pos₁, rfl, rfl⟩
  · rw [Int.zero_add]
    rcases hg.zero_or_finite with ⟨s₂, rfl, rfl⟩ | ⟨s₂, m₂, e₂, pos₂, rfl, rfl⟩
    · cases s₁ <;> cases s₂ <;> exact rounds_zero _ 1
    · exact hg.rounds cg
  · rcases hg.zero_or_finite with ⟨s₂, rfl, rfl⟩ | ⟨s₂, m₂, e₂, pos₂, rfl, rfl⟩
    · rw [Int.add_zero]
      exact hf.rounds cf
    · have hlow₁ : -1074 ≤ e₁ := cf.2.1
      have hlow₂ : -1074 ≤ e₂ := cg.2.1
      have hlow : -1074 ≤ min e₁ e₂ := by omega
      rw [← align_units s₁ m₁ hlow (min_le_left e₁ e₂),
        ← align_units s₂ m₂ hlow (min_le_right e₁ e₂),
        ← Int.add_mul]
      exact normalize_rounds .positive hlow

theorem sub_eq_add_neg (f g : UnpackedFloat) :
    sub Format.binary64 f g = add Format.binary64 f g.neg := by
  cases f with
  | notANumber => cases g <;> rfl
  | infinity s => cases g <;> rfl
  | zero s => cases g <;> rfl
  | finite s₁ m₁ e₁ pos₁ =>
    cases g with
    | notANumber | infinity | zero => rfl
    | finite s₂ m₂ e₂ pos₂ =>
      have happly : ∀ v : Int, s₁.apply (decreaseExponent m₁ e₁ (min e₁ e₂)).1 - s₂.apply v =
          s₁.apply (decreaseExponent m₁ e₁ (min e₁ e₂)).1 + (-s₂).apply v := by
        intro v
        cases s₂
        · exact Int.sub_neg _ _
        · rfl
      exact congrArg (UnpackedFloat.normalize Format.binary64 · (min e₁ e₂) .positive) (happly _)

theorem Represents.neg {f : UnpackedFloat} {a : Int} (h : Represents f a) :
    Represents f.neg (-a) := by
  rcases h.zero_or_finite with ⟨s, rfl, rfl⟩ | ⟨s, m, e, pos, rfl, rfl⟩
  · exact represents_zero (-s)
  · have happly : ∀ v : Int, -s.apply v = (-s).apply v := by
      intro v
      cases s
      · exact Int.neg_neg v
      · rfl
    rw [happly]
    exact represents_finite (-s) m e pos

theorem Canonical.neg {f : UnpackedFloat} (h : Canonical f) : Canonical f.neg := by
  cases f <;> exact h

theorem sub_rounds {f g : UnpackedFloat} {a b : Int} (hf : Represents f a) (hg : Represents g b)
    (cf : Canonical f) (cg : Canonical g) : Rounds (sub Format.binary64 f g) (a - b) 1 := by
  rw [sub_eq_add_neg]
  exact add_rounds hf hg.neg cf cg.neg

theorem apply_mul_apply (s₁ s₂ : Sign) (u v : Nat) :
    s₁.apply u * s₂.apply v = (s₁ * s₂).apply (u * v : Nat) := by
  rw [Int.natCast_mul]
  cases s₁ <;> cases s₂
  · exact Int.neg_mul_neg u v
  · exact Int.neg_mul u v
  · exact Int.mul_neg u v
  · rfl

theorem two_pow_eq_unitsPerOne {k : Nat} (hk : k = 1074) : 2 ^ k = unitsPerOne := by
  unfold unitsPerOne
  generalize 1074 = exponent at *
  rw [hk]
  rfl

theorem unitsPerOne_pos : 0 < unitsPerOne := by
  obtain ⟨k, hk⟩ : ∃ k : Nat, k = 1074 := ⟨_, rfl⟩
  rw [← two_pow_eq_unitsPerOne hk]
  exact Nat.two_pow_pos k

theorem mul_rounds {f g : UnpackedFloat} {a b : Int} (hf : Represents f a) (hg : Represents g b)
    (cf : Canonical f) (cg : Canonical g) :
    Rounds (mul Format.binary64 f g) (a * b) unitsPerOne := by
  rcases hf.zero_or_finite with ⟨s₁, rfl, rfl⟩ | ⟨s₁, m₁, e₁, pos₁, rfl, rfl⟩
  · rw [Int.zero_mul]
    rcases hg.zero_or_finite with ⟨s₂, rfl, -⟩ | ⟨s₂, m₂, e₂, pos₂, rfl, -⟩
    · exact rounds_zero (s₁ * s₂) unitsPerOne
    · exact rounds_zero (s₁ * s₂) unitsPerOne
  · rcases hg.zero_or_finite with ⟨s₂, rfl, rfl⟩ | ⟨s₂, m₂, e₂, pos₂, rfl, rfl⟩
    · rw [Int.mul_zero]
      exact rounds_zero (s₁ * s₂) unitsPerOne
    · obtain ⟨-, hlow₁, hc₁⟩ := cf
      obtain ⟨-, hlow₂, hc₂⟩ := cg
      have hpos : 0 < m₁ * m₂ := Nat.mul_pos pos₁ pos₂
      -- Either factor of full length makes the product long enough to be rounded.
      have hlength : 52 ≤ (m₁ * m₂).log2 ∨ e₁ + e₂ ≤ -1074 := by
        by_cases hlong : 2 ^ 52 ≤ m₁ * m₂
        · exact Or.inl ((Nat.le_log2 hpos.ne').mpr hlong)
        · right
          have hshort₁ : ¬ 2 ^ 52 ≤ m₁ := fun h => hlong (h.trans (Nat.le_mul_of_pos_right m₁ pos₂))
          have hshort₂ : ¬ 2 ^ 52 ≤ m₂ := fun h => hlong (h.trans (Nat.le_mul_of_pos_left m₂ pos₁))
          have := hc₁.resolve_left hshort₁
          have := hc₂.resolve_left hshort₂
          omega
      obtain ⟨K, hK⟩ : ∃ K : Nat, K = 2148 := ⟨_, rfl⟩
      have hround := roundWithAccuracy_rounds (s₁ * s₂) (K := K) (e := e₁ + e₂) (Or.inl hpos.ne')
        (tracks_exact (m₁ * m₂)) (by omega) (by omega) (by omega)
      have hexp : (e₁ + e₂ + K).toNat = (e₁ + 1074).toNat + (e₂ + 1074).toNat := by omega
      rw [Nat.one_mul, two_pow_eq_unitsPerOne (show K - 1074 = 1074 by omega), hexp, Nat.pow_add,
        Nat.mul_mul_mul_comm] at hround
      rw [apply_mul_apply]
      exact hround

theorem HasUnits.add {x y : Float} {a b : Int} (hx : HasUnits x a) (hy : HasUnits y b)
    (hab : IsDouble (a + b)) : HasUnits (x + y) (a + b) := by
  rw [hasUnits_iff_represents] at hx hy
  have h := add_rounds hx hy (canonical_unpack x) (canonical_unpack y)
  exact hasUnits_pack (h.represents Nat.one_pos (Int.mul_one _).symm hab) h.canonical hab

theorem HasUnits.sub {x y : Float} {a b : Int} (hx : HasUnits x a) (hy : HasUnits y b)
    (hab : IsDouble (a - b)) : HasUnits (x - y) (a - b) := by
  rw [hasUnits_iff_represents] at hx hy
  have h := sub_rounds hx hy (canonical_unpack x) (canonical_unpack y)
  exact hasUnits_pack (h.represents Nat.one_pos (Int.mul_one _).symm hab) h.canonical hab

theorem HasUnits.mul {x y : Float} {a b c : Int} (hx : HasUnits x a) (hy : HasUnits y b)
    (hc : IsDouble c) (hab : a * b = c * unitsPerOne) : HasUnits (x * y) c := by
  rw [hasUnits_iff_represents] at hx hy
  have h := mul_rounds hx hy (canonical_unpack x) (canonical_unpack y)
  exact hasUnits_pack (h.represents unitsPerOne_pos hab hc) h.canonical hc

end GalaxyScenario.Binary64
