import GalaxyScenario.Proofs.DanglingEnds
import GalaxyScenario.Proofs.ScriptLines
import GalaxyScenario.Proofs.Text.Separators
import Mathlib.Data.List.Forall2

/-! What a script tells. Every field of a line ends at a character that it cannot contain, and
clauses that may be missing begin differently from what comes after them. So two scenarios of the
same configuration have the same script only if they have the same capacity, hyperlanes and systems,
each system with its id, its directive, its flags and the texts of its coordinates. -/
namespace GalaxyScenario

/-- Two systems that differ at most in coordinates that are written alike. -/
structure StarSystem.SameFields (s t : StarSystem) : Prop where
  id : s.id = t.id
  directive : s.directive = t.directive
  flags : s.flags = t.flags
  x : coordinateText s.position.x = coordinateText t.position.x
  y : coordinateText s.position.y = coordinateText t.position.y

namespace Script
open Text

theorem laneEnd_injective : Function.Injective laneEnd := by
  intro s t h
  cases s with
  | none => exact (laneEnd_eq_unresolved_iff.mp h.symm).symm
  | some i =>
    cases t with
    | none => exact laneEnd_eq_unresolved_iff.mp h
    | some j => simpa [laneEnd, Nat.repr_inj] using h

theorem hyperlane_injective : Function.Injective hyperlane := by
  intro s t h
  have h := congrArg String.toList h
  unfold hyperlane at h
  obtain ⟨hsource, htarget⟩ :
      laneEnd s.source = laneEnd t.source ∧ laneEnd s.target = laneEnd t.target := by
    simpa [braced, append_cons_inj (quote_notMem_laneEnd _) (quote_notMem_laneEnd _),
      String.toList_inj] using h
  cases s
  cases t
  rw [Hyperlane.mk.injEq]
  exact ⟨laneEnd_injective hsource, laneEnd_injective htarget⟩

theorem weight_eq_of_modifier {v : String} {w u : SpawnWeight} {as bs : List Char}
    (h : (modifier v w).toList ++ ' ' :: as = (modifier v u).toList ++ ' ' :: bs) :
    w = u ∧ as = bs := by
  have hspace : ∀ n, ' ' ∉ Nat.toDigits 10 n := Decimal.notMem_toDigits (by decide)
  cases w with
  | preferred =>
    cases u with
    | preferred => simpa using h
    | tieBreak n => simp [modifier, braced] at h
  | tieBreak m =>
    cases u with
    | preferred => simp [modifier, braced] at h
    | tieBreak n =>
      simpa [modifier, braced, append_cons_inj (hspace _) (hspace _), toDigits_inj] using h

/-- The two clauses on the start of empires, and the space after each, end where other things begin.
-/
theorem directive_eq_of_clauses {v : String} {d e : Option SpawnDirective} {as bs : List Char}
    (h : (initializer d).toList ++ ' ' :: ((spawnWeight v d).toList ++ ' ' :: as) =
      (initializer e).toList ++ ' ' :: ((spawnWeight v e).toList ++ ' ' :: bs)) :
    d = e ∧ as = bs := by
  have hspace : ∀ n, ' ' ∉ Nat.toDigits 10 n := Decimal.notMem_toDigits (by decide)
  unfold initializer spawnWeight at h
  -- A missing clause leaves a second space where a clause has its first letter.
  cases d with
  | none =>
    cases e with
    | none => simpa using h
    | some e => simp at h
  | some d =>
    cases e with
    | none => simp at h
    | some e =>
      obtain ⟨hinitializer, hmodifier⟩ : d.initializer = e.initializer ∧
          (modifier v d.weight).toList ++ ' ' :: '\x7d' :: ' ' :: as =
            (modifier v e.weight).toList ++ ' ' :: '\x7d' :: ' ' :: bs := by
        simpa [braced, append_cons_inj (hspace _) (hspace _), toDigits_inj] using h
      obtain ⟨hweight, hrest⟩ := weight_eq_of_modifier hmodifier
      have hdirective : d = e := by
        cases d
        cases e
        rw [SpawnDirective.mk.injEq]
        exact ⟨hinitializer, hweight⟩
      exact ⟨congrArg some hdirective, by simpa using hrest⟩

theorem flags_eq_of_flatMap {fs gs : List String} (hfs : ∀ flag ∈ fs, Unbroken flag)
    (hgs : ∀ flag ∈ gs, Unbroken flag)
    (h : fs.flatMap (fun flag => (setFlag flag).toList) =
      gs.flatMap (fun flag => (setFlag flag).toList)) : fs = gs := by
  induction fs generalizing gs with
  | nil =>
    cases gs with
    | nil => rfl
    | cons g gs => simp [toList_setFlag] at h
  | cons f fs ih =>
    cases gs with
    | nil => simp [toList_setFlag] at h
    | cons g gs =>
      rw [List.forall_mem_cons] at hfs hgs
      have hf : ' ' ∉ f.toList := hfs.1.notMem (by decide)
      have hg : ' ' ∉ g.toList := hgs.1.notMem (by decide)
      rw [List.flatMap_cons, List.flatMap_cons, toList_setFlag, toList_setFlag] at h
      obtain ⟨rfl, hrest⟩ : f = g ∧ fs.flatMap (fun flag => (setFlag flag).toList) =
          gs.flatMap (fun flag => (setFlag flag).toList) := by
        simpa [append_cons_inj hf hg, String.toList_inj] using h
      rw [ih hfs.2 hgs.2 hrest]

theorem flags_eq_of_effect {fs gs : List String} (hfs : ∀ flag ∈ fs, Unbroken flag)
    (hgs : ∀ flag ∈ gs, Unbroken flag)
    (h : (effect fs).toList ++ [' ', '\x7d'] = (effect gs).toList ++ [' ', '\x7d']) : fs = gs := by
  rw [List.append_left_inj] at h
  by_cases hf : fs = [] <;> by_cases hg : gs = []
  · rw [hf, hg]
  · rw [toList_effect hg] at h
    simp [hf, effect] at h
  · rw [toList_effect hf] at h
    simp [hg, effect] at h
  · rw [toList_effect hf, toList_effect hg] at h
    simp only [List.append_left_inj, List.append_right_inj] at h
    exact flags_eq_of_flatMap hfs hgs h

/-- What follows the position of a system in its line. -/
def clauses (v : String) (s : StarSystem) : List Char :=
  (initializer s.directive).toList ++ ' ' ::
    ((spawnWeight v s.directive).toList ++ ' ' :: ((effect s.flags).toList ++ [' ', '\x7d']))

theorem sameFields_of_system {v : String} {s t : StarSystem} (hs : ∀ flag ∈ s.flags, Unbroken flag)
    (ht : ∀ flag ∈ t.flags, Unbroken flag) (h : system v s = system v t) : s.SameFields t := by
  have hquote : ∀ n, '"' ∉ Nat.toDigits 10 n := Decimal.notMem_toDigits (by decide)
  have hspace : ∀ x, ' ' ∉ (coordinateText x).toList := fun x =>
    (unbroken_text _ _).notMem (by decide)
  have h := congrArg String.toList h
  unfold system at h
  obtain ⟨hid, hx, hy, hclauses⟩ : s.id = t.id ∧
      coordinateText s.position.x = coordinateText t.position.x ∧
      coordinateText s.position.y = coordinateText t.position.y ∧
      clauses v s = clauses v t := by
    simpa [clauses, braced, append_cons_inj (hquote _) (hquote _),
      append_cons_inj (hspace _) (hspace _), toDigits_inj, String.toList_inj] using h
  obtain ⟨hdirective, heffect⟩ := directive_eq_of_clauses hclauses
  exact ⟨hid, hdirective, flags_eq_of_effect hs ht heffect, hx, hy⟩

theorem forall₂_sameFields {v : String} {systems others : List StarSystem}
    (hs : ∀ s ∈ systems, ∀ flag ∈ s.flags, Unbroken flag)
    (ht : ∀ t ∈ others, ∀ flag ∈ t.flags, Unbroken flag)
    (h : systems.map (system v) = others.map (system v)) :
    List.Forall₂ StarSystem.SameFields systems others := by
  rw [← List.forall₂_eq_eq_eq, List.forall₂_map_left_iff, List.forall₂_map_right_iff] at h
  induction h with
  | nil => exact .nil
  | cons hline _ ih =>
    rw [List.forall_mem_cons] at hs ht
    exact .cons (sameFields_of_system hs.1 ht.1 hline) (ih hs.2 ht.2)

theorem capacityLines_injective : Function.Injective capacityLines := by
  intro c d h
  have hspace : ∀ n, ' ' ∉ Nat.toDigits 10 n := Decimal.notMem_toDigits (by decide)
  obtain ⟨hmax, hdefault⟩ : c.max = d.max ∧ c.default = d.default := by
    simpa [capacityLines, ← String.toList_inj, braced, append_cons_inj (hspace _) (hspace _),
      toDigits_inj, UInt32.toNat_inj] using h
  cases c
  cases d
  rw [EmpireCapacity.mk.injEq]
  exact ⟨hmax, hdefault⟩

end Script

namespace Scenario
open Script Text

variable {s t : Scenario}

/-- The script of a scenario tells everything about it that the configuration does not, except the
settings of the tier and how far apart coordinates with the same text are. -/
theorem parts_eq_of_script_eq (hconfig : s.config = t.config)
    (hvariable : Unbroken s.config.leaderAgeVariable)
    (hs : ∀ sys ∈ s.systems, ∀ flag ∈ sys.flags, Unbroken flag)
    (ht : ∀ sys ∈ t.systems, ∀ flag ∈ sys.flags, Unbroken flag) (h : s.script = t.script) :
    s.capacity = t.capacity ∧ s.hyperlanes = t.hyperlanes ∧
      List.Forall₂ StarSystem.SameFields s.systems t.systems := by
  -- The name and the shapes may look like any line, but they are the same in both headers.
  have hlines : ∀ kind, s.linesOf kind = t.linesOf kind := by
    intro kind
    have hkind := congrArg (linesFrom kind.start) h
    rw [linesFrom_script kind hvariable hs, linesFrom_script kind (hconfig ▸ hvariable) ht,
      hconfig] at hkind
    exact List.append_cancel_left hkind
  have hsystems := hlines .system
  rw [linesOf, linesOf, ← hconfig] at hsystems
  exact ⟨capacityLines_injective (hlines .capacity),
    List.map_injective_iff.mpr hyperlane_injective (hlines .hyperlane),
    forall₂_sameFields hs ht hsystems⟩

/-- The script does not tell on which side of zero a system stands that is written to stand at zero.
-/
theorem sameFields_of_script_signedZero :
    let standing (x : Float) : Scenario :=
      { config := {}
        capacity := .ofHomeStars 1
        tier := SizeTier.tiny.settings
        systems :=
          [⟨0, ⟨x, 12.5⟩, some ⟨1, .tieBreak 0⟩, ["painted_galaxy_wormhole_0", "other"]⟩,
            ⟨2, ⟨-3.0, x⟩, none, []⟩]
        hyperlanes := [⟨some 0, some 2⟩, ⟨none, some 0⟩] }
    (standing 0.0).script = (standing (-0.0)).script ∧
      List.Forall₂ StarSystem.SameFields (standing 0.0).systems (standing (-0.0)).systems := by
  intro standing
  have hequal : ((0.0 : Float) == -0.0) = true := by decide +kernel
  have hzero : coordinateText 0.0 = coordinateText (-0.0) := by
    rw [coordinateText, coordinateText, Binary64.add_zero_eq, Binary64.add_zero_eq,
      Binary64.unsignedZero_eq_iff_beq.mpr (.inl hequal)]
  have hscript : (standing 0.0).script = (standing (-0.0)).script := by
    simp only [standing, script, sections, List.map_cons, List.map_nil]
    unfold Script.system
    simp only [hzero]
  have hvariable : Unbroken (standing 0.0).config.leaderAgeVariable := by
    simp [Unbroken, standing, isBlank]
  have hflags : ∀ x, ∀ sys ∈ (standing x).systems, ∀ flag ∈ sys.flags, Unbroken flag := by
    intro x
    simp [Unbroken, standing, isBlank]
  have hparts := parts_eq_of_script_eq (s := standing 0.0) (t := standing (-0.0)) rfl hvariable
    (hflags _) (hflags _) hscript
  exact ⟨hscript, hparts.2.2⟩

end Scenario
end GalaxyScenario
