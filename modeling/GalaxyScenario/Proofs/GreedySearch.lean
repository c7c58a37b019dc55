import Mathlib.Data.List.Forall2
import Mathlib.Data.List.Induction

/-! A greedy search takes its candidates in order and keeps each one that is eligible and not
blocked by one kept before. What it keeps is characterised without the run: a candidate is kept if
and only if it is eligible and no kept candidate before it blocks it. Searches that agree on each
eligibility and each block keep corresponding candidates. -/
namespace GalaxyScenario

section Search

variable {α : Type} (eligible : α → Bool) (blocks : α → α → Bool)

def greedyStep (kept : List α) (candidate : α) : List α :=
  if eligible candidate && !kept.any (blocks · candidate) then candidate :: kept else kept

/-- The candidates that a greedy search keeps, in the order of the search. -/
def greedy (candidates : List α) : List α :=
  (candidates.foldl (greedyStep eligible blocks) []).reverse

/-- The last candidate is decided against everything kept before. -/
theorem greedy_concat (candidates : List α) (c : α) :
    greedy eligible blocks (candidates ++ [c]) =
      if eligible c && !(greedy eligible blocks candidates).any (blocks · c) then
        greedy eligible blocks candidates ++ [c]
      else greedy eligible blocks candidates := by
  unfold greedy
  rw [List.foldl_concat, greedyStep, List.any_reverse]
  split
  · exact List.reverse_cons
  · rfl

theorem not_blocked_iff {kept : List α} {c : α} :
    (eligible c && !kept.any (blocks · c)) = true ↔
      eligible c = true ∧ ∀ z ∈ kept, blocks z c = false := by
  simp only [Bool.and_eq_true, Bool.not_eq_true', List.any_eq_false, Bool.not_eq_true]

/-- Whether or not the last candidate joins, the ones before it are not affected. -/
theorem mem_greedy_concat {candidates : List α} {c z : α} :
    z ∈ greedy eligible blocks (candidates ++ [c]) ↔
      z ∈ greedy eligible blocks candidates ∨ z = c ∧ eligible c = true ∧
        ∀ y ∈ greedy eligible blocks candidates, blocks y c = false := by
  rw [greedy_concat, ← not_blocked_iff]
  split
  · rename_i h
    rw [List.mem_append, List.mem_singleton, and_iff_left h]
  · rename_i h
    exact (or_iff_left fun hc => h hc.2).symm

theorem greedy_sublist (candidates : List α) :
    (greedy eligible blocks candidates).Sublist candidates := by
  induction candidates using List.reverseRecOn with
  | nil => exact List.Sublist.refl []
  | append_singleton candidates c ih =>
    rw [greedy_concat]
    split
    · exact ih.append_right [c]
    · exact ih.trans (List.sublist_append_left candidates [c])

theorem eligible_of_mem_greedy {eligible : α → Bool} {blocks : α → α → Bool} {candidates : List α}
    {c : α} (h : c ∈ greedy eligible blocks candidates) : eligible c = true := by
  induction candidates using List.reverseRecOn with
  | nil => cases h
  | append_singleton candidates d ih =>
    rcases (mem_greedy_concat eligible blocks).mp h with h | ⟨rfl, hd, -⟩
    · exact ih h
    · exact hd

/-- No kept candidate blocks a later one. -/
theorem greedy_pairwise (candidates : List α) :
    (greedy eligible blocks candidates).Pairwise fun earlier later =>
      blocks earlier later = false := by
  induction candidates using List.reverseRecOn with
  | nil => exact List.Pairwise.nil
  | append_singleton candidates c ih =>
    rw [greedy_concat]
    split
    · rename_i h
      refine List.pairwise_append.mpr ⟨ih, List.pairwise_singleton _ c, ?_⟩
      intro earlier hearlier later hlater
      rw [List.mem_singleton.mp hlater]
      exact ((not_blocked_iff eligible blocks).mp h).2 earlier hearlier
    · exact ih

variable (place : α → Nat)

/-- A list of kept candidates that each candidate can be checked against: it is kept if and only if
it is eligible and none kept before its place blocks it. -/
def KeepsExactly (candidates kept : List α) : Prop :=
  ∀ c ∈ candidates, c ∈ kept ↔
    eligible c = true ∧ ∀ z ∈ kept, place z < place c → blocks z c = false

/-- A search through candidates in the order of their places keeps exactly what it should. -/
theorem greedy_keepsExactly {candidates : List α}
    (hordered : candidates.Pairwise fun a b => place a < place b) :
    KeepsExactly eligible blocks place candidates (greedy eligible blocks candidates) := by
  induction candidates using List.reverseRecOn with
  | nil =>
    intro c hc
    cases hc
  | append_singleton candidates d ih =>
    obtain ⟨hbefore, -, hlast⟩ := List.pairwise_append.mp hordered
    have hlater : ∀ c ∈ candidates, place c < place d := fun c hc =>
      hlast c hc d (List.mem_singleton_self d)
    have hkept : ∀ z ∈ greedy eligible blocks candidates, place z < place d := fun z hz =>
      hlater z ((greedy_sublist eligible blocks candidates).subset hz)
    -- Only candidates kept before the last one have a smaller place than any candidate.
    have hsmaller : ∀ z c, place c ≤ place d → place z < place c →
        (z ∈ greedy eligible blocks (candidates ++ [d]) ↔
          z ∈ greedy eligible blocks candidates) := by
      intro z c hcd hzc
      rw [mem_greedy_concat]
      refine or_iff_left ?_
      rintro ⟨rfl, -⟩
      omega
    intro c hc
    rcases List.mem_append.mp hc with hc | hc
    · have hlt := hlater c hc
      have hne : c ≠ d := by
        rintro rfl
        omega
      rw [mem_greedy_concat, or_iff_left (fun h => hne h.1), ih hbefore c hc]
      refine and_congr_right fun _ => ?_
      constructor
      · intro h z hz hzc
        exact h z ((hsmaller z c (Nat.le_of_lt hlt) hzc).mp hz) hzc
      · intro h z hz hzc
        exact h z ((hsmaller z c (Nat.le_of_lt hlt) hzc).mpr hz) hzc
    · obtain rfl := List.mem_singleton.mp hc
      rw [mem_greedy_concat, or_iff_right (fun h => Nat.lt_irrefl _ (hkept c h)),
        and_iff_right rfl]
      refine and_congr_right fun _ => ?_
      constructor
      · intro h z hz hzc
        exact h z ((hsmaller z c (Nat.le_refl _) hzc).mp hz)
      · intro h z hz
        exact h z ((hsmaller z c (Nat.le_refl _) (hkept z hz)).mpr hz) (hkept z hz)

variable {eligible blocks place}

/-- Which candidates are kept is determined from the least place upwards. -/
theorem KeepsExactly.mem_iff {candidates kept kept' : List α}
    (h : KeepsExactly eligible blocks place candidates kept)
    (h' : KeepsExactly eligible blocks place candidates kept')
    (hsub : kept ⊆ candidates) (hsub' : kept' ⊆ candidates) {c : α} (hc : c ∈ candidates) :
    c ∈ kept ↔ c ∈ kept' := by
  induction hplace : place c using Nat.strongRecOn generalizing c with
  | ind i ih =>
    rw [h c hc, h' c hc]
    refine and_congr_right fun _ => ?_
    constructor
    · intro hall z hz hzc
      exact hall z ((ih (place z) (hplace ▸ hzc) (hsub' hz) rfl).mpr hz) hzc
    · intro hall z hz hzc
      exact hall z ((ih (place z) (hplace ▸ hzc) (hsub hz) rfl).mp hz) hzc

/-- No other list in the order of the places keeps exactly what it should. -/
theorem KeepsExactly.eq {candidates kept kept' : List α}
    (h : KeepsExactly eligible blocks place candidates kept)
    (h' : KeepsExactly eligible blocks place candidates kept')
    (hsub : kept ⊆ candidates) (hsub' : kept' ⊆ candidates)
    (hordered : kept.Pairwise fun a b => place a < place b)
    (hordered' : kept'.Pairwise fun a b => place a < place b) : kept = kept' := by
  have hmem : ∀ c, c ∈ kept ↔ c ∈ kept' := by
    intro c
    constructor
    · intro hc
      exact (h.mem_iff h' hsub hsub' (hsub hc)).mp hc
    · intro hc
      exact (h.mem_iff h' hsub hsub' (hsub' hc)).mpr hc
  have hnodup : ∀ {l : List α}, (l.Pairwise fun a b => place a < place b) → l.Nodup := by
    intro l hl
    refine hl.imp ?_
    rintro a b hab rfl
    exact Nat.lt_irrefl _ hab
  refine ((List.perm_ext_iff_of_nodup (hnodup hordered) (hnodup hordered')).mpr hmem).eq_of_pairwise
    ?_ hordered hordered'
  intro a b _ _ hab hba
  omega

end Search

section Simulation

variable {α β : Type} {eligible : α → Bool} {blocks : α → α → Bool} {eligible' : β → Bool}
  {blocks' : β → β → Bool} {R : α → β → Prop}

theorem any_eq_of_forall₂ {p : α → Bool} {q : β → Bool} {as : List α} {bs : List β}
    (h : List.Forall₂ R as bs) (hpq : ∀ a b, R a b → p a = q b) : as.any p = bs.any q := by
  induction h with
  | nil => rfl
  | cons hab _ ih => rw [List.any_cons, List.any_cons, hpq _ _ hab, ih]

/-- Searches that agree on corresponding candidates keep corresponding candidates. -/
theorem greedy_forall₂ {candidates : List α} {candidates' : List β}
    (h : List.Forall₂ R candidates candidates')
    (heligible : ∀ c c', R c c' → eligible c = eligible' c')
    (hblocks : ∀ z z' c c', R z z' → R c c' → blocks z c = blocks' z' c') :
    List.Forall₂ R (greedy eligible blocks candidates) (greedy eligible' blocks' candidates') := by
  refine List.rel_reverse (List.rel_foldl ?_ List.Forall₂.nil h)
  intro kept kept' hkept c c' hc
  have hany : kept.any (blocks · c) = kept'.any (blocks' · c') :=
    any_eq_of_forall₂ hkept fun z z' hz => hblocks z z' c c' hz hc
  rw [greedyStep, greedyStep, heligible c c' hc, hany]
  split
  · exact List.Forall₂.cons hc hkept
  · exact hkept

end Simulation
end GalaxyScenario
