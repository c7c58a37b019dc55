import GalaxyScenario.Proofs.ScriptLines

/-! The words of a text, and the texts that it contains. A text without spaces stands in a single
word, and a text between two spaces is a run of whole words. -/
namespace GalaxyScenario.Text

/-- Whether a text stands anywhere in another. -/
def Contains (text part : String) : Prop := part.toList <:+: text.toList

instance (text part : String) : Decidable (Contains text part) :=
  inferInstanceAs (Decidable (_ <:+: _))

/-- What stands between the spaces of a text, which is nothing between two spaces in a row. -/
def words (text : String) : List String := (text.toList.splitOn ' ').map String.ofList

variable {text part a b : String}

theorem contains_iff : Contains text part ↔ ∃ before after, text = before ++ part ++ after := by
  constructor
  · rintro ⟨before, after, h⟩
    refine ⟨String.ofList before, String.ofList after, ?_⟩
    simp [← String.toList_inj, h]
  · rintro ⟨before, after, rfl⟩
    exact ⟨before.toList, after.toList, by simp⟩

theorem contains_self (text : String) : Contains text text := List.infix_refl _

theorem Contains.append_left (h : Contains b part) (a : String) : Contains (a ++ b) part := by
  rw [Contains, String.toList_append]
  exact h.trans (List.suffix_append _ _).isInfix

theorem Contains.append_right (h : Contains a part) (b : String) : Contains (a ++ b) part := by
  rw [Contains, String.toList_append]
  exact h.trans (List.prefix_append _ _).isInfix

theorem Contains.trans {inner : String} (h : Contains text part) (hinner : Contains part inner) :
    Contains text inner :=
  List.IsInfix.trans hinner h

theorem not_contains_of_notMem {c : Char} (hc : c ∈ part.toList) (h : c ∉ text.toList) :
    ¬ Contains text part :=
  fun hcontains => h (hcontains.subset hc)

/-- A list without a separator stands before or after it. -/
theorem infix_append_cons_iff {α : Type} {separator : α} {part before after : List α}
    (h : separator ∉ part) :
    part <:+: before ++ separator :: after ↔ part <:+: before ∨ part <:+: after := by
  constructor
  · rintro ⟨front, back, heq⟩
    rcases List.append_eq_append_iff.mp heq with ⟨rest, rfl, -⟩ | ⟨rest, hpart, hback⟩
    · exact .inl ⟨front, rest, rfl⟩
    · -- The separator is now in front of what is left of the part, or behind all of it.
      cases rest with
      | nil => exact .inl ⟨front, [], by simpa using hpart⟩
      | cons c rest =>
        obtain ⟨rfl, rfl⟩ := List.cons.inj hback
        rcases List.append_eq_append_iff.mp hpart with ⟨cut, -, rfl⟩ | ⟨cut, -, hcut⟩
        · simp at h
        · cases cut with
          | nil =>
            obtain rfl : part = separator :: rest := hcut.symm
            simp at h
          | cons d cut =>
            obtain ⟨-, rfl⟩ := List.cons.inj hcut
            exact .inr ⟨cut, back, rfl⟩
  · rintro (hbefore | hafter)
    · exact hbefore.trans (List.prefix_append _ _).isInfix
    · exact hafter.trans ((List.suffix_cons _ _).trans (List.suffix_append _ _)).isInfix

theorem contains_append_space_iff (h : ' ' ∉ part.toList) :
    Contains (a ++ " " ++ b) part ↔ Contains a part ∨ Contains b part := by
  have htext : (a ++ " " ++ b).toList = a.toList ++ ' ' :: b.toList := by simp
  rw [Contains, htext, infix_append_cons_iff h, Contains, Contains]

theorem contains_intercalate_iff (h : ' ' ∉ part.toList) {texts : List String} (hne : texts ≠ []) :
    Contains (" ".intercalate texts) part ↔ ∃ text ∈ texts, Contains text part := by
  induction texts with
  | nil => exact absurd rfl hne
  | cons text rest ih =>
    cases rest with
    | nil => simp
    | cons next rest =>
      rw [String.intercalate_cons_cons, contains_append_space_iff h, ih (by simp)]
      exact (List.exists_mem_cons_iff (Contains · part) text (next :: rest)).symm

theorem words_append (a b : String) : words (a ++ " " ++ b) = words a ++ words b := by
  simp [words, List.splitOn_append_cons_self]

theorem words_intercalate {ws : List String} (hne : ws ≠ []) (hws : ∀ w ∈ ws, ' ' ∉ w.toList) :
    words (" ".intercalate ws) = ws := by
  have hsplit : ([' '].intercalate (ws.map String.toList)).splitOn ' ' = ws.map String.toList :=
    List.splitOn_intercalate ' ' (by simpa using hws) (by simpa using hne)
  simp [words, hsplit, Function.comp_def]

theorem intercalate_append {ws us : List String} (hws : ws ≠ []) (hus : us ≠ []) :
    " ".intercalate (ws ++ us) = " ".intercalate ws ++ " " ++ " ".intercalate us := by
  induction ws with
  | nil => exact absurd rfl hws
  | cons w rest ih =>
    cases rest with
    | nil =>
      cases us with
      | nil => exact absurd rfl hus
      | cons next rest => simp
    | cons next rest =>
      have hrest := ih (List.cons_ne_nil _ _)
      rw [List.cons_append, List.cons_append, String.intercalate_cons_cons, ← List.cons_append,
        hrest, String.intercalate_cons_cons]
      simp only [String.append_assoc]

/-- Words in the middle of a text stand in it with a space on both sides. -/
theorem contains_run {before ws after : List String} (hbefore : before ≠ []) (hws : ws ≠ [])
    (hafter : after ≠ []) :
    Contains (" ".intercalate (before ++ (ws ++ after))) (" " ++ " ".intercalate ws ++ " ") := by
  rw [intercalate_append hbefore (by simp [hws]), intercalate_append hws hafter]
  exact contains_iff.mpr ⟨" ".intercalate before, " ".intercalate after, by
    simp only [String.append_assoc]⟩

/-- A text with a space before and after it is a run of whole words. -/
theorem Contains.words_run (h : Contains text (" " ++ part ++ " ")) :
    words part <:+: words text := by
  obtain ⟨before, after, rfl⟩ := contains_iff.mp h
  have hassoc : before ++ (" " ++ part ++ " ") ++ after =
      before ++ " " ++ (part ++ " " ++ after) := by
    simp [String.append_assoc]
  rw [hassoc, words_append, words_append, ← List.append_assoc]
  exact List.infix_append _ _ _

end GalaxyScenario.Text
