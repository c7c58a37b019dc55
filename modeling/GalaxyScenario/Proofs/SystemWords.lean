import GalaxyScenario.Proofs.Text.Words

/-! The words in the line of a system. Between the words of the position and the last brace stand
three clauses, each of which may be empty, and what a clause says is told by words next to each
other. The variable of the tie-break and the flags may be any single words. -/
namespace GalaxyScenario.Script
open Text

variable {v token : String} {s : StarSystem} {flags : List String}

def placeWords (s : StarSystem) : List String :=
  ["\tsystem", "=", "\x7b", "id", "=", "\"" ++ toString s.id ++ "\"", "position", "=", "\x7b",
    "x", "=", coordinateText s.position.x, "y", "=", coordinateText s.position.y, "\x7d"]

def initializerWords : Option SpawnDirective → List String
  | some d => ["initializer", "=", "random_empire_init_0" ++ toString d.initializer]
  | none => [""]

def modifierWords (variableName : String) : SpawnWeight → List String
  | .preferred => ["add", "=", "100", "always", "=", "yes"]
  | .tieBreak residue =>
    ["add", "=", "10", "check_variable_arithmetic", "=", "\x7b", "which", "=", variableName,
      "modulo", "=", "10", "value", "=", toString residue, "\x7d"]

def weightWords (variableName : String) : Option SpawnDirective → List String
  | some d =>
    ["spawn_weight", "=", "\x7b", "base", "=", "10", "modifier", "=", "\x7b"] ++
      (modifierWords variableName d.weight ++ ["\x7d", "\x7d"])
  | none => [""]

def effectWords (flags : List String) : List String :=
  if flags = [] then [""]
  else ["effect", "=", "\x7b"] ++ (flags.flatMap (["set_star_flag", "=", ·]) ++ ["\x7d"])

/-- The words in the line of a system. An empty clause is an empty word. -/
def systemWords (variableName : String) (s : StarSystem) : List String :=
  placeWords s ++ (initializerWords s.directive ++ (weightWords variableName s.directive ++
    (effectWords s.flags ++ ["\x7d"])))

theorem initializerWords_ne_nil (d : Option SpawnDirective) : initializerWords d ≠ [] := by
  unfold initializerWords
  split <;> simp

theorem weightWords_ne_nil (v : String) (d : Option SpawnDirective) : weightWords v d ≠ [] := by
  unfold weightWords
  split <;> simp

theorem effectWords_ne_nil (flags : List String) : effectWords flags ≠ [] := by
  unfold effectWords
  split <;> simp

theorem join_initializerWords (d : Option SpawnDirective) :
    " ".intercalate (initializerWords d) = initializer d := by
  cases d with
  | none => rfl
  | some d =>
    unfold initializer
    simp [initializerWords, ← String.toList_inj]

theorem join_weightWords (v : String) (d : Option SpawnDirective) :
    " ".intercalate (weightWords v d) = spawnWeight v d := by
  have hten : toString SpawnDirective.tieBreakModulus = "10" := rfl
  obtain - | ⟨n, - | residue⟩ := d
  · rfl
  · rw [← String.toList_inj]
    simp [weightWords, modifierWords, spawnWeight, modifier, braced]
  · rw [← String.toList_inj]
    simp [weightWords, modifierWords, spawnWeight, modifier, braced, hten, -Nat.toString_eq_repr]

theorem join_flagWords (flags : List String) :
    " ".intercalate (flags.flatMap (["set_star_flag", "=", ·])) =
      " ".intercalate (flags.map ("set_star_flag = " ++ ·)) := by
  have hone : ∀ flag,
      " ".intercalate ["set_star_flag", "=", flag] = "set_star_flag = " ++ flag := by
    simp [← String.toList_inj]
  induction flags with
  | nil => rfl
  | cons flag rest ih =>
    cases rest with
    | nil => exact hone flag
    | cons next rest =>
      rw [List.flatMap_cons, intercalate_append (by simp) (by simp), ih, hone, List.map_cons,
        List.map_cons, List.map_cons, String.intercalate_cons_cons]

theorem join_effectWords (flags : List String) :
    " ".intercalate (effectWords flags) = effect flags := by
  cases flags with
  | nil => rfl
  | cons flag rest =>
    rw [effectWords, if_neg (by simp), intercalate_append (by simp) (by simp),
      intercalate_append (by simp) (by simp), join_flagWords]
    simp [effect, braced, ← String.toList_inj]

theorem join_systemWords (v : String) (s : StarSystem) :
    " ".intercalate (systemWords v s) = system v s := by
  have hplace : " ".intercalate (placeWords s) = "\tsystem = " ++ "\x7b " ++
      ("id = \"" ++ toString s.id ++ "\" position = " ++ braced ("x = " ++
        coordinateText s.position.x ++ " y = " ++ coordinateText s.position.y)) := by
    simp [placeWords, braced, ← String.toList_inj]
  have hclose : " \x7d" = " " ++ "\x7d" := rfl
  rw [systemWords, intercalate_append (by simp [placeWords]) (by simp),
    intercalate_append (initializerWords_ne_nil _) (by simp),
    intercalate_append (weightWords_ne_nil _ _) (by simp),
    intercalate_append (effectWords_ne_nil _) (by simp), hplace, join_initializerWords,
    join_weightWords, join_effectWords]
  simp only [system, braced, hclose, String.append_assoc, String.intercalate_singleton]

theorem contains_system_iff (h : ' ' ∉ token.toList) :
    Contains (system v s) token ↔ ∃ w ∈ systemWords v s, Contains w token := by
  rw [← join_systemWords, contains_intercalate_iff h (by simp [systemWords])]

section WordClasses

variable {P : String → Prop}

/-- What holds of the fixed words and of numbers holds of all words up to the position. -/
theorem forall_mem_placeWords (hliteral : ∀ w ∈ ["\tsystem", "=", "\x7b", "id", "position", "x",
    "y", "\x7d"], P w) (hnumber : ∀ n : Nat, P ("\"" ++ toString n ++ "\""))
    (hcoordinate : ∀ x, P (coordinateText x)) (s : StarSystem) : ∀ w ∈ placeWords s, P w := by
  simp only [List.forall_mem_cons] at hliteral
  simp [placeWords, -Nat.toString_eq_repr, hliteral, hnumber, hcoordinate]

/-- What holds of the fixed words and of flags holds of all words of an effect clause. -/
theorem forall_mem_effectWords (hliteral : ∀ w ∈ ["", "effect", "=", "\x7b", "set_star_flag",
    "\x7d"], P w) (hflags : ∀ flag ∈ flags, P flag) : ∀ w ∈ effectWords flags, P w := by
  simp only [List.forall_mem_cons] at hliteral
  unfold effectWords
  split
  · simp [hliteral]
  · simp +contextual [or_imp, hliteral, hflags]

end WordClasses

theorem space_notMem_initializerWords (d : Option SpawnDirective) :
    ∀ w ∈ initializerWords d, ' ' ∉ w.toList := by
  have hnumber : ∀ n : Nat, ' ' ∉ Nat.toDigits 10 n := Decimal.notMem_toDigits (by decide)
  unfold initializerWords
  cases d <;> simp [hnumber]

theorem words_system (hv : ' ' ∉ v.toList) (hflags : ∀ flag ∈ s.flags, ' ' ∉ flag.toList) :
    words (system v s) = systemWords v s := by
  have hnumber : ∀ n : Nat, ' ' ∉ Nat.toDigits 10 n := Decimal.notMem_toDigits (by decide)
  have hplace : ∀ w ∈ placeWords s, ' ' ∉ w.toList :=
    forall_mem_placeWords (by decide) (by simp [hnumber])
      (fun x => Layout.notMem_text (by decide) (by decide) _ _) s
  have hweight : ∀ w ∈ weightWords v s.directive, ' ' ∉ w.toList := by
    obtain - | ⟨n, - | residue⟩ := s.directive <;>
      simp [weightWords, modifierWords, hv, hnumber]
  have heffect : ∀ w ∈ effectWords s.flags, ' ' ∉ w.toList :=
    forall_mem_effectWords (by decide) hflags
  rw [← join_systemWords, words_intercalate (by simp [systemWords])]
  simp only [systemWords, List.forall_mem_append]
  exact ⟨hplace, space_notMem_initializerWords _, hweight, heffect, by simp⟩

/-- The clause of an initializer stands in the line of its system with a space on both sides. -/
theorem contains_initializer (v : String) (s : StarSystem) :
    Contains (system v s) (" " ++ initializer s.directive ++ " ") := by
  rw [← join_systemWords, ← join_initializerWords]
  exact contains_run (by simp [placeWords]) (initializerWords_ne_nil _) (by simp)

theorem contains_spawnWeight (v : String) (s : StarSystem) :
    Contains (system v s) (" " ++ spawnWeight v s.directive ++ " ") := by
  rw [← join_systemWords, ← join_weightWords, systemWords, ← List.append_assoc]
  exact contains_run (by simp [placeWords]) (weightWords_ne_nil _ _) (by simp)

/-- A word that is not of an effect clause itself is a flag, so the next flag or the end follows. -/
theorem not_run_effectWords {a b : String} {rest : List String}
    (ha : a ∉ ["effect", "=", "\x7b", "set_star_flag", "\x7d"])
    (hb : b ∉ ["set_star_flag", "\x7d"]) :
    ¬ a :: b :: rest <:+: effectWords flags ++ ["\x7d"] := by
  simp only [List.mem_cons, List.not_mem_nil, or_false, not_or] at ha hb
  unfold effectWords
  split
  · simp [List.infix_cons_iff, ha, hb]
  · suffices h : ∀ flags : List String, ¬ a :: b :: rest <:+:
        flags.flatMap (["set_star_flag", "=", ·]) ++ ["\x7d", "\x7d"] by
      simpa [List.infix_cons_iff, ha] using h flags
    intro flags
    induction flags with
    | nil => simp [List.infix_cons_iff, ha]
    | cons flag others ih =>
      -- The first of the two can only be this flag.
      have hnext : ¬ b :: rest <+:
          others.flatMap (["set_star_flag", "=", ·]) ++ ["\x7d", "\x7d"] := by
        cases others <;> simp [hb]
      simpa [List.infix_cons_iff, ha, hnext] using ih

/-- Only the bonus of a favoured start counts always. -/
theorem isPreferred_of_run (h : ["100", "always"] <:+: systemWords v s) : s.isPreferred = true := by
  have htail : ¬ ["100", "always"] <:+: effectWords s.flags ++ ["\x7d"] :=
    not_run_effectWords (by decide) (by decide)
  rw [systemWords] at h
  obtain hd | ⟨⟨n, - | residue⟩, hd⟩ : s.directive = none ∨ ∃ d, s.directive = some d := by
    cases s.directive <;> simp
  · rw [hd] at h
    simp [placeWords, initializerWords, weightWords, List.infix_cons_iff, htail] at h
  · simp [StarSystem.isPreferred, hd]
  · rw [hd] at h
    simp [placeWords, initializerWords, weightWords, modifierWords, List.infix_cons_iff, htail] at h

/-- A line assigns no initializer but that of its directive. -/
theorem initializer_of_run {d : SpawnDirective} (hd : s.directive = some d) {name : String}
    (h : ["initializer", "=", name] <:+: systemWords v s) :
    name = "random_empire_init_0" ++ toString d.initializer := by
  have htail : ¬ ["initializer", "=", name] <:+: effectWords s.flags ++ ["\x7d"] :=
    not_run_effectWords (by decide) (by decide)
  rw [systemWords, hd] at h
  obtain ⟨n, - | residue⟩ := d <;>
    simpa [placeWords, initializerWords, weightWords, modifierWords, List.infix_cons_iff, htail,
      -Nat.toString_eq_repr] using h

/-- A line assigns no value but the residue of its tie-break. -/
theorem residue_of_run {n residue : Nat} (hd : s.directive = some ⟨n, .tieBreak residue⟩)
    {value : String} (h : ["value", "=", value] <:+: systemWords v s) :
    value = toString residue := by
  have htail : ¬ ["value", "=", value] <:+: effectWords s.flags ++ ["\x7d"] :=
    not_run_effectWords (by decide) (by decide)
  rw [systemWords, hd] at h
  simpa [placeWords, initializerWords, weightWords, modifierWords, List.infix_cons_iff, htail,
    -Nat.toString_eq_repr] using h

end GalaxyScenario.Script
