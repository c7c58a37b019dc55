import GalaxyScenario.Proofs.CompiledLines
import GalaxyScenario.Proofs.FavouredHomes
import GalaxyScenario.Proofs.SystemWords

/-! Home systems in the lines of a script. The clauses of a home system can be told by a few words,
which no other part of the line of a system contains, not even the flags. Numbers are told by the
words before them. For this the variable of the tie-break has to be a single word, but it may be any
word. -/
namespace GalaxyScenario
open Text

namespace Script

variable {v token : String} {s : StarSystem}

def homeTokens : List String := ["initializer", "spawn_weight", "check_variable_arithmetic"]

/-- Flags that cannot be mistaken for something else in the line of a system. -/
def PlainFlags (flags : List String) : Prop :=
  ∀ flag ∈ flags, ' ' ∉ flag.toList ∧ ∀ token ∈ homeTokens, ¬ Contains flag token

/-- Only the two clauses of a home system contain these words. -/
theorem contains_system_homeToken_iff (hflags : PlainFlags s.flags) (h : token ∈ homeTokens) :
    Contains (system v s) token ↔
      ∃ w ∈ initializerWords s.directive ++ weightWords v s.directive, Contains w token := by
  have hspace : ∀ token ∈ homeTokens, ' ' ∉ token.toList := by decide
  have hliteral : ∀ token ∈ homeTokens, ∀ w ∈ ["\tsystem", "=", "\x7b", "id", "position", "x", "y",
      "\x7d", "", "effect", "set_star_flag"], ¬ Contains w token := by
    decide
  have hfixed := hliteral token h
  simp only [List.forall_mem_cons] at hfixed
  -- All three words have this letter, and no number has.
  have hletter : ∀ token ∈ homeTokens, 't' ∈ token.toList := by decide
  have hdigits : ∀ n : Nat, 't' ∉ Nat.toDigits 10 n := Decimal.notMem_toDigits (by decide)
  have hplace : ∀ w ∈ placeWords s, ¬ Contains w token :=
    forall_mem_placeWords (by simp [hfixed])
      (fun n => not_contains_of_notMem (hletter token h) (by simp [hdigits]))
      (fun x => not_contains_of_notMem (hletter token h)
        (Layout.notMem_text (by decide) (by decide) _ _)) s
  have heffect : ∀ w ∈ effectWords s.flags, ¬ Contains w token :=
    forall_mem_effectWords (by simp [hfixed]) fun flag hflag => (hflags flag hflag).2 token h
  rw [contains_system_iff (hspace token h), systemWords]
  constructor
  · rintro ⟨w, hw, hcontains⟩
    simp only [List.mem_append, List.mem_singleton] at hw
    rcases hw with hw | hw | hw | hw | rfl
    · exact absurd hcontains (hplace w hw)
    · exact ⟨w, List.mem_append_left _ hw, hcontains⟩
    · exact ⟨w, List.mem_append_right _ hw, hcontains⟩
    · exact absurd hcontains (heffect w hw)
    · exact absurd hcontains (by simp [hfixed])
  · rintro ⟨w, hw, hcontains⟩
    refine ⟨w, ?_, hcontains⟩
    simp only [List.mem_append] at hw ⊢
    exact .inr (hw.imp_right .inl)

theorem isHome_of_contains (hflags : PlainFlags s.flags) (h : token ∈ homeTokens)
    (hcontains : Contains (system v s) token) : s.isHome = true := by
  obtain ⟨w, hw, hcontains⟩ := (contains_system_homeToken_iff hflags h).mp hcontains
  cases hd : s.directive with
  | some d => rw [StarSystem.isHome, hd]; rfl
  | none =>
    have hempty : ∀ token ∈ homeTokens, ¬ Contains "" token := by decide
    simp only [hd, initializerWords, weightWords, List.cons_append, List.nil_append, List.mem_cons,
      List.not_mem_nil, or_false, or_self] at hw
    exact absurd (hw ▸ hcontains) (hempty token h)

theorem contains_initializer_iff (hflags : PlainFlags s.flags) :
    Contains (system v s) "initializer = random_empire_init_0" ↔ s.isHome = true := by
  have hname : Contains "initializer = random_empire_init_0" "initializer" := by decide
  constructor
  · exact fun h => isHome_of_contains hflags (by simp [homeTokens]) (h.trans hname)
  · intro h
    obtain ⟨d, hd⟩ := Option.isSome_iff_exists.mp h
    have hclause := contains_initializer v s
    rw [hd] at hclause
    exact hclause.trans ((((contains_self _).append_right _).append_left " ").append_right " ")

theorem contains_weight_iff (hflags : PlainFlags s.flags) :
    Contains (system v s) "spawn_weight" ↔ s.isHome = true := by
  have hname : Contains "spawn_weight = " "spawn_weight" := by decide
  constructor
  · exact isHome_of_contains hflags (by simp [homeTokens])
  · intro h
    obtain ⟨d, hd⟩ := Option.isSome_iff_exists.mp h
    have hclause := contains_spawnWeight v s
    rw [hd] at hclause
    exact hclause.trans (((hname.append_right _).append_left " ").append_right " ")

theorem contains_tieBreak_iff (hflags : PlainFlags s.flags) (h : s.isHome = true) :
    Contains (system v s) "check_variable_arithmetic" ↔ s.isPreferred = false := by
  rw [contains_system_homeToken_iff hflags (by simp [homeTokens])]
  obtain ⟨⟨n, weight⟩, hd⟩ := Option.isSome_iff_exists.mp h
  have hdigits : 'k' ∉ Nat.toDigits 10 n := Decimal.notMem_toDigits (by decide) n
  have hnumber : ¬ Contains ("random_empire_init_0" ++ toString n) "check_variable_arithmetic" :=
    not_contains_of_notMem (c := 'k') (by decide) (by simp [hdigits])
  rw [StarSystem.isPreferred, hd]
  cases weight with
  | preferred =>
    have hliteral : ∀ w ∈ ["initializer", "=", "spawn_weight", "\x7b", "base", "10", "modifier",
        "add", "100", "always", "yes", "\x7d"], ¬ Contains w "check_variable_arithmetic" := by
      decide
    simp only [List.forall_mem_cons] at hliteral
    refine iff_of_false ?_ (by simp)
    simp [initializerWords, weightWords, modifierWords, -Nat.toString_eq_repr, hnumber, hliteral]
  | tieBreak residue =>
    refine iff_of_true ⟨"check_variable_arithmetic", ?_, contains_self _⟩ rfl
    simp [weightWords, modifierWords]

theorem words_run_system (hv : ' ' ∉ v.toList) (hflags : PlainFlags s.flags) {part : String}
    (h : Contains (system v s) (" " ++ part ++ " ")) : words part <:+: systemWords v s := by
  rw [← words_system hv fun flag hflag => (hflags flag hflag).1]
  exact h.words_run

theorem contains_bonus_iff (hv : ' ' ∉ v.toList) (hflags : PlainFlags s.flags) :
    Contains (system v s) "add = 100 always = yes" ↔ s.isPreferred = true := by
  have hmiddle : Contains "add = 100 always = yes" (" " ++ "100 always" ++ " ") := by decide
  have hwords : words "100 always" = ["100", "always"] := by decide
  constructor
  · -- A tie-break has its variable next to other words, so two words tell the bonus from it.
    intro h
    exact isPreferred_of_run (hwords ▸ words_run_system hv hflags (h.trans hmiddle))
  · intro h
    obtain ⟨⟨n, - | residue⟩, hd, hweight⟩ := (Option.any_eq_true _ _).mp h
    · have hclause := contains_spawnWeight v s
      rw [hd] at hclause
      exact hclause.trans (contains_iff.mpr
        ⟨" spawn_weight = \x7b base = 10 modifier = \x7b ", " \x7d \x7d ", rfl⟩)
    · cases hweight

/-- The line of a home system names its initializer and no other. -/
theorem contains_initializerNumber_iff (hv : ' ' ∉ v.toList) (hflags : PlainFlags s.flags)
    {d : SpawnDirective} (hd : s.directive = some d) (n : Nat) :
    Contains (system v s) (" initializer = random_empire_init_0" ++ toString n ++ " ") ↔
      n = d.initializer := by
  have hpart : " initializer = random_empire_init_0" ++ toString n ++ " " =
      " " ++ initializer (some ⟨n, .preferred⟩) ++ " " := rfl
  rw [hpart]
  constructor
  · intro h
    have hrun := words_run_system hv hflags h
    rw [← join_initializerWords, words_intercalate (initializerWords_ne_nil _)
      (space_notMem_initializerWords _)] at hrun
    exact Nat.repr_inj.mp ((String.append_right_inj _).mp (initializer_of_run hd hrun))
  · rintro rfl
    have hclause := contains_initializer v s
    rw [hd] at hclause
    exact hclause

theorem words_value (r : Nat) : words ("value = " ++ toString r) = ["value", "=", toString r] := by
  have hjoin : "value = " ++ toString r = " ".intercalate ["value", "=", toString r] := by
    simp [← String.toList_inj]
  have hdigits : ' ' ∉ Nat.toDigits 10 r := Decimal.notMem_toDigits (by decide) r
  rw [hjoin, words_intercalate (by simp) (by simp [hdigits])]

/-- The line of a home system with a tie-break has its residue and no other. -/
theorem contains_residue_iff (hv : ' ' ∉ v.toList) (hflags : PlainFlags s.flags) {n residue : Nat}
    (hd : s.directive = some ⟨n, .tieBreak residue⟩) (r : Nat) :
    Contains (system v s) ("check_variable_arithmetic = \x7b which = " ++ v ++
      " modulo = 10 value = " ++ toString r ++ " \x7d") ↔ r = residue := by
  constructor
  · intro h
    have hvalue : Contains (system v s) (" " ++ ("value = " ++ toString r) ++ " ") := by
      refine h.trans (contains_iff.mpr
        ⟨"check_variable_arithmetic = \x7b which = " ++ v ++ " modulo = 10", "\x7d", ?_⟩)
      simp [← String.toList_inj]
    have hrun := words_run_system hv hflags hvalue
    exact Nat.repr_inj.mp (residue_of_run hd (words_value r ▸ hrun))
  · rintro rfl
    have hten : toString SpawnDirective.tieBreakModulus = "10" := rfl
    have hclause := contains_spawnWeight v s
    rw [hd] at hclause
    refine hclause.trans (contains_iff.mpr
      ⟨" spawn_weight = \x7b base = 10 modifier = \x7b add = 10 ", " \x7d \x7d ", ?_⟩)
    simp [spawnWeight, modifier, braced, hten, ← String.toList_inj, -Nat.toString_eq_repr]

end Script

/-- What the line of a system tells about it as a start: whether it is one, which initializer it
has, and the one modifier of its spawn weight. -/
structure TellsHome (line variableName : String) (id : Nat) (home preferred : Prop) : Prop where
  initializer : Contains line "initializer = random_empire_init_0" ↔ home
  weight : Contains line "spawn_weight" ↔ home
  number : home → ∀ n : Nat,
    Contains line (" initializer = random_empire_init_0" ++ toString n ++ " ") ↔ n = id % 6 + 1
  bonus : Contains line "add = 100 always = yes" ↔ home ∧ preferred
  tieBreak : Contains line "check_variable_arithmetic" ↔ home ∧ ¬ preferred
  residue : home → ¬ preferred → ∀ r : Nat,
    Contains line ("check_variable_arithmetic = \x7b which = " ++ variableName ++
      " modulo = 10 value = " ++ toString r ++ " \x7d") ↔ r = id % 10

theorem SpawnDirective.plan_eq_some {index : Nat} {isPotential isPreferred : Bool}
    {d : SpawnDirective} (h : plan index isPotential isPreferred = some d) :
    d = ⟨index % 6 + 1, if isPreferred then .preferred else .tieBreak (index % 10)⟩ := by
  cases isPotential with
  | false => cases h
  | true => exact (Option.some.inj h).symm

/-- The line of a system whose directive was planned tells the plan. -/
theorem Script.tellsHome_of_plan {v : String} {s : StarSystem} (hv : ' ' ∉ v.toList)
    (hflags : PlainFlags s.flags) {home preferred : Bool}
    (hplan : SpawnDirective.plan s.id home preferred = s.directive) :
    TellsHome (system v s) v s.id (home = true) (preferred = true) := by
  have hhome : s.isHome = home := by
    rw [StarSystem.isHome, ← hplan, SpawnDirective.isSome_plan]
  have hpreferred : s.isPreferred = (home && preferred) := by
    rw [StarSystem.isPreferred, ← hplan, SpawnDirective.any_preferred_plan]
  constructor
  case initializer => rw [contains_initializer_iff hflags, hhome]
  case weight => rw [contains_weight_iff hflags, hhome]
  case number =>
    intro h n
    obtain ⟨d, hd⟩ := Option.isSome_iff_exists.mp (hhome.trans h)
    obtain rfl := SpawnDirective.plan_eq_some (hplan.trans hd)
    exact contains_initializerNumber_iff hv hflags hd n
  case bonus => rw [contains_bonus_iff hv hflags, hpreferred, Bool.and_eq_true]
  case tieBreak =>
    cases home with
    | false =>
      refine iff_of_false (fun h => ?_) (by simp)
      rw [isHome_of_contains hflags (by simp [homeTokens]) h] at hhome
      cases hhome
    | true => simp [contains_tieBreak_iff hflags hhome, hpreferred]
  case residue =>
    rintro rfl hother r
    obtain ⟨d, hd⟩ := Option.isSome_iff_exists.mp hhome
    have hweight := SpawnDirective.plan_eq_some (hplan.trans hd)
    rw [if_neg hother] at hweight
    exact contains_residue_iff hv hflags (hweight ▸ hd) r

namespace GalaxyMap
open Script

variable {m : GalaxyMap} {config : Config} {s : StarSystem}

theorem plainFlags_of_mem_systems (hs : s ∈ (m.compile config).scenario.systems) :
    PlainFlags s.flags := by
  intro flag hflag
  refine ⟨fun hspace => ?_, fun token htoken => ?_⟩
  · exact absurd (isFlagChar_of_mem_flags hs hflag ' ' hspace) (by decide)
  obtain rfl | ⟨d, rfl⟩ | ⟨pair, rfl⟩ := flag_cases hs hflag
  · have howner : ∀ token ∈ homeTokens, ¬ Contains SpawnZone.ownerFlag token := by decide
    exact howner token htoken
  · have hside : ∀ token ∈ homeTokens, ∀ d ∈ Direction.all,
        ¬ Contains (SpawnZone.directionFlag d) token := by decide
    exact hside token htoken d (by cases d <;> decide)
  · have hletter : ∀ token ∈ homeTokens, token.toList.any (fun c =>
        !c.isDigit && !"painted_galaxy_wormhole_".toList.contains c) = true := by decide
    obtain ⟨c, hc, hother⟩ := List.any_eq_true.mp (hletter token htoken)
    simp only [Bool.and_eq_true, Bool.not_eq_true', List.contains_eq_mem, decide_eq_false_iff_not]
      at hother
    have hflag : (Wormhole.flag pair).toList =
        "painted_galaxy_wormhole_".toList ++ (toString pair).toList := String.toList_append
    have hdigits : (toString pair).toList = Nat.toDigits 10 pair := Nat.toList_repr
    refine not_contains_of_notMem hc fun hmem => ?_
    rcases List.mem_append.mp (hflag ▸ hmem) with hstem | hnumber
    · exact hother.2 hstem
    · exact Decimal.notMem_toDigits hother.1 pair (hdigits ▸ hnumber)

/-- Whether empires may start at the star with that id and key: it is painted, or no star is and it
is one of the first ones, which stand in. -/
def IsStart (m : GalaxyMap) (config : Config) (id : Nat) (key : String) : Prop :=
  key ∈ m.potentialHomes ∨ config.fallbackHomes = true ∧ m.potentialHomes.isEmpty = true ∧
    id < HomeSelection.fallbackCount m.stars.length

theorem selects_iff {id : Nat} {key : String} :
    (m.homeSelection config).selects id key = true ↔ m.IsStart config id key := by
  by_cases hmode : config.fallbackHomes = true ∧ m.potentialHomes.isEmpty = true
  · have hnone : key ∉ m.potentialHomes := by
      rw [Std.ExtTreeSet.isEmpty_iff.mp hmode.2]
      exact Std.ExtTreeSet.not_mem_empty
    rw [homeSelection_of_standIn hmode.1 hmode.2]
    simp [HomeSelection.selects, IsStart, hnone, hmode]
  · rw [homeSelection_of_painted hmode, IsStart, ← and_assoc]
    simp only [HomeSelection.selects, hmode, false_and, or_false, Std.ExtTreeSet.contains_iff_mem]

/-- The plan of a system goes by the index of its star, also after duplicates, and by its key. -/
theorem exists_plan_of_mem_systems (hs : s ∈ (m.compile config).scenario.systems) :
    ∃ star, m.stars[s.id]? = some star ∧ SpawnDirective.plan s.id
      ((m.homeSelection config).selects s.id star.key) (m.preferredHomes.contains star.key) =
        s.directive := by
  obtain ⟨first, hfirst, rfl⟩ := mem_compile_systems.mp hs
  obtain ⟨hplace, hkey, -⟩ := StarRoll.mem_firsts_ofStars.mp hfirst
  refine ⟨first.position, hplace, ?_⟩
  rw [← hkey]
  rfl

theorem tellsHome_system (hv : ' ' ∉ config.leaderAgeVariable.toList)
    (hs : s ∈ (m.compile config).scenario.systems) : ∃ star, m.stars[s.id]? = some star ∧
      TellsHome (Script.system config.leaderAgeVariable s) config.leaderAgeVariable s.id
        (m.IsStart config s.id star.key) (star.key ∈ m.preferredHomes) := by
  obtain ⟨star, hplace, hplan⟩ := exists_plan_of_mem_systems hs
  have htells := tellsHome_of_plan hv (plainFlags_of_mem_systems hs) hplan
  rw [selects_iff, Std.ExtTreeSet.contains_iff_mem] at htells
  exact ⟨star, hplace, htells⟩

theorem countP_linesOf_system {scenario : Scenario} {part : String} {p : StarSystem → Bool}
    (h : ∀ s ∈ scenario.systems,
      (Contains (Script.system scenario.config.leaderAgeVariable s) part ↔ p s = true)) :
    (scenario.linesOf .system).countP (Contains · part) = scenario.systems.countP p := by
  rw [Scenario.linesOf, List.countP_map]
  refine List.countP_congr fun s hs => ?_
  rw [Function.comp_apply, decide_eq_true_iff, h s hs]

/-- In the script of a map, exactly the lines of home systems have the clauses of one. Their
initializers take turns by the index of the star, and each line has one modifier: the bonus of a
favoured start, or a tie-break by the index. The counts are the numbers of these lines. -/
theorem compile_homeLines (m : GalaxyMap) (config : Config)
    (hv : Unbroken config.leaderAgeVariable) :
    (m.compile config).scenario.linesOf .system <:+
        linesFrom "\tsystem = " (m.compile config).script ∧
      (∀ s ∈ (m.compile config).scenario.systems, ∃ star, m.stars[s.id]? = some star ∧
        TellsHome (Script.system config.leaderAgeVariable s) config.leaderAgeVariable s.id
          (m.IsStart config s.id star.key) (star.key ∈ m.preferredHomes)) ∧
      (m.compile config).stats.homeSystems =
        ((m.compile config).scenario.linesOf .system).countP (Contains · "spawn_weight") ∧
      (m.compile config).stats.preferredSystems =
        ((m.compile config).scenario.linesOf .system).countP
          (Contains · "add = 100 always = yes") := by
  have hspace := hv.notMem (c := ' ') (by decide)
  have hflags : ∀ s ∈ (m.compile config).scenario.systems, PlainFlags s.flags :=
    fun s hs => plainFlags_of_mem_systems hs
  refine ⟨?_, fun s hs => tellsHome_system hspace hs, ?_, ?_⟩
  · have hbreak : ∀ s ∈ (m.compile config).scenario.systems, ∀ flag ∈ s.flags,
        '\n' ∉ flag.toList :=
      fun s hs flag hflag hmem => absurd (isFlagChar_of_mem_flags hs hflag _ hmem) (by decide)
    have hlines := Scenario.linesFrom_script_of_newline_notMem .system
      (s := (m.compile config).scenario) (hv.notMem (by decide)) hbreak
    exact ⟨_, hlines.symm⟩
  · have hcount : (m.compile config).stats.homeSystems =
        (m.compile config).scenario.systems.countP (·.isHome) := rfl
    rw [hcount, countP_linesOf_system fun s hs => contains_weight_iff (hflags s hs)]
  · have hcount : (m.compile config).stats.preferredSystems =
        (m.compile config).scenario.systems.countP (·.isPreferred) := rfl
    rw [hcount, countP_linesOf_system fun s hs => contains_bonus_iff hspace (hflags s hs)]

/-- A duplicate star has no line, but its index is not given away, and a variable that is called
like a clause is not taken for it. -/
theorem compile_homeLines_afterDuplicate :
    let config : Config := { leaderAgeVariable := "spawn_weight" }
    let star : Point := ⟨800.0, 250.5⟩
    let m := (ofStars [⟨100.0, 100.0⟩, ⟨100.0, 100.0⟩, star]).addPotentialHome star
    Unbroken config.leaderAgeVariable ∧ ∃ s ∈ (m.compile config).scenario.systems,
      Contains (Script.system "spawn_weight" s) " initializer = random_empire_init_03 " ∧
        Contains (Script.system "spawn_weight" s)
          "check_variable_arithmetic = \x7b which = spawn_weight modulo = 10 value = 2 \x7d" := by
  intro config star m
  have hv : Unbroken config.leaderAgeVariable := by
    simp [config, Unbroken, isBlank]
  have hkeys : Point.key ⟨100.0, 100.0⟩ ≠ star.key := by
    intro h
    rcases (Binary64.key_eq_key_iff_sameNumber.mp h).1 with hequal | ⟨hnan, -⟩
    · exact absurd hequal (by decide +kernel)
    · exact absurd hnan (by decide +kernel)
  have hfirst : (⟨2, star, star.key⟩ : ListedStar) ∈ m.roll.firsts := by
    refine StarRoll.mem_firsts_ofStars.mpr ⟨rfl, rfl, mem_placesOf.mpr ⟨star, rfl, rfl⟩, ?_⟩
    intro i hi
    obtain ⟨earlier, hplace, hkey⟩ := mem_placesOf.mp hi
    change 2 ≤ i
    by_contra hlt
    have hbefore : i = 0 ∨ i = 1 := by omega
    rcases hbefore with rfl | rfl
    · exact hkeys (Option.some.inj hplace ▸ hkey)
    · exact hkeys (Option.some.inj hplace ▸ hkey)
  have hs : m.system config (m.spawnZones config) (Wormhole.endKeys m.wormholes)
      ⟨2, star, star.key⟩ ∈ (m.compile config).scenario.systems :=
    mem_compile_systems.mpr ⟨_, hfirst, rfl⟩
  obtain ⟨home, hplace, htells⟩ := (compile_homeLines m config hv).2.1 _ hs
  obtain rfl : star = home := Option.some.inj hplace
  have hstart : m.IsStart config 2 star.key := .inl (by simp [m, addPotentialHome])
  have hpreferred : star.key ∉ m.preferredHomes := by simp [m, addPotentialHome, ofStars]
  refine ⟨hv, _, hs, ?_, ?_⟩
  · exact (htells.number hstart 3).mpr rfl
  · exact (htells.residue hstart hpreferred 2).mpr rfl

end GalaxyMap
end GalaxyScenario
