import GalaxyScenario.Proofs.CompiledLines

/-! The braces of a script. Each clause opens and closes braces of its own, so what is put together
from clauses is nested if the texts in it have no braces. The whole script is one block: it is
opened by the first line and closed by the last character, and it stays open in between. -/
namespace GalaxyScenario

namespace Text

/-- How many more braces some characters open than they close. -/
def openBraces (cs : List Char) : Int := (cs.count '{' : Int) - cs.count '}'

theorem openBraces_append (as bs : List Char) :
    openBraces (as ++ bs) = openBraces as + openBraces bs := by
  simp only [openBraces, List.count_append]
  omega

/-- A text without braces. -/
def Braceless (text : String) : Prop := '{' ∉ text.toList ∧ '}' ∉ text.toList

/-- No brace is closed before it is opened, and none is left open. -/
structure Nested (text : String) : Prop where
  nonneg : ∀ n, 0 ≤ openBraces (text.toList.take n)
  closed : openBraces text.toList = 0

variable {a b before body : String}

theorem Braceless.openBraces_take (h : Braceless a) (n : Nat) :
    openBraces (a.toList.take n) = 0 := by
  have hopen : '{' ∉ a.toList.take n := fun hmem => h.1 (List.mem_of_mem_take hmem)
  have hclose : '}' ∉ a.toList.take n := fun hmem => h.2 (List.mem_of_mem_take hmem)
  simp [openBraces, List.count_eq_zero_of_not_mem hopen, List.count_eq_zero_of_not_mem hclose]

theorem Braceless.nested (h : Braceless a) : Nested a where
  nonneg := fun n => (h.openBraces_take n).ge
  closed := by
    have hall := h.openBraces_take a.toList.length
    rwa [List.take_length] at hall

theorem Nested.append (ha : Nested a) (hb : Nested b) : Nested (a ++ b) where
  nonneg := by
    intro n
    rw [String.toList_append, List.take_append, openBraces_append]
    exact Int.add_nonneg (ha.nonneg n) (hb.nonneg _)
  closed := by
    rw [String.toList_append, openBraces_append, ha.closed, hb.closed]
    rfl

theorem openBraces_cons_open (cs : List Char) : openBraces ('{' :: cs) = 1 + openBraces cs := by
  simp [openBraces]
  omega

theorem openBraces_append_close (cs : List Char) :
    openBraces (cs ++ ['}']) = openBraces cs - 1 := by
  rw [openBraces_append]
  rfl

/-- Between a brace and the one that closes it, the brace stays open. -/
theorem Nested.one_le_openBraces (hbody : Nested body) (hbefore : Braceless before) {n : Nat}
    (hlow : before.toList.length < n) (hhigh : n ≤ before.toList.length + 1 + body.toList.length) :
    1 ≤ openBraces ((before.toList ++ '{' :: (body.toList ++ ['}'])).take n) := by
  -- The part ends after `k` characters of the body.
  obtain ⟨k, rfl⟩ : ∃ k, n = before.toList.length + (k + 1) :=
    ⟨n - before.toList.length - 1, by omega⟩
  rw [List.take_append, openBraces_append, hbefore.openBraces_take, Nat.add_sub_cancel_left,
    List.take_succ_cons, openBraces_cons_open, List.take_append_of_le_length (by omega)]
  have hnonneg := hbody.nonneg k
  omega

/-- After the brace that closes it, no brace is open. -/
theorem Nested.openBraces_block (hbody : Nested body) (hbefore : Braceless before) :
    openBraces (before.toList ++ '{' :: (body.toList ++ ['}'])) = 0 := by
  rw [openBraces_append, hbefore.nested.closed, openBraces_cons_open, openBraces_append_close,
    hbody.closed]
  rfl

theorem Nested.braced (h : Nested body) : Nested (Script.braced body) := by
  have hspace : Braceless " " := by simp [Braceless]
  have hempty : Braceless "" := by simp [Braceless]
  have hinner : Nested (" " ++ body ++ " ") := (hspace.nested.append h).append hspace.nested
  have hchars : (Script.braced body).toList =
      "".toList ++ '{' :: ((" " ++ body ++ " ").toList ++ ['}']) := by
    simp [Script.braced]
  constructor
  · intro n
    rw [hchars]
    rcases Nat.eq_zero_or_pos n with rfl | hpos
    · exact le_rfl
    · by_cases hle : n ≤ "".toList.length + 1 + (" " ++ body ++ " ").toList.length
      · exact zero_le_one.trans (hinner.one_le_openBraces hempty hpos hle)
      · rw [List.take_of_length_le (by simp at hle ⊢; omega), hinner.openBraces_block hempty]
  · rw [hchars, hinner.openBraces_block hempty]

theorem nested_intercalate {separator : String} (hsep : Nested separator) {texts : List String}
    (h : ∀ text ∈ texts, Nested text) : Nested (separator.intercalate texts) := by
  induction texts with
  | nil => exact Braceless.nested (by simp [Braceless])
  | cons text rest ih =>
    rw [List.forall_mem_cons] at h
    cases rest with
    | nil => simpa using h.1
    | cons next rest =>
      rw [String.intercalate_cons_cons]
      exact (h.1.append hsep).append (ih h.2)

/-- A name with nested braces after it. -/
theorem Nested.clause (h : Nested body) (hname : Braceless a) : Nested (a ++ Script.braced body) :=
  hname.nested.append h.braced

end Text

namespace Script
open Text

variable {v : String}

theorem nested_modifier (hv : Braceless v) (w : SpawnWeight) : Nested (modifier v w) := by
  unfold modifier
  cases w with
  | preferred =>
    have hbonus : Nested "add = 100 always = yes" := Braceless.nested (by simp [Braceless])
    exact hbonus.clause (by simp [Braceless])
  | tieBreak residue =>
    have hrule : Nested ("which = " ++ v ++ " modulo = " ++
        toString SpawnDirective.tieBreakModulus ++ " value = " ++ toString residue) :=
      Braceless.nested (by simp [Braceless, hv.1, hv.2, Decimal.notMem_toDigits])
    have hcheck := hrule.clause (a := "add = 10 check_variable_arithmetic = ") (by simp [Braceless])
    exact hcheck.clause (by simp [Braceless])

theorem nested_spawnWeight (hv : Braceless v) (d : Option SpawnDirective) :
    Nested (spawnWeight v d) := by
  unfold spawnWeight
  cases d with
  | none => exact Braceless.nested (by simp [Braceless])
  | some d =>
    have hbase : Nested "base = 10 " := Braceless.nested (by simp [Braceless])
    exact (hbase.append (nested_modifier hv d.weight)).clause (by simp [Braceless])

theorem nested_effect {flags : List String} (h : ∀ flag ∈ flags, Braceless flag) :
    Nested (effect flags) := by
  unfold effect
  split_ifs
  · exact Braceless.nested (by simp [Braceless])
  · have hspace : Nested " " := Braceless.nested (by simp [Braceless])
    have hset : ∀ text ∈ flags.map ("set_star_flag = " ++ ·), Nested text := by
      rw [List.forall_mem_map]
      intro flag hflag
      exact Braceless.nested (by simp [Braceless, (h flag hflag).1, (h flag hflag).2])
    exact (nested_intercalate hspace hset).clause (by simp [Braceless])

theorem nested_system (hv : Braceless v) {s : StarSystem}
    (hflags : ∀ flag ∈ s.flags, Braceless flag) : Nested (system v s) := by
  have hspace : Nested " " := Braceless.nested (by simp [Braceless])
  have hinitializer : Nested (initializer s.directive) := Braceless.nested (by
    unfold initializer
    cases s.directive <;> simp [Braceless, Decimal.notMem_toDigits])
  have hposition : Nested ("x = " ++ coordinateText s.position.x ++ " y = " ++
      coordinateText s.position.y) :=
    Braceless.nested (by simp [Braceless, coordinateText, Layout.notMem_text])
  have hstart := hposition.clause (a := "id = \"" ++ toString s.id ++ "\" position = ")
    (by simp [Braceless, Decimal.notMem_toDigits])
  have hclauses := (((hstart.append hspace).append hinitializer).append hspace).append
    (nested_spawnWeight hv s.directive)
  exact ((hclauses.append hspace).append (nested_effect hflags)).clause (by simp [Braceless])

theorem nested_hyperlane (lane : Hyperlane) : Nested (hyperlane lane) := by
  have hend : ∀ id, Braceless (laneEnd id) := by
    intro id
    cases id <;> simp [Braceless, laneEnd, unresolved, Decimal.notMem_toDigits]
  have hends : Nested
      ("from = \"" ++ laneEnd lane.source ++ "\" to = \"" ++ laneEnd lane.target ++ "\"") :=
    Braceless.nested (by simp [Braceless, (hend _).1, (hend _).2])
  exact hends.clause (by simp [Braceless])

theorem nested_joinLines {texts : List String} (h : ∀ text ∈ texts, Nested text) :
    Nested (joinLines texts) :=
  nested_intercalate (Braceless.nested (by simp [Braceless])) h

theorem nested_header {config : Config} (hname : Braceless config.name)
    (hshapes : ∀ shape ∈ config.shapes, Braceless shape) : Nested (header config) := by
  have hshape : ∀ shape ∈ config.shapes, Nested ("\tsupports_shape = " ++ shape) := by
    intro shape hmem
    obtain ⟨hopen, hclose⟩ := hshapes shape hmem
    exact Braceless.nested (by simp [Braceless, hopen, hclose])
  have htitle : Nested ("\tname = \"" ++ config.name ++ "\"") :=
    Braceless.nested (by simp [Braceless, hname.1, hname.2])
  have hpriority : Nested ("\tpriority = " ++ toString config.priority.toNat) :=
    Braceless.nested (by simp [Braceless, Decimal.notMem_toDigits])
  have hending : Nested "\trandom_hyperlanes = no" := Braceless.nested (by simp [Braceless])
  refine nested_joinLines fun text htext => ?_
  simp only [List.mem_append, List.mem_cons, List.mem_map, List.not_mem_nil, or_false] at htext
  rcases htext with ((rfl | rfl) | ⟨shape, hmem, rfl⟩) | rfl
  · exact htitle
  · exact hpriority
  · exact hshape shape hmem
  · exact hending

theorem nested_capacity (c : EmpireCapacity) : Nested (capacity c) := by
  have hlimit : Nested ("min = 0 max = " ++ toString c.max.toNat) :=
    Braceless.nested (by simp [Braceless, Decimal.notMem_toDigits])
  have hcomment : Nested "\t#limits player customization" := Braceless.nested (by simp [Braceless])
  have hdefault : Nested ("\tnum_empire_default = " ++ toString c.default.toNat) :=
    Braceless.nested (by simp [Braceless, Decimal.notMem_toDigits])
  refine nested_joinLines ?_
  simp only [List.forall_mem_cons]
  exact ⟨(hlimit.clause (by simp [Braceless])).append hcomment, hdefault, by simp⟩

theorem nested_range {name : String} (hname : Braceless name) (r : RangeSetting) :
    Nested (range name r) := by
  have hlimits : Nested
      ("min = " ++ coordinateText r.min ++ " max = " ++ coordinateText r.max) :=
    Braceless.nested (by simp [Braceless, coordinateText, Layout.notMem_text])
  have hdefault : Nested ("\t" ++ name ++ "_default = " ++ coordinateText r.default) :=
    Braceless.nested (by simp [Braceless, coordinateText, Layout.notMem_text, hname.1, hname.2])
  refine nested_joinLines ?_
  simp only [List.forall_mem_cons]
  exact ⟨hlimits.clause (by simp [Braceless, hname.1, hname.2]), hdefault, by simp⟩

theorem nested_hyperlaneRange (r : RangeSetting) : Nested (hyperlaneRange r) := by
  have hlimits : Nested ("min=" ++ coordinateText r.min ++ " max= " ++ coordinateText r.max) :=
    Braceless.nested (by simp [Braceless, coordinateText, Layout.notMem_text])
  have hdefault : Nested ("\tnum_hyperlanes_default = " ++ coordinateText r.default) :=
    Braceless.nested (by simp [Braceless, coordinateText, Layout.notMem_text])
  refine nested_joinLines ?_
  simp only [List.forall_mem_cons]
  exact ⟨hlimits.clause (by simp [Braceless]), hdefault, by simp⟩

theorem nested_assignment {name value : String} (hname : Braceless name) (hvalue : Nested value) :
    Nested (assignment name value) := by
  have hstart : Nested ("\t" ++ name ++ " = ") :=
    Braceless.nested (by simp [Braceless, hname.1, hname.2])
  exact hstart.append hvalue

theorem nested_tier (t : TierSettings) : Nested (tier t) := by
  have hcount : ∀ n : Nat, Nested (toString n) := fun n =>
    Braceless.nested (by simp [Braceless, Decimal.notMem_toDigits])
  have hnumber : ∀ x, Nested (Layout.pointed.text x) := fun x =>
    Braceless.nested (by simp [Braceless, Layout.notMem_text])
  have hspace : Nested " " := Braceless.nested (by simp [Braceless])
  refine nested_joinLines ?_
  simp only [List.forall_mem_cons]
  refine ⟨nested_assignment ?_ (hcount _), nested_assignment ?_ (hcount _),
    nested_assignment ?_ (hcount _), nested_assignment ?_ (hcount _),
    nested_assignment ?_ (hcount _), nested_assignment ?_ (hnumber _),
    nested_assignment ?_ (hnumber _), nested_assignment ?_ (hnumber _),
    nested_assignment ?_ (((hcount _).append hspace).append (hcount _)).braced, nested_range ?_ _,
    nested_range ?_ _, nested_hyperlaneRange _, by simp⟩
  all_goals simp [Braceless]

end Script

namespace Text

/-- The braces of a text make one block. It is opened by the last character of the first line and
closed by the last character of all, and some brace is open at every place in between. -/
structure OneBlock (opening text : String) : Prop where
  first : (lines text).head? = some opening
  before : ∀ n < opening.toList.length, openBraces (text.toList.take n) = 0
  inside : ∀ n, opening.toList.length ≤ n → n < text.toList.length →
    1 ≤ openBraces (text.toList.take n)
  last : text.toList.getLast? = some '}'
  closed : openBraces text.toList = 0

theorem Nested.oneBlock (h : Nested body) (hbefore : Braceless before)
    (hline : '\n' ∉ before.toList) :
    OneBlock (before ++ "\x7b") (before ++ "\x7b" ++ "\n" ++ body ++ "\x7d") := by
  have hbreak : Nested "\n" := Braceless.nested (by simp [Braceless])
  have hinner := hbreak.append h
  have hchars : (before ++ "\x7b" ++ "\n" ++ body ++ "\x7d").toList =
      before.toList ++ '{' :: (("\n" ++ body).toList ++ ['}']) := by
    simp
  constructor
  case first =>
    have hcut : before ++ "\x7b" ++ "\n" ++ body ++ "\x7d" =
        before ++ "\x7b" ++ "\n" ++ (body ++ "\x7d") := by
      simp [← String.toList_inj]
    rw [hcut, lines_append, lines, List.splitOn_eq_singleton (by simp [hline])]
    simp
  case before =>
    intro n hn
    have hle : n ≤ before.toList.length := by
      simp only [String.toList_append, List.length_append] at hn
      exact Nat.le_of_lt_succ hn
    rw [hchars, List.take_append_of_le_length hle, hbefore.openBraces_take]
  case inside =>
    intro n hlow hhigh
    rw [hchars] at hhigh ⊢
    simp only [String.toList_append, List.length_append, List.length_cons, List.length_nil]
      at hlow hhigh
    refine hinner.one_le_openBraces hbefore hlow ?_
    simp only [String.toList_append, List.length_append]
    omega
  case last =>
    rw [String.toList_append]
    exact List.getLast?_concat
  case closed =>
    rw [hchars, hinner.openBraces_block hbefore]

end Text

namespace Scenario
open Script Text

/-- What stands between the first line of a script and its last character is nested, if the texts
in it have no braces. -/
theorem exists_script_eq_block {s : Scenario} (hname : Braceless s.config.name)
    (hshapes : ∀ shape ∈ s.config.shapes, Braceless shape)
    (hvariable : Braceless s.config.leaderAgeVariable)
    (hflags : ∀ sys ∈ s.systems, ∀ flag ∈ sys.flags, Braceless flag) :
    ∃ body, Nested body ∧
      s.script = "static_galaxy_scenario = " ++ "\x7b" ++ "\n" ++ body ++ "\x7d" := by
  have hbreak : Nested "\n" := Braceless.nested (by simp [Braceless])
  have hgap : Nested "\n\n" := Braceless.nested (by simp [Braceless])
  have hsystems : Nested (joinLines (s.systems.map (system s.config.leaderAgeVariable))) :=
    nested_joinLines <| List.forall_mem_map.mpr fun sys hsys =>
      nested_system hvariable (hflags sys hsys)
  have hlanes : Nested (joinLines (s.hyperlanes.map hyperlane)) :=
    nested_joinLines (List.forall_mem_map.mpr fun lane _ => nested_hyperlane lane)
  have hsections : ∀ text ∈ [header s.config, Script.capacity s.capacity, Script.tier s.tier,
      joinLines (s.systems.map (system s.config.leaderAgeVariable)),
      joinLines (s.hyperlanes.map hyperlane)], Nested text := by
    simp only [List.forall_mem_cons]
    exact ⟨nested_header hname hshapes, nested_capacity _, nested_tier _, hsystems, hlanes, by simp⟩
  refine ⟨_, (hbreak.append (nested_intercalate hgap hsections)).append hgap, ?_⟩
  unfold script sections
  generalize header s.config = a, Script.capacity s.capacity = b, Script.tier s.tier = c,
    joinLines (s.systems.map (system s.config.leaderAgeVariable)) = d,
    joinLines (s.hyperlanes.map hyperlane) = e
  simp [opening, closing, ← String.toList_inj]

end Scenario

namespace GalaxyMap
open Text

/-- The script of a map is one block: only its last character closes the block that its first line
opens. -/
theorem compile_script_oneBlock (m : GalaxyMap) (config : Config) (hname : Braceless config.name)
    (hshapes : ∀ shape ∈ config.shapes, Braceless shape)
    (hvariable : Braceless config.leaderAgeVariable) :
    OneBlock "static_galaxy_scenario = \x7b" (m.compile config).script := by
  have hflags : ∀ s ∈ (m.compile config).scenario.systems, ∀ flag ∈ s.flags, Braceless flag := by
    intro s hs flag hflag
    have hchar := isFlagChar_of_mem_flags hs hflag
    exact ⟨fun hmem => absurd (hchar _ hmem) (by decide),
      fun hmem => absurd (hchar _ hmem) (by decide)⟩
  obtain ⟨body, hbody, hscript⟩ := Scenario.exists_script_eq_block hname hshapes hvariable hflags
  have hopening : "static_galaxy_scenario = \x7b" = "static_galaxy_scenario = " ++ "\x7b" := by
    simp
  rw [Compilation.script, hscript, hopening]
  exact hbody.oneBlock (by simp [Braceless]) (by simp)

/-- A line end in a name and a shape without a text leave the script one block. -/
theorem compile_script_oneBlock_brokenName :
    let config : Config :=
      { name := "Painted\nGalaxy", shapes := ["", "ring = no"], leaderAgeVariable := "" }
    let m : GalaxyMap :=
      { stars := [⟨100.0, 100.0⟩, ⟨800.0, 250.5⟩]
        wormholes := [⟨⟨100.0, 100.0⟩, ⟨800.0, 250.5⟩⟩]
        potentialHomes := .ofList ["100,100", "800,250.5"]
        preferredHomes := .ofList ["100,100"] }
    Braceless config.name ∧ (∀ shape ∈ config.shapes, Braceless shape) ∧
      Braceless config.leaderAgeVariable ∧
      OneBlock "static_galaxy_scenario = \x7b" (m.compile config).script := by
  intro config m
  have hname : Braceless config.name := by simp [Braceless, config]
  have hshapes : ∀ shape ∈ config.shapes, Braceless shape := by simp [Braceless, config]
  have hvariable : Braceless config.leaderAgeVariable := by simp [Braceless, config]
  exact ⟨hname, hshapes, hvariable, compile_script_oneBlock m config hname hshapes hvariable⟩

end GalaxyMap
end GalaxyScenario
