import GalaxyScenario.Proofs.References
import GalaxyScenario.Proofs.ScriptLines

/-! The lines of the script of a map. The counts of a compilation are taken from the stars and the
links, and a reader of the script finds as many lines: one for each first star in the order of the
stars, then one for each hyperlane in the order of the map. Only the texts that a configuration
splices in have to be single lines. -/
namespace GalaxyScenario

def isFlagChar (c : Char) : Bool := c.isAlphanum || c == '_'

theorem isFlagChar_ownerFlag : ∀ c ∈ SpawnZone.ownerFlag.toList, isFlagChar c = true := by
  simp [SpawnZone.ownerFlag, isFlagChar, Char.isAlphanum, Char.isAlpha, Char.isLower]

theorem isFlagChar_directionFlag (d : Direction) :
    ∀ c ∈ (SpawnZone.directionFlag d).toList, isFlagChar c = true := by
  have hname : ∀ c ∈ d.name.toList, isFlagChar c = true := by
    cases d <;> simp [Direction.name, isFlagChar, Char.isAlphanum, Char.isAlpha, Char.isLower]
  have howner := isFlagChar_ownerFlag
  intro c hc
  simp only [SpawnZone.directionFlag, String.toList_append, List.mem_append] at hc
  rcases hc with (hc | hc) | hc
  · exact howner c hc
  · obtain rfl : c = '_' := by simpa using hc
    rfl
  · exact hname c hc

theorem isFlagChar_wormhole (pair : Nat) :
    ∀ c ∈ (Wormhole.flag pair).toList, isFlagChar c = true := by
  intro c hc
  unfold Wormhole.flag at hc
  rw [String.toList_append, List.mem_append, Nat.toString_eq_repr, Nat.toList_repr] at hc
  rcases hc with hc | hc
  · have hstem : ∀ c ∈ "painted_galaxy_wormhole_".toList, isFlagChar c = true := by
      simp [isFlagChar, Char.isAlphanum, Char.isAlpha, Char.isLower]
    exact hstem c hc
  · simp [isFlagChar, Char.isAlphanum, Decimal.isDigit_of_mem_digitList hc]

/-- Lines that begin in one way come before lines that begin in another, if a blank line parts the
text so that the latter are missing before it and the former after it. -/
theorem Text.lt_of_getElem?_lines {start start' a b line line' : String} (h : start ≠ "")
    (ha : linesFrom start' a = []) (hb : linesFrom start b = []) {i j : Nat}
    (hi : (lines (a ++ "\n\n" ++ b))[i]? = some line)
    (hj : (lines (a ++ "\n\n" ++ b))[j]? = some line')
    (hline : start.toList <+: line.toList) (hline' : start'.toList <+: line'.toList) : i < j := by
  rw [lines_append_gap] at hi hj
  have hbefore : i < (lines a).length := by
    by_contra hge
    rw [List.getElem?_append_right (by omega)] at hi
    rcases List.mem_cons.mp (List.mem_of_getElem? hi) with rfl | hmem
    · exact h (String.toList_eq_nil_iff.mp (List.prefix_nil.mp hline))
    · have hmem : line ∈ linesFrom start b :=
        List.mem_filter.mpr ⟨hmem, List.isPrefixOf_iff_prefix.mpr hline⟩
      rw [hb] at hmem
      cases hmem
  have hafter : (lines a).length ≤ j := by
    by_contra hlt
    rw [List.getElem?_append_left (by omega)] at hj
    have hmem : line' ∈ linesFrom start' a :=
      List.mem_filter.mpr ⟨List.mem_of_getElem? hj, List.isPrefixOf_iff_prefix.mpr hline'⟩
    rw [ha] at hmem
    cases hmem
  exact hbefore.trans_le hafter

namespace Script
open Text

/-- No line of a header is of one of the kinds, if the texts in it are single lines. -/
theorem linesFrom_header (kind : LineKind) {config : Config} (hname : '\n' ∉ config.name.toList)
    (hshapes : ∀ shape ∈ config.shapes, '\n' ∉ shape.toList) :
    linesFrom kind.start (header config) = [] := by
  have hshape : ∀ shape ∈ config.shapes,
      linesFrom kind.start ("\tsupports_shape = " ++ shape) = [] := by
    intro shape hmem
    rw [linesFrom_of_notMem (by simp [hshapes shape hmem])]
    cases kind <;> simp [LineKind.start]
  have htitle : linesFrom kind.start ("\tname = \"" ++ config.name ++ "\"") = [] := by
    rw [linesFrom_of_notMem (by simp [hname])]
    cases kind <;> simp [LineKind.start]
  have hpriority : ∀ n : Nat, linesFrom kind.start ("\tpriority = " ++ n.repr) = [] := by
    intro n
    rw [linesFrom_of_notMem (by simp)]
    cases kind <;> simp [LineKind.start]
  have hending : linesFrom kind.start "\trandom_hyperlanes = no" = [] := by
    rw [linesFrom_of_notMem (by simp)]
    cases kind <;> simp [LineKind.start]
  rw [header, linesFrom_joinLines kind.start_ne_empty]
  simpa [htitle, hpriority, hending, List.flatMap_map, List.flatMap_eq_nil_iff] using hshape

theorem lane_eq (source target : String) :
    "\tadd_hyperlane = " ++ braced ("from = \"" ++ source ++ "\" to = \"" ++ target ++ "\"") =
      "\tadd_hyperlane = \x7b from = \"" ++ source ++ "\" to = \"" ++ target ++ "\" \x7d" := by
  simp [braced, ← String.toList_inj]

end Script

namespace Scenario
open Script Text

def front (s : Scenario) : String := "\n\n".intercalate (s.sections.take 5)

def back (s : Scenario) : String := joinLines (s.hyperlanes.map hyperlane) ++ "\n\n" ++ closing

theorem script_eq_front_append_back (s : Scenario) : s.script = s.front ++ "\n\n" ++ s.back := by
  simp [script, sections, front, back, String.append_assoc]

theorem linesFrom_front {s : Scenario} (hvariable : '\n' ∉ s.config.leaderAgeVariable.toList)
    (hflags : ∀ sys ∈ s.systems, ∀ flag ∈ sys.flags, '\n' ∉ flag.toList)
    (hheader : linesFrom LineKind.hyperlane.start (header s.config) = []) :
    linesFrom LineKind.hyperlane.start s.front = [] := by
  have hsystems := flatMap_linesFrom_system .hyperlane hvariable hflags
  simp only [Function.comp_def] at hsystems
  rw [front, linesFrom_sections]
  simp [sections, linesFrom_opening, hheader, linesFrom_tier, linesFrom_capacity,
    linesFrom_joinLines LineKind.hyperlane.start_ne_empty, List.flatMap_map, hsystems]

theorem linesFrom_back (s : Scenario) : linesFrom LineKind.system.start s.back = [] := by
  have hlanes := flatMap_linesFrom_hyperlane .system s.hyperlanes
  simp only [Function.comp_def] at hlanes
  rw [back, linesFrom_append_gap LineKind.system.start_ne_empty, linesFrom_closing,
    linesFrom_joinLines LineKind.system.start_ne_empty, List.flatMap_map, hlanes]
  rfl

end Scenario

namespace GalaxyMap
open Text

variable {m : GalaxyMap} {config : Config}

/-- Every flag of a compiled map is that of an owner, of a side or of a wormhole. -/
theorem flag_cases {s : StarSystem} (hs : s ∈ (m.compile config).scenario.systems)
    {flag : String} (hflag : flag ∈ s.flags) :
    flag = SpawnZone.ownerFlag ∨ (∃ d, flag = SpawnZone.directionFlag d) ∨
      ∃ pair, flag = Wormhole.flag pair := by
  obtain ⟨star, -, rfl⟩ := mem_compile_systems.mp hs
  rcases List.mem_append.mp hflag with hzone | hend
  · unfold SpawnZone.flags at hzone
    split at hzone
    · cases hzone
    · rcases List.mem_cons.mp hzone with rfl | hdirection
      · exact .inl rfl
      · obtain ⟨zone, -, rfl⟩ := List.mem_map.mp hdirection
        exact .inr (.inl ⟨zone.direction, rfl⟩)
  · obtain ⟨pair, -, rfl⟩ := List.mem_map.mp hend
    exact .inr (.inr ⟨pair, rfl⟩)

theorem isFlagChar_of_mem_flags {s : StarSystem} (hs : s ∈ (m.compile config).scenario.systems)
    {flag : String} (hflag : flag ∈ s.flags) : ∀ c ∈ flag.toList, isFlagChar c = true := by
  obtain rfl | ⟨d, rfl⟩ | ⟨pair, rfl⟩ := flag_cases hs hflag
  · exact isFlagChar_ownerFlag
  · exact isFlagChar_directionFlag d
  · exact isFlagChar_wormhole pair

/-- The places of the stars that have a key no earlier star has, in increasing order. -/
def firstPlaces (stars : List Point) : List Nat :=
  (stars.zipIdx.filter fun (star, i) => !(stars.take i).any (·.key == star.key)).map Prod.snd

theorem isFirst_iff {stars : List Point} {star : Point} {i : Nat} (h : stars[i]? = some star) :
    (StarRoll.ofStars stars).isFirst ⟨i, star, star.key⟩ =
      !(stars.take i).any (·.key == star.key) := by
  rw [Bool.eq_iff_iff, StarRoll.isFirst, beq_iff_eq, StarRoll.ids_ofStars,
    StarIndex.idOfKey?_ofStars_eq_some, Bool.not_eq_true', List.any_eq_false]
  constructor
  · rintro ⟨-, hmin⟩ earlier hearlier hkey
    obtain ⟨j, hj⟩ := List.mem_iff_getElem?.mp hearlier
    rw [List.getElem?_take, Option.ite_none_right_eq_some] at hj
    have hle := hmin (mem_placesOf.mpr ⟨earlier, hj.2, beq_iff_eq.mp hkey⟩)
    exact absurd hj.1 (Nat.not_lt.mpr hle)
  · intro hnone
    refine ⟨mem_placesOf.mpr ⟨star, h, rfl⟩, fun j hj => ?_⟩
    obtain ⟨earlier, hplace, hkey⟩ := mem_placesOf.mp hj
    by_contra hlt
    have hearlier : (stars.take i)[j]? = some earlier := by
      rw [List.getElem?_take, if_pos (Nat.lt_of_not_le hlt), hplace]
    exact hnone earlier (List.mem_of_getElem? hearlier) (beq_iff_eq.mpr hkey)

theorem map_index_firsts (stars : List Point) :
    (StarRoll.ofStars stars).firsts.map (·.index) = firstPlaces stars := by
  have hfirst : ∀ entry ∈ stars.zipIdx, (StarRoll.ofStars stars).isFirst
      ⟨entry.2, entry.1, entry.1.key⟩ = !(stars.take entry.2).any (·.key == entry.1.key) :=
    fun (star, i) hmem => isFirst_iff (List.mk_mem_zipIdx_iff_getElem?.mp hmem)
  rw [firstPlaces, ← List.filter_congr hfirst, StarRoll.firsts]
  change ((stars.zipIdx.map _).filter _).map _ = _
  rw [List.filter_map, List.map_map]
  rfl

/-- What the lines of a text tell about a map and its compilation. Each first star has a line with
its id, and each hyperlane one with what its ends come to, both in their order. Nothing follows the
last brace, not even a line end. -/
structure LinesTell (m : GalaxyMap) (c : Compilation) (text : String) : Prop where
  systems : (linesFrom "\tsystem = " text).length = c.stats.systems
  ids : List.Forall₂
    (fun line id => ("\tsystem = \x7b id = \"" ++ toString id ++ "\" ").toList <+: line.toList)
    (linesFrom "\tsystem = " text) (firstPlaces m.stars)
  hyperlanes : (linesFrom "\tadd_hyperlane = " text).length = m.hyperlanes.length ∧
    m.hyperlanes.length = c.stats.hyperlanes
  ends : List.Forall₂
    (fun line link => ∃ source first target second,
      EndResolved m c.scenario.systems link.first source first ∧
        EndResolved m c.scenario.systems link.second target second ∧
        line = "\tadd_hyperlane = \x7b from = \"" ++ first ++ "\" to = \"" ++ second ++ "\" \x7d")
    (linesFrom "\tadd_hyperlane = " text) m.hyperlanes
  order : ∀ (i j : Nat) (line lane : String), (lines text)[i]? = some line →
    (lines text)[j]? = some lane → "\tsystem = ".toList <+: line.toList →
    "\tadd_hyperlane = ".toList <+: lane.toList → i < j
  ending : (lines text).getLast? = some "\x7d"

/-- The lines of the script of a map are as many as the counts of its compilation say, and they tell
of the first stars and of the hyperlanes in their order. -/
theorem compile_linesTell (m : GalaxyMap) (config : Config) (hname : '\n' ∉ config.name.toList)
    (hshapes : ∀ shape ∈ config.shapes, '\n' ∉ shape.toList)
    (hvariable : '\n' ∉ config.leaderAgeVariable.toList) :
    LinesTell m (m.compile config) (m.compile config).script := by
  have hflags : ∀ s ∈ (m.compile config).scenario.systems, ∀ flag ∈ s.flags, '\n' ∉ flag.toList :=
    fun s hs flag hflag hmem => absurd (isFlagChar_of_mem_flags hs hflag _ hmem) (by decide)
  have hlines : ∀ kind : Script.LineKind, linesFrom kind.start (m.compile config).script =
      (m.compile config).scenario.linesOf kind := by
    intro kind
    have hheader := Script.linesFrom_header kind hname hshapes
    rw [Compilation.script, Scenario.linesFrom_script_of_newline_notMem kind hvariable hflags]
    change linesFrom kind.start (Script.header config) ++ _ = _
    rw [hheader, List.nil_append]
  have hsystems : linesFrom "\tsystem = " (m.compile config).script =
      (m.compile config).scenario.systems.map (Script.system config.leaderAgeVariable) :=
    hlines .system
  have hlanes : linesFrom "\tadd_hyperlane = " (m.compile config).script =
      (m.hyperlanes.map (resolve m.roll.ids)).map Script.hyperlane := hlines .hyperlane
  have hscript := (m.compile config).scenario.script_eq_front_append_back
  constructor
  case systems =>
    rw [hsystems, List.length_map]
    rfl
  case ids =>
    -- The id of a system is the place of its star, so lines and places come from one list.
    rw [hsystems, ← map_index_firsts, List.forall₂_map_left_iff]
    change List.Forall₂ _ (m.roll.firsts.map _) (m.roll.firsts.map _)
    rw [List.forall₂_map_left_iff, List.forall₂_map_right_iff, List.forall₂_same]
    intro star _
    simp [Script.system, Script.braced, system]
  case hyperlanes =>
    rw [hlanes, List.length_map, List.length_map]
    exact ⟨rfl, (List.length_map _).symm⟩
  case ends =>
    rw [hlanes, List.forall₂_map_left_iff, List.forall₂_map_left_iff, List.forall₂_same]
    intro link _
    exact ⟨_, _, _, _, endResolved_id? m config link.first,
      endResolved_id? m config link.second, Script.lane_eq _ _⟩
  case order =>
    -- The blank line after the systems parts the script so that each kind is on one side only.
    intro i j line lane hi hj hline hlane
    rw [Compilation.script, hscript] at hi hj
    have hheader := Script.linesFrom_header .hyperlane hname hshapes
    have hfront := Scenario.linesFrom_front hvariable hflags hheader
    exact lt_of_getElem?_lines Script.LineKind.system.start_ne_empty hfront
      (Scenario.linesFrom_back _) hi hj hline hlane
  case ending =>
    rw [Compilation.script, hscript, Scenario.back, ← String.append_assoc, ← String.append_assoc,
      lines_append_gap]
    simp [lines, Script.closing, List.splitOn_eq_singleton]

/-- Stars that share a position and a shape that looks like a system do not add lines of systems. -/
theorem compile_linesTell_likeSystem :
    let config : Config :=
      { name := "Two ", shapes := ["ring", "\tsystem = "], leaderAgeVariable := "an age" }
    let m : GalaxyMap :=
      { stars := [⟨-0.0, 5.0⟩, ⟨0.0, 5.0⟩, ⟨1.0, 2.5⟩]
        hyperlanes := [⟨⟨0.0, 5.0⟩, ⟨1.0, 2.5⟩⟩, ⟨⟨7.0, 7.0⟩, ⟨0.0, 5.0⟩⟩] }
    '\n' ∉ config.name.toList ∧ (∀ shape ∈ config.shapes, '\n' ∉ shape.toList) ∧
      '\n' ∉ config.leaderAgeVariable.toList ∧
      LinesTell m (m.compile config) (m.compile config).script := by
  intro config m
  have hname : '\n' ∉ config.name.toList := by simp [config]
  have hshapes : ∀ shape ∈ config.shapes, '\n' ∉ shape.toList := by simp [config]
  have hvariable : '\n' ∉ config.leaderAgeVariable.toList := by simp [config]
  exact ⟨hname, hshapes, hvariable, compile_linesTell m config hname hshapes hvariable⟩

end GalaxyMap
end GalaxyScenario
