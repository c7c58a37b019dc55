import GalaxyScenario.Proofs.StarIdentity
import GalaxyScenario.Script

/-! The lines of a script. The lines on the capacity, on systems and on hyperlanes begin each in
their own way, so they can be picked out of a script whatever stands between them. For this no line
may be broken in two: numbers never are, and systems are not if the variable and the flags are
single words, or at least single lines. -/
namespace GalaxyScenario

namespace Text

/-- The lines of a text, without their line ends. -/
def lines (text : String) : List String := (text.toList.splitOn '\n').map String.ofList

/-- The lines of a text that begin in a given way. -/
def linesFrom (start text : String) : List String :=
  (lines text).filter fun line => start.toList.isPrefixOf line.toList

/-- A text without white space. -/
def Unbroken (text : String) : Prop := ∀ c ∈ text.toList, isBlank c = false

theorem Unbroken.notMem {text : String} (h : Unbroken text) {c : Char} (hc : isBlank c = true) :
    c ∉ text.toList := by
  intro hmem
  rw [h c hmem] at hc
  cases hc

theorem lines_append (a b : String) : lines (a ++ "\n" ++ b) = lines a ++ lines b := by
  simp [lines, List.splitOn_append_cons_self]

/-- Two line ends leave an empty line between two texts. -/
theorem lines_append_gap (a b : String) : lines (a ++ "\n\n" ++ b) = lines a ++ "" :: lines b := by
  have htwo : a ++ "\n\n" ++ b = a ++ "\n" ++ ("" ++ "\n" ++ b) := by
    simp [← String.toList_inj]
  rw [htwo, lines_append, lines_append]
  rfl

theorem lines_joinLines {texts : List String} (hne : texts ≠ [])
    (htexts : ∀ text ∈ texts, '\n' ∉ text.toList) : lines (Script.joinLines texts) = texts := by
  have hsplit : (['\n'].intercalate (texts.map String.toList)).splitOn '\n' =
      texts.map String.toList :=
    List.splitOn_intercalate '\n' (by simpa using htexts) (by simpa using hne)
  simp [lines, Script.joinLines, hsplit, Function.comp_def]

variable {start : String}

theorem linesFrom_append (a b : String) :
    linesFrom start (a ++ "\n" ++ b) = linesFrom start a ++ linesFrom start b := by
  simp only [linesFrom, lines_append, List.filter_append]

theorem linesFrom_of_notMem {line : String} (h : '\n' ∉ line.toList) :
    linesFrom start line = if start.toList.isPrefixOf line.toList then [line] else [] := by
  simp [linesFrom, lines, List.splitOn_eq_singleton h, List.filter_singleton]

theorem linesFrom_empty (h : start ≠ "") : linesFrom start "" = [] := by
  rw [linesFrom_of_notMem (by simp), if_neg]
  cases hs : start.toList with
  | nil => exact absurd (String.toList_eq_nil_iff.mp hs) h
  | cons c rest => simp

/-- The blank line between two texts begins in no given way. -/
theorem linesFrom_append_gap (h : start ≠ "") (a b : String) :
    linesFrom start (a ++ "\n\n" ++ b) = linesFrom start a ++ linesFrom start b := by
  have hblank : [""].filter (fun line => start.toList.isPrefixOf line.toList) = [] :=
    linesFrom_empty h
  rw [linesFrom, lines_append_gap, List.append_cons, List.filter_append, List.filter_append, hblank,
    List.append_nil, linesFrom, linesFrom]

theorem linesFrom_intercalate {separator : String} (h : start ≠ "")
    (happend : ∀ a b, linesFrom start (a ++ separator ++ b) =
      linesFrom start a ++ linesFrom start b) (texts : List String) :
    linesFrom start (separator.intercalate texts) = texts.flatMap (linesFrom start) := by
  induction texts with
  | nil => exact linesFrom_empty h
  | cons text rest ih =>
    cases rest with
    | nil => simp
    | cons next rest =>
      rw [String.intercalate_cons_cons, happend, ih]
      rfl

theorem linesFrom_joinLines (h : start ≠ "") (texts : List String) :
    linesFrom start (Script.joinLines texts) = texts.flatMap (linesFrom start) :=
  linesFrom_intercalate h linesFrom_append texts

end Text

namespace Layout

variable {P : Char → Prop}

theorem forall_mem_placePoint (hzero : P '0') (hpoint : P '.') {digits : List Char}
    (hdigits : ∀ c ∈ digits, P c) (wholePoint : Bool) (point : Int) :
    ∀ c ∈ placePoint wholePoint digits point, P c := by
  have htake := fun c (hc : c ∈ digits.take point.toNat) => hdigits c (List.mem_of_mem_take hc)
  have hdrop := fun c (hc : c ∈ digits.drop point.toNat) => hdigits c (List.mem_of_mem_drop hc)
  unfold placePoint
  split_ifs <;> simp +contextual [or_imp, hzero, hpoint, hdigits, htake, hdrop]

theorem forall_mem_scientific (hother : ∀ c ∈ ['-', '+', '.', 'e'], P c) {digits : List Char}
    (hdigits : ∀ c ∈ digits, P c) (hpower : ∀ n, ∀ c ∈ Decimal.digitList n, P c) (plusSign : Bool)
    (power : Int) : ∀ c ∈ scientific plusSign digits power, P c := by
  have htake := fun c (hc : c ∈ digits.take 1) => hdigits c (List.mem_of_mem_take hc)
  have hdrop := fun c (hc : c ∈ digits.drop 1) => hdigits c (List.mem_of_mem_drop hc)
  simp only [List.forall_mem_cons] at hother
  unfold scientific
  split_ifs <;> simp +contextual [or_imp, hother, htake, hdrop, hpower power.natAbs]

/-- What holds of digits and of the other characters of numbers holds of all that is written. -/
theorem forall_mem_chars (hdigit : ∀ c, c.isDigit = true → P c)
    (hother : ∀ c ∈ ['-', '+', '.', 'e', 'N', 'a', 'i', 'n', 'f'], P c) (l : Layout) (x : Float) :
    ∀ c ∈ l.chars x, P c := by
  have hdigits : ∀ n, ∀ c ∈ Decimal.digitList n, P c :=
    fun n c hc => hdigit c (Decimal.isDigit_of_mem_digitList hc)
  have hsign : ∀ negative, ∀ c ∈ sign negative, P c := by
    intro negative c hc
    cases negative <;> simp_all [sign]
  have hdecimal : ∀ d, ∀ c ∈ l.decimal d, P c := by
    intro d
    simp only [decimal]
    split
    · exact forall_mem_placePoint (hdigit '0' (by decide)) (hother '.' (by simp)) (hdigits _) _ _
    · have hsigns : ∀ c ∈ ['-', '+', '.', 'e'], P c :=
        fun c hc => hother c (by simp at hc ⊢; tauto)
      exact forall_mem_scientific hsigns (hdigits _) hdigits _ _
  unfold chars
  split
  · exact fun c hc => hother c (by simp at hc ⊢; tauto)
  · intro c hc
    rcases List.mem_append.mp hc with hc | hc
    · exact hsign _ c hc
    · exact hother c (by simp at hc ⊢; tauto)
  · intro c hc
    rcases List.mem_append.mp hc with hc | hc
    · exact hsign _ c hc
    · exact hdecimal _ c hc

theorem notMem_text {c : Char} (hdigit : c.isDigit = false)
    (hother : c ∉ ['-', '+', '.', 'e', 'N', 'a', 'i', 'n', 'f']) (l : Layout) (x : Float) :
    c ∉ (l.text x).toList := by
  have hne : ∀ d ∈ (l.text x).toList, d ≠ c := by
    rw [text, String.toList_ofList]
    refine l.forall_mem_chars (fun d hd => ?_) (fun d hd => ?_) x
    · rintro rfl
      rw [hd] at hdigit
      cases hdigit
    · rintro rfl
      exact hother hd
  exact fun hmem => hne c hmem rfl

end Layout

namespace Script
open Text

theorem unbroken_text (l : Layout) (x : Float) : Unbroken (l.text x) := by
  have hother : ['-', '+', '.', 'e', 'N', 'a', 'i', 'n', 'f'].all (!isBlank ·) = true := rfl
  rw [Unbroken, Layout.text, String.toList_ofList]
  refine l.forall_mem_chars
    (fun c hc => not_isBlank_of_isNumeralChar (isNumeralChar_of_isDigit hc)) ?_ x
  simpa using hother

@[simp] theorem newline_notMem_toDigits (n : Nat) : '\n' ∉ Nat.toDigits 10 n :=
  Decimal.notMem_toDigits (by decide) n

@[simp] theorem newline_notMem_text (l : Layout) (x : Float) : '\n' ∉ (l.text x).toList :=
  l.notMem_text (by decide) (by decide) x

@[simp] theorem newline_notMem_coordinateText (x : Float) : '\n' ∉ (coordinateText x).toList :=
  newline_notMem_text _ _

inductive LineKind where
  | capacity | system | hyperlane
  deriving DecidableEq

def LineKind.start : LineKind → String
  | .capacity => "\tnum_empire"
  | .system => "\tsystem = "
  | .hyperlane => "\tadd_hyperlane = "

theorem LineKind.start_ne_empty (kind : LineKind) : kind.start ≠ "" := by
  cases kind <;> simp [start]

theorem linesFrom_opening (kind : LineKind) : linesFrom kind.start opening = [] := by
  cases kind <;> simp [LineKind.start, opening, linesFrom_of_notMem]

theorem linesFrom_closing (kind : LineKind) : linesFrom kind.start closing = [] := by
  cases kind <;> simp [LineKind.start, closing, linesFrom_of_notMem]

theorem linesFrom_sections (kind : LineKind) (sections : List String) :
    linesFrom kind.start ("\n\n".intercalate sections) =
      sections.flatMap (linesFrom kind.start) :=
  linesFrom_intercalate kind.start_ne_empty (linesFrom_append_gap kind.start_ne_empty) sections

theorem linesFrom_tier (kind : LineKind) (t : TierSettings) :
    linesFrom kind.start (tier t) = [] := by
  cases kind <;>
    simp [LineKind.start, tier, range, hyperlaneRange, assignment, braced, linesFrom_joinLines,
      linesFrom_of_notMem]

def capacityLines (c : EmpireCapacity) : List String :=
  ["\tnum_empires = " ++ braced ("min = 0 max = " ++ toString c.max.toNat) ++
      "\t#limits player customization",
    "\tnum_empire_default = " ++ toString c.default.toNat]

theorem linesFrom_capacity (kind : LineKind) (c : EmpireCapacity) :
    linesFrom kind.start (capacity c) = if kind = .capacity then capacityLines c else [] := by
  cases kind <;>
    simp [LineKind.start, capacity, capacityLines, braced, linesFrom_joinLines, linesFrom_of_notMem]

theorem intercalate_append_separator {α : Type} (a : α) {parts : List (List α)} (h : parts ≠ []) :
    [a].intercalate parts ++ [a] = parts.flatMap (· ++ [a]) := by
  induction parts with
  | nil => exact absurd rfl h
  | cons part rest ih =>
    cases rest with
    | nil => simp
    | cons next rest => simp [List.intercalate_cons_cons, ih]

/-- The part of the effect clause that sets one flag, with the space after it. -/
def setFlag (flag : String) : String := "set_star_flag = " ++ flag ++ " "

theorem toList_setFlag (flag : String) :
    (setFlag flag).toList = "set_star_flag = ".toList ++ flag.toList ++ [' '] := by
  unfold setFlag
  simp

theorem toList_effect {flags : List String} (h : flags ≠ []) :
    (effect flags).toList =
      "effect = \x7b ".toList ++ flags.flatMap (fun flag => (setFlag flag).toList) ++ ['\x7d'] := by
  have hmap : (flags.map fun flag => ("set_star_flag = " ++ flag).toList) ≠ [] := by simpa using h
  have hbody := intercalate_append_separator ' ' hmap
  have hflat : (flags.map fun flag => ("set_star_flag = " ++ flag).toList).flatMap (· ++ [' ']) =
      flags.flatMap fun flag => (setFlag flag).toList := by
    simp [List.flatMap_map, toList_setFlag]
  rw [hflat] at hbody
  rw [← hbody]
  simp [effect, h, braced, Function.comp_def]

theorem newline_notMem_system {v : String} {s : StarSystem} (hv : '\n' ∉ v.toList)
    (hflags : ∀ flag ∈ s.flags, '\n' ∉ flag.toList) : '\n' ∉ (system v s).toList := by
  have hinitializer : '\n' ∉ (initializer s.directive).toList := by
    unfold initializer
    cases s.directive <;> simp
  have hweight : '\n' ∉ (spawnWeight v s.directive).toList := by
    unfold spawnWeight
    obtain - | ⟨n, - | residue⟩ := s.directive <;> simp [modifier, braced, hv]
  have heffect : '\n' ∉ (effect s.flags).toList := by
    by_cases hnone : s.flags = []
    · simp [hnone, effect]
    · simpa [toList_effect hnone, toList_setFlag] using hflags
  simp [system, braced, hinitializer, hweight, heffect]

theorem linesFrom_system (kind : LineKind) {v : String} {s : StarSystem} (hv : '\n' ∉ v.toList)
    (hflags : ∀ flag ∈ s.flags, '\n' ∉ flag.toList) :
    linesFrom kind.start (system v s) = if kind = .system then [system v s] else [] := by
  rw [linesFrom_of_notMem (newline_notMem_system hv hflags)]
  cases kind <;> simp [LineKind.start, system, braced]

theorem flatMap_linesFrom_system (kind : LineKind) {v : String} {systems : List StarSystem}
    (hv : '\n' ∉ v.toList) (hflags : ∀ s ∈ systems, ∀ flag ∈ s.flags, '\n' ∉ flag.toList) :
    systems.flatMap (linesFrom kind.start ∘ system v) =
      if kind = .system then systems.map (system v) else [] := by
  induction systems with
  | nil => simp
  | cons s rest ih =>
    rw [List.forall_mem_cons] at hflags
    rw [List.flatMap_cons, ih hflags.2, Function.comp_apply, linesFrom_system kind hv hflags.1]
    split <;> rfl

theorem newline_notMem_hyperlane (lane : Hyperlane) : '\n' ∉ (hyperlane lane).toList := by
  have hend : ∀ id, '\n' ∉ (laneEnd id).toList := fun id => by
    cases id <;> simp [laneEnd, unresolved]
  simp [hyperlane, braced, hend]

theorem linesFrom_hyperlane (kind : LineKind) (lane : Hyperlane) :
    linesFrom kind.start (hyperlane lane) = if kind = .hyperlane then [hyperlane lane] else [] := by
  rw [linesFrom_of_notMem (newline_notMem_hyperlane lane)]
  cases kind <;> simp [LineKind.start, hyperlane, braced]

theorem flatMap_linesFrom_hyperlane (kind : LineKind) (lanes : List Hyperlane) :
    lanes.flatMap (linesFrom kind.start ∘ hyperlane) =
      if kind = .hyperlane then lanes.map hyperlane else [] := by
  induction lanes with
  | nil => simp
  | cons lane rest ih =>
    rw [List.flatMap_cons, ih, Function.comp_apply, linesFrom_hyperlane]
    split <;> rfl

end Script

namespace Scenario
open Script Text

def linesOf (s : Scenario) : LineKind → List String
  | .capacity => capacityLines s.capacity
  | .system => s.systems.map (system s.config.leaderAgeVariable)
  | .hyperlane => s.hyperlanes.map hyperlane

/-- The lines of one kind in a script are those of the header, where a painter may write anything,
and then those that tell about the scenario. -/
theorem linesFrom_script_of_newline_notMem (kind : LineKind) {s : Scenario}
    (hvariable : '\n' ∉ s.config.leaderAgeVariable.toList)
    (hflags : ∀ sys ∈ s.systems, ∀ flag ∈ sys.flags, '\n' ∉ flag.toList) :
    linesFrom kind.start s.script =
      linesFrom kind.start (header s.config) ++ s.linesOf kind := by
  have hsystems := flatMap_linesFrom_system kind hvariable hflags
  have hlanes := flatMap_linesFrom_hyperlane kind s.hyperlanes
  rw [script, linesFrom_sections kind]
  simp only [sections, List.flatMap_cons, List.flatMap_nil, linesFrom_opening, linesFrom_closing,
    linesFrom_tier, linesFrom_capacity, linesFrom_joinLines kind.start_ne_empty, List.flatMap_map]
  simp only [Function.comp_def] at hsystems hlanes
  rw [hsystems, hlanes]
  cases kind <;> simp [linesOf]

theorem linesFrom_script (kind : LineKind) {s : Scenario}
    (hvariable : Unbroken s.config.leaderAgeVariable)
    (hflags : ∀ sys ∈ s.systems, ∀ flag ∈ sys.flags, Unbroken flag) :
    linesFrom kind.start s.script =
      linesFrom kind.start (header s.config) ++ s.linesOf kind :=
  linesFrom_script_of_newline_notMem kind (hvariable.notMem (by decide))
    fun sys hsys flag hflag => (hflags sys hsys flag hflag).notMem (by decide)

end Scenario
end GalaxyScenario
