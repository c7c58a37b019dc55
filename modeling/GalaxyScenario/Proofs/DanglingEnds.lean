import GalaxyScenario.Proofs.CompiledLines
import GalaxyScenario.Proofs.FindingMessages

/-! Ends of links that are no star. The findings and the compilation look for them separately, each
with an index of its own. They agree: an end is reported exactly where the script says `undefined`
between quotation marks, and a map has no errors exactly when every end has a system. -/
namespace GalaxyScenario

inductive LinkEnd where
  | first | second
  deriving DecidableEq

namespace LinkEnd

def all : List LinkEnd := [.first, .second]

def point : LinkEnd → Link → Point
  | .first => Link.first
  | .second => Link.second

def id? : LinkEnd → Hyperlane → Option Nat
  | .first => Hyperlane.source
  | .second => Hyperlane.target

/-- What the line of a hyperlane says of an end: the text in its first pair of quotation marks, or
in its second. -/
def written? (e : LinkEnd) (line : String) : Option String :=
  ((line.toList.splitOn '"').map String.ofList)[match e with | .first => 1 | .second => 3]?

/-- The ends with some property, each with the index of its link. -/
def positions {α : Type} (p : LinkEnd → α → Bool) (links : List α) : List (Nat × LinkEnd) :=
  links.zipIdx.flatMap fun (link, i) => (all.filter (p · link)).map (i, ·)

theorem id?_resolve (e : LinkEnd) (ids : StarIndex) (link : Link) :
    e.id? (GalaxyMap.resolve ids link) = ids.id? (e.point link) := by
  cases e <;> rfl

theorem positions_map {α β : Type} (p : LinkEnd → β → Bool) (f : α → β) (links : List α) :
    positions p (links.map f) = positions (fun e link => p e (f link)) links := by
  simp [positions, List.zipIdx_map, List.flatMap_map]

theorem positions_eq_nil_iff {α : Type} {p : LinkEnd → α → Bool} {links : List α} :
    positions p links = [] ↔ ∀ link ∈ links, ∀ e, p e link = false := by
  have hall : ∀ q : LinkEnd → Prop, (∀ e ∈ all, q e) ↔ ∀ e, q e :=
    fun q => ⟨fun h e => by cases e <;> exact h _ (by simp [all]), fun h e _ => h e⟩
  conv_rhs => rw [← List.zipIdx_map_fst 0 links, List.forall_mem_map]
  simp [positions, List.flatMap_eq_nil_iff, List.filter_eq_nil_iff, hall]

end LinkEnd

theorem forall₂_flatMap {α β γ : Type} {R : β → γ → Prop} {f : α → List β} {g : α → List γ}
    {l : List α} (h : ∀ a ∈ l, List.Forall₂ R (f a) (g a)) :
    List.Forall₂ R (l.flatMap f) (l.flatMap g) := by
  induction l with
  | nil => exact .nil
  | cons a rest ih =>
    rw [List.forall_mem_cons] at h
    exact List.rel_append h.1 (ih h.2)

namespace Script

/-- No number is written like an end without a star. -/
theorem laneEnd_eq_unresolved_iff {id : Option Nat} : laneEnd id = unresolved ↔ id = none := by
  cases id with
  | none => simp [laneEnd]
  | some i =>
    have hletter : 'u' ∉ (toString i).toList := by
      rw [Nat.toString_eq_repr, Nat.toList_repr]
      exact Decimal.notMem_toDigits (by decide) i
    simp only [laneEnd, reduceCtorEq, iff_false]
    intro h
    exact hletter (by simp [h, unresolved])

theorem quote_notMem_laneEnd (id : Option Nat) : '"' ∉ (laneEnd id).toList := by
  cases id with
  | none => simp [laneEnd, unresolved]
  | some i => simpa [laneEnd] using Decimal.notMem_toDigits (by decide) i

end Script

theorem LinkEnd.written?_hyperlane (e : LinkEnd) (lane : Hyperlane) :
    e.written? (Script.hyperlane lane) = some (Script.laneEnd (e.id? lane)) := by
  have hquote := Script.quote_notMem_laneEnd
  have hline : (Script.hyperlane lane).toList =
      "\tadd_hyperlane = \x7b from = ".toList ++ '"' :: ((Script.laneEnd lane.source).toList ++
        '"' :: (" to = ".toList ++ '"' :: ((Script.laneEnd lane.target).toList ++
          '"' :: " \x7d".toList))) := by
    simp [Script.hyperlane, Script.braced]
  have hpieces : (Script.hyperlane lane).toList.splitOn '"' =
      ["\tadd_hyperlane = \x7b from = ".toList, (Script.laneEnd lane.source).toList,
        " to = ".toList, (Script.laneEnd lane.target).toList, " \x7d".toList] := by
    simp only [hline, List.splitOn_append_cons_self, List.splitOn_eq_singleton (hquote _)]
    rw [List.splitOn_eq_singleton (by simp), List.splitOn_eq_singleton (by simp),
      List.splitOn_eq_singleton (by simp)]
    rfl
  cases e <;> simp [written?, hpieces, id?]

/-- A line that adds a hyperlane and says something of both ends. -/
def IsLane (line : String) : Prop := ∃ first second,
  line = "\tadd_hyperlane = \x7b from = \"" ++ first ++ "\" to = \"" ++ second ++ "\" \x7d" ∧
    LinkEnd.first.written? line = some first ∧ LinkEnd.second.written? line = some second

theorem isLane_hyperlane (lane : Hyperlane) : IsLane (Script.hyperlane lane) :=
  ⟨_, _, Script.lane_eq _ _, LinkEnd.written?_hyperlane .first lane,
    LinkEnd.written?_hyperlane .second lane⟩

/-- The ends that lines of hyperlanes leave undefined. -/
def undefinedEnds (lanes : List String) : List (Nat × LinkEnd) :=
  LinkEnd.positions (fun e line => e.written? line == some "undefined") lanes

theorem undefinedEnds_map_hyperlane (lanes : List Hyperlane) :
    undefinedEnds (lanes.map Script.hyperlane) =
      LinkEnd.positions (fun e lane => (e.id? lane).isNone) lanes := by
  have hmissing : ∀ id : Option Nat,
      (some (Script.laneEnd id) == some "undefined") = id.isNone := by
    intro id
    rw [Bool.eq_iff_iff, beq_iff_eq, Option.isNone_iff_eq_none, Option.some_inj]
    exact Script.laneEnd_eq_unresolved_iff
  simp only [undefinedEnds, LinkEnd.positions_map, LinkEnd.written?_hyperlane, hmissing]

/-- The lines of hyperlanes stand before the empty line and the brace at the end of a script. -/
theorem Scenario.exists_lines_script (s : Scenario) : ∃ front,
    Text.lines s.script = front ++ s.hyperlanes.map Script.hyperlane ++ ["", "\x7d"] := by
  have hclosing : Text.lines Script.closing = ["\x7d"] := by
    simp [Text.lines, Script.closing, List.splitOn_eq_singleton]
  rw [script_eq_front_append_back, back, Text.lines_append_gap, Text.lines_append_gap, hclosing]
  by_cases hnone : s.hyperlanes = []
  · -- The section is empty and still has a line of its own.
    refine ⟨Text.lines s.front ++ ["", ""], ?_⟩
    simp [hnone, Script.joinLines, Text.lines]
  · refine ⟨Text.lines s.front ++ [""], ?_⟩
    rw [Text.lines_joinLines (by simpa using hnone)
      (List.forall_mem_map.mpr fun lane _ => Script.newline_notMem_hyperlane lane)]
    simp

namespace GalaxyMap

/-- The ends that are no star, with the keys by which they are reported. -/
theorem forall₂_danglingEnds (ids : StarIndex) (links : List Link) :
    List.Forall₂ (fun position dangling => ∃ link, links[position.1]? = some link ∧
        dangling = (position.1, (position.2.point link).key))
      (LinkEnd.positions (fun e link => (ids.id? (e.point link)).isNone) links)
      (danglingEnds ids links) := by
  apply forall₂_flatMap
  rintro ⟨link, i⟩ hlink
  rw [List.mk_mem_zipIdx_iff_getElem?] at hlink
  cases hfirst : ids.id? link.first <;> cases hsecond : ids.id? link.second <;>
    simp_all [LinkEnd.all, LinkEnd.point, StarIndex.id?]

theorem danglingEnds_eq_nil_iff {ids : StarIndex} {links : List Link} :
    danglingEnds ids links = [] ↔
      ∀ link ∈ links, ∀ e : LinkEnd, (ids.id? (e.point link)).isSome := by
  have hlength := (forall₂_danglingEnds ids links).length_eq
  rw [← List.length_eq_zero_iff, ← hlength, List.length_eq_zero_iff, LinkEnd.positions_eq_nil_iff]
  simp

/-- A key has an id exactly when one of the systems owns it. -/
theorem isSome_id?_iff {m : GalaxyMap} {p : Point} (config : Config) :
    (m.roll.ids.id? p).isSome ↔
      ∃ s ∈ (m.compile config).scenario.systems, m.ownedKey? s = some p.key := by
  rw [Option.isSome_iff_exists]
  constructor
  · rintro ⟨i, hid⟩
    obtain ⟨s, honly, howned⟩ := filter_compile_systems_of_id? hid config
    exact ⟨s, (List.mem_filter.mp (honly ▸ List.mem_singleton_self s)).1, howned⟩
  · rintro ⟨s, -, howned⟩
    obtain ⟨star, hstar, hkey⟩ := Option.map_eq_some_iff.mp howned
    rw [← Option.ne_none_iff_exists', roll, StarRoll.ids_ofStars]
    intro hnone
    exact StarIndex.idOfKey?_ofStars_eq_none.mp hnone star (List.mem_of_getElem? hstar) hkey

/-- The reported ends of hyperlanes are, one by one, those that the script leaves undefined in the
lines of the hyperlanes, by the place of the hyperlane and the key of the end. There are no errors
exactly when every end of a hyperlane is resolved and every end of a wormhole has its system. -/
theorem findings_agree_with_compile (m : GalaxyMap) (config : Config) :
    (∃ front lanes : List String,
      Text.lines (m.compile config).script = front ++ lanes ++ ["", "\x7d"] ∧
        lanes.length = m.hyperlanes.length ∧ (∀ line ∈ lanes, IsLane line) ∧
        List.Forall₂ (fun position f => ∃ link, m.hyperlanes[position.1]? = some link ∧
            f.Says "dangling_connection" [position.1] [(position.2.point link).key])
          (undefinedEnds lanes) (Finding.ofCategory "dangling_connection" (m.findings config))) ∧
    (hasErrors (m.findings config) = false ↔
      (∀ lane ∈ (m.compile config).scenario.hyperlanes, ∀ e : LinkEnd, (e.id? lane).isSome) ∧
        ∀ pair ∈ m.wormholes, ∀ e : LinkEnd, ∃ s ∈ (m.compile config).scenario.systems,
          m.ownedKey? s = some (e.point pair).key) := by
  have hids : StarIndex.ofStars m.stars = m.roll.ids := (StarRoll.ids_ofStars m.stars).symm
  have hlanes :
      (m.compile config).scenario.hyperlanes = m.hyperlanes.map (resolve m.roll.ids) := rfl
  constructor
  · obtain ⟨front, hlines⟩ := (m.compile config).scenario.exists_lines_script
    refine ⟨front, _, hlines, ?_, ?_, ?_⟩
    · rw [List.length_map, hlanes, List.length_map]
    · exact List.forall_mem_map.mpr fun lane _ => isLane_hyperlane lane
    · rw [undefinedEnds_map_hyperlane, hlanes, LinkEnd.positions_map,
        ofCategory_dangling_connection, danglingHyperlanes, hids, List.forall₂_map_right_iff]
      simp only [LinkEnd.id?_resolve]
      refine (forall₂_danglingEnds m.roll.ids m.hyperlanes).imp ?_
      rintro position dangling ⟨link, hlink, rfl⟩
      exact ⟨link, hlink, Finding.says_danglingHyperlane _ _⟩
  · rw [hasErrors_findings_eq_false_iff, danglingHyperlanes, danglingWormholes, hids,
      List.map_eq_nil_iff, List.map_eq_nil_iff, danglingEnds_eq_nil_iff, danglingEnds_eq_nil_iff,
      hlanes, List.forall_mem_map]
    simp only [LinkEnd.id?_resolve, isSome_id?_iff config]

end GalaxyMap
end GalaxyScenario
