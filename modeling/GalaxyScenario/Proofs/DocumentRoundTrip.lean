import GalaxyScenario.Config.Document
import GalaxyScenario.GalaxyMap.Document
import GalaxyScenario.Proofs.Json.WholeNumber

/-! What is written of a map or of a configuration is read as it was. Every part of a document
stands for what is read from it, and a record stands for what its members stand for. -/
namespace GalaxyScenario

namespace Json

theorem mapM_map_eq_some {α β : Type} {f : β → Option α} {g : α → β} {as : List α}
    (h : ∀ a ∈ as, f (g a) = some a) : (as.map g).mapM f = some as := by
  induction as with
  | nil => rfl
  | cons a as ih =>
    simp [h a List.mem_cons_self, ih fun b hb => h b (List.mem_cons_of_mem a hb)]

theorem wellSpelled_array {items : List Json} (h : ∀ item ∈ items, item.WellSpelled) :
    (Json.array items).WellSpelled := by
  rw [WellSpelled]
  induction items with
  | nil => trivial
  | cons item items ih =>
    exact ⟨h item List.mem_cons_self,
      ih fun other hother => h other (List.mem_cons_of_mem _ hother)⟩

theorem wellSpelled_ofMembers {members : List (String × Json)}
    (h : ∀ member ∈ members, member.2.WellSpelled) : (ofMembers members).WellSpelled := by
  rw [ofMembers, WellSpelled]
  induction members with
  | nil => trivial
  | cons member members ih =>
    exact ⟨⟨_, rfl⟩, h member List.mem_cons_self,
      ih fun other hother => h other (List.mem_cons_of_mem _ hother)⟩

/-- The members that are written, each under its name, are the fields that are read. -/
theorem fields?_ofMembers {names : List String} {members : Fields}
    (hnames : members.map (·.1) = names) (hnodup : names.Nodup) :
    (ofMembers members).fields? names = some members := by
  have hknown : members.filter (fun member => names.contains member.1) = members := by
    refine List.filter_eq_self.mpr fun member hmember => List.contains_iff_mem.mpr ?_
    rw [← hnames]
    exact List.mem_map_of_mem hmember
  rw [ofMembers, fields?, mapM_map_eq_some]
  · simp only [Option.bind_eq_bind, Option.bind_some]
    rw [hknown, if_pos (hnames ▸ hnodup)]
  · intro member _
    simp [bodyText?, Quoted.decode?_encode]

theorem Fields.lookup_eq_some {fields : Fields} (hnodup : (fields.map (·.1)).Nodup) {name : String}
    {value : Json} (h : (name, value) ∈ fields) : fields.lookup name = some value := by
  induction fields with
  | nil => cases h
  | cons field fields ih =>
    rw [List.map_cons, List.nodup_cons] at hnodup
    rcases List.mem_cons.mp h with rfl | hmem
    · exact List.lookup_cons_self
    · have hother : (name == field.1) = false := beq_eq_false_iff_ne.mpr fun heq =>
        hnodup.1 (heq ▸ List.mem_map_of_mem hmem)
      rw [List.lookup_cons, hother]
      exact ih hnodup.2 hmem

/-- The value follows the grammar of its text, and `a` is read from it. -/
structure StandsFor {α : Type} (read : Json → Option α) (j : Json) (a : α) : Prop where
  wellSpelled : j.WellSpelled
  read_eq : read j = some a

/-- A field that is given is read, whatever its default. -/
theorem StandsFor.getD?_eq {α : Type} {read : Json → Option α} {j : Json} {a : α}
    (h : StandsFor read j a) {fields : Fields} {name : String}
    (hnodup : (fields.map (·.1)).Nodup) (hmem : (name, j) ∈ fields) (default : α) :
    fields.getD? name read default = some a := by
  rw [Fields.getD?, Fields.lookup_eq_some hnodup hmem]
  exact h.read_eq

theorem StandsFor.readDocument_text {α : Type} {read : Json → Option α} {j : Json} {a : α}
    (h : StandsFor read j a) : readDocument read j.text = .ok a := by
  rw [readDocument, parse?_text h.wellSpelled, Option.bind_some, h.read_eq]

theorem standsFor_ofFloat {x : Float} (h : SmallWhole x) : StandsFor toFloat? (ofFloat x) x :=
  ⟨wellSpelled_ofFloat h, toFloat?_ofFloat h⟩

theorem standsFor_bool (b : Bool) : StandsFor toBool? (.bool b) b := ⟨trivial, rfl⟩

theorem standsFor_ofString (text : String) : StandsFor toText? (ofString text) text where
  wellSpelled := ⟨_, rfl⟩
  read_eq := by simp [ofString, toText?, bodyText?, Quoted.decode?_encode]

theorem standsFor_ofNat (n : UInt32) : StandsFor toUInt32? (ofNat n.toNat) n := by
  have hplaces : Positional ⟨n.toNat, 0⟩ (Decimal.digitList n.toNat) [] := by
    simpa using positional_above (n := n.toNat) (le_refl 0)
  have hchars : Layout.sign false ++ withPoint (Decimal.digitList n.toNat) [] =
      Decimal.digitList n.toNat := List.append_nil _
  have hspelling := isSpelling_withPoint hplaces (Or.inr le_rfl) false
  have hnumber := Number.ofChars?_withPoint hplaces (Or.inr le_rfl) false
  rw [hchars] at hspelling hnumber
  refine ⟨hspelling, ?_⟩
  rw [ofNat, toUInt32?, hnumber, Option.bind_some, Number.toUInt32?]
  simp [Numeral.digitsValue_digitList, n.toNat_lt_size]

theorem standsFor_array {α : Type} {read : Json → Option α} {write : α → Json} {as : List α}
    (h : ∀ a ∈ as, StandsFor read (write a) a) :
    StandsFor (toListOf? read) (.array (as.map write)) as where
  wellSpelled := by
    refine wellSpelled_array fun item hitem => ?_
    obtain ⟨a, ha, rfl⟩ := List.mem_map.mp hitem
    exact (h a ha).wellSpelled
  read_eq := mapM_map_eq_some fun a ha => (h a ha).read_eq

theorem standsFor_pair {α β : Type} {item : Json → Option α} {j k : Json} {a b : α}
    (read : α → α → β) (hj : StandsFor item j a) (hk : StandsFor item k b) :
    StandsFor (toPairOf? read item) (.array [j, k]) (read a b) where
  wellSpelled := wellSpelled_array (by simp [hj.wellSpelled, hk.wellSpelled])
  read_eq := by simp [toPairOf?, hj.read_eq, hk.read_eq]

end Json

open Json Binary64

/-- Both coordinates are small whole numbers. -/
structure Point.Whole (p : Point) : Prop where
  x : SmallWhole p.x
  y : SmallWhole p.y

structure Link.Whole (link : Link) : Prop where
  first : link.first.Whole
  second : link.second.Whole

/-- All positions on the map are pairs of small whole numbers. -/
structure GalaxyMap.Whole (m : GalaxyMap) : Prop where
  stars : ∀ star ∈ m.stars, star.Whole
  hyperlanes : ∀ link ∈ m.hyperlanes, link.Whole
  wormholes : ∀ link ∈ m.wormholes, link.Whole

/-- The canvas and the empty circle have small whole measures. -/
structure Config.Whole (c : Config) : Prop where
  width : SmallWhole c.width
  height : SmallWhole c.height
  spawnRadius : SmallWhole c.spawnRadius

theorem Point.standsFor_toJson {p : Point} (h : p.Whole) : StandsFor Point.ofJson? p.toJson p :=
  standsFor_pair Point.mk (standsFor_ofFloat h.x) (standsFor_ofFloat h.y)

theorem Link.standsFor_toJson {link : Link} (h : link.Whole) :
    StandsFor Link.ofJson? link.toJson link :=
  standsFor_pair Link.mk (Point.standsFor_toJson h.first) (Point.standsFor_toJson h.second)

namespace GalaxyMap

/-- The keys of a set, in any order, stand for the set. -/
theorem standsFor_keys {keys : List String} {set : KeySet} (h : ∀ key, key ∈ keys ↔ key ∈ set) :
    StandsFor keySet? (.array (keys.map ofString)) set := by
  have hkeys := standsFor_array fun key (_ : key ∈ keys) => standsFor_ofString key
  refine ⟨hkeys.wellSpelled, ?_⟩
  rw [keySet?, hkeys.read_eq, Option.map_some, Option.some.injEq]
  exact Std.ExtTreeSet.ext_mem fun key => KeySet.mem_ofList.trans (h key)

theorem standsFor_toJsonWith {m : GalaxyMap} (hm : m.Whole) {potential preferred : List String}
    (hpotential : ∀ key, key ∈ potential ↔ key ∈ m.potentialHomes)
    (hpreferred : ∀ key, key ∈ preferred ↔ key ∈ m.preferredHomes) :
    StandsFor ofJson? (m.toJsonWith potential preferred) m := by
  have hstars := standsFor_array fun star hstar => Point.standsFor_toJson (hm.stars star hstar)
  have hhyperlanes := standsFor_array fun link hlink =>
    Link.standsFor_toJson (hm.hyperlanes link hlink)
  have hwormholes := standsFor_array fun link hlink =>
    Link.standsFor_toJson (hm.wormholes link hlink)
  have hpotential := standsFor_keys hpotential
  have hpreferred := standsFor_keys hpreferred
  constructor
  · apply wellSpelled_ofMembers
    simp [hstars.wellSpelled, hhyperlanes.wellSpelled, hwormholes.wellSpelled,
      hpotential.wellSpelled, hpreferred.wellSpelled]
  · have hfields : (m.toJsonWith potential preferred).fields? fieldNames = some _ :=
      fields?_ofMembers rfl (by simp [fieldNames])
    -- Each field is found as a member of the list; running the lookup would compare all names.
    rw [ofJson?, hfields, Option.bind_eq_bind, Option.bind_some, hstars.getD?_eq,
      hhyperlanes.getD?_eq, hwormholes.getD?_eq, hpotential.getD?_eq, hpreferred.getD?_eq]
    · rfl
    all_goals simp

end GalaxyMap

namespace Config

theorem standsFor_toJson {c : Config} (hc : c.Whole) : StandsFor ofJson? c.toJson c := by
  have hname := standsFor_ofString c.name
  have hpriority := standsFor_ofNat c.priority
  have hshapes := standsFor_array fun shape (_ : shape ∈ c.shapes) => standsFor_ofString shape
  have hwidth := standsFor_ofFloat hc.width
  have hheight := standsFor_ofFloat hc.height
  have hradius := standsFor_ofFloat hc.spawnRadius
  have hvariable := standsFor_ofString c.leaderAgeVariable
  have hfallback := standsFor_bool c.fallbackHomes
  constructor
  · apply wellSpelled_ofMembers
    simp [hname.wellSpelled, hpriority.wellSpelled, hshapes.wellSpelled, hwidth.wellSpelled,
      hheight.wellSpelled, hradius.wellSpelled, hvariable.wellSpelled, hfallback.wellSpelled]
  · have hfields : c.toJson.fields? fieldNames = some _ :=
      fields?_ofMembers rfl (by simp [fieldNames])
    rw [ofJson?, hfields]
    simp only [Option.bind_eq_bind, Option.bind_some]
    rw [hname.getD?_eq, hpriority.getD?_eq, hshapes.getD?_eq, hwidth.getD?_eq, hheight.getD?_eq,
      hradius.getD?_eq, hvariable.getD?_eq, hfallback.getD?_eq]
    · rfl
    all_goals simp

end Config

/-- A map of small whole positions is read as it was, in whatever order its home keys are written,
and so is a configuration of small whole measures. The texts in both are free. -/
theorem documents_roundTrip :
    (∀ (m : GalaxyMap) (potential preferred : List String), m.Whole →
      (∀ key, key ∈ potential ↔ key ∈ m.potentialHomes) →
      (∀ key, key ∈ preferred ↔ key ∈ m.preferredHomes) →
      GalaxyMap.ofText (m.toJsonWith potential preferred).text = .ok m) ∧
    (∀ c : Config, c.Whole → Config.ofText c.toJson.text = .ok c) :=
  ⟨fun _ _ _ hm hpotential hpreferred =>
      (GalaxyMap.standsFor_toJsonWith hm hpotential hpreferred).readDocument_text,
    fun _ hc => (Config.standsFor_toJson hc).readDocument_text⟩

/-- A zero with a sign, keys with quotes and control characters, and a key of no star. -/
theorem documents_roundTrip_escapes :
    let m : GalaxyMap :=
      { stars := [⟨-0.0, 250.0⟩, ⟨562949953421312.0, -7.0⟩]
        wormholes := [⟨⟨-0.0, 250.0⟩, ⟨0.0, 0.0⟩⟩]
        potentialHomes := .ofList ["0,250", "a \"quoted\" key", "tab\t, \x01 and \\"] }
    let c : Config := { name := "\"", priority := 4294967295, shapes := [], spawnRadius := -0.0 }
    GalaxyMap.ofText
        (m.toJsonWith ["tab\t, \x01 and \\", "0,250", "a \"quoted\" key"] []).text = .ok m ∧
      Config.ofText c.toJson.text = .ok c := by
  intro m c
  have hzero : SmallWhole (-0.0) :=
    ⟨_, isWhole_of_units true 0 (by decide +kernel), by decide⟩
  have hplus : SmallWhole 0.0 := ⟨0, isWhole_zero, by decide⟩
  have hinner : SmallWhole 250.0 := ⟨_, isWhole_of_units false 250 (by decide +kernel), by decide⟩
  have hfar : SmallWhole 562949953421312.0 :=
    ⟨_, isWhole_of_units false (2 ^ 49) (by decide +kernel), by decide⟩
  have hseven : SmallWhole (-7.0) := ⟨_, isWhole_of_units true 7 (by decide +kernel), by decide⟩
  have hcanvas : SmallWhole canvasExtent :=
    ⟨_, isWhole_of_units false 900 (by decide +kernel), by decide⟩
  have hm : m.Whole := by
    refine ⟨?_, ?_, ?_⟩
    · simpa [m] using ⟨⟨hzero, hinner⟩, ⟨hfar, hseven⟩⟩
    · simp [m]
    · simpa [m] using ⟨⟨hzero, hinner⟩, ⟨hplus, hplus⟩⟩
  refine ⟨documents_roundTrip.1 m _ _ hm ?_ ?_, documents_roundTrip.2 c ⟨hcanvas, hcanvas, hzero⟩⟩
  · intro key
    simp [m]
    tauto
  · simp [m]

end GalaxyScenario
