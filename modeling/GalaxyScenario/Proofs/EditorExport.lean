import GalaxyScenario.GalaxyMap.Document
import GalaxyScenario.Proofs.Json.ShortNumber
import GalaxyScenario.Proofs.StarIdentity

/-! A star and its key in one document. The key travels as a text, but the coordinates are read as
numbers of the document, so the star keeps its key exactly when both readings give the doubles that
were written. -/
namespace GalaxyScenario
open Binary64

/-- The map of one star, which is a potential home, as the editor writes it. -/
def exportedStar (p : Point) : String :=
  "\x7b\"stars\":[[" ++ coordinateText p.x ++ "," ++ coordinateText p.y ++
    "]],\"potentialHomeStars\":[\"" ++ p.key ++ "\"]\x7d"

/-- The double that a coordinate is read as where it stands in a document as a number. -/
def readCoordinate? (x : Float) : Option Float :=
  (Json.number (coordinateText x).toList).toFloat?

/-- The coordinate is read as the number it is. -/
def ReadBack (x : Float) : Prop := ∃ y ∈ readCoordinate? x, SameNumber y x

/-- The star is read with its key and is still a potential home. -/
def KeepsHome (p : Point) : Prop :=
  ∃ m star, GalaxyMap.ofText (exportedStar p) = .ok m ∧ m.stars = [star] ∧ star.key = p.key ∧
    m.isPotentialHome star = true

namespace Json.Quoted

theorem encode_eq_self {cs : List Char} (h : ∀ c ∈ cs, encodeChar c = [c]) : encode cs = cs := by
  induction cs with
  | nil => rfl
  | cons c cs ih =>
    rw [encode, List.flatMap_cons, ← encode, h c List.mem_cons_self,
      ih fun d hd => h d (List.mem_cons_of_mem c hd)]
    rfl

theorem encodeChar_of_isNumeralChar {c : Char} (h : isNumeralChar c = true) :
    encodeChar c = [c] := by
  have hcontrol : isControl c = false := by
    rw [isControl, decide_eq_false_iff_not]
    rw [isNumeralChar, Bool.or_eq_true, decide_eq_true_iff] at h
    rcases h with hdigit | hother
    · have hlow : 48 ≤ c.toNat := (Char.isDigit_iff_toNat.mp hdigit).1
      omega
    · simp only [List.mem_cons, List.not_mem_nil, or_false] at hother
      rcases hother with rfl | rfl | rfl | rfl | rfl | rfl | rfl <;> decide
  unfold encodeChar
  split
  case h_8 => rw [if_neg (by rw [hcontrol]; decide)]
  all_goals exact absurd h (by decide)

end Json.Quoted

theorem encode_key (p : Point) : Json.Quoted.encode p.key.toList = p.key.toList :=
  Json.Quoted.encode_eq_self <|
    p.forall_mem_key (fun _ hc => Json.Quoted.encodeChar_of_isNumeralChar hc) rfl

def exportedMembers (p : Point) : Json.Fields :=
  [("stars", .array [.array
      [.number (coordinateText p.x).toList, .number (coordinateText p.y).toList]]),
    ("potentialHomeStars", .array [.ofString p.key])]

theorem text_exportedMembers (p : Point) :
    (Json.ofMembers (exportedMembers p)).text = exportedStar p := by
  apply String.toList_inj.mp
  -- Unfolding by the equation of the definition would evaluate its literals first.
  delta exportedStar
  simp [exportedMembers, Json.text, Json.ofMembers, Json.ofString, Json.chars,
    Json.memberChars, Json.itemChars, Json.quote, encode_key]
  rfl

theorem isFinite_unsignedZero {x : Float} (h : isFinite x = true) :
    isFinite (unsignedZero x) = true := by
  rwa [isFinite, magnitudeBits_unsignedZero]

theorem wellSpelled_exportedMembers {p : Point} (hx : isFinite p.x = true)
    (hy : isFinite p.y = true) : (Json.ofMembers (exportedMembers p)).WellSpelled := by
  have hspelling : ∀ x : Float, isFinite x = true → Json.IsSpelling (coordinateText x).toList := by
    intro x hx
    rw [toList_coordinateText]
    exact Json.isSpelling_chars_plain (isFinite_unsignedZero hx)
  exact ⟨⟨_, rfl⟩, ⟨⟨hspelling _ hx, hspelling _ hy, trivial⟩, trivial⟩, ⟨_, rfl⟩,
    ⟨⟨_, rfl⟩, trivial⟩, trivial⟩

theorem ofJson?_exportedMembers (p : Point) : GalaxyMap.ofJson? (.ofMembers (exportedMembers p)) =
    (readCoordinate? p.x).bind fun x => (readCoordinate? p.y).map fun y =>
      { stars := [⟨x, y⟩], potentialHomes := .ofList [p.key] } := by
  have hfields : (Json.ofMembers (exportedMembers p)).fields? GalaxyMap.fieldNames =
      some (exportedMembers p) := by
    simp [exportedMembers, Json.ofMembers, Json.fields?, Json.bodyText?, Json.Quoted.decode?_encode,
      GalaxyMap.fieldNames]
  have hstars : (exportedMembers p).getD? "stars" (Json.toListOf? Point.ofJson?) [] =
      (readCoordinate? p.x).bind fun x => (readCoordinate? p.y).map fun y => [⟨x, y⟩] := by
    change ((_ : Option Point).bind fun star => (some []).map (star :: ·)) = _
    simp [Point.ofJson?, Json.toPairOf?, readCoordinate?, Option.map_eq_bind, Option.bind_assoc]
  have hhomes : (exportedMembers p).getD? "potentialHomeStars" GalaxyMap.keySet? ∅ =
      some (.ofList [p.key]) := by
    change GalaxyMap.keySet? (.array [.ofString p.key]) = _
    simp [GalaxyMap.keySet?, Json.toListOf?, Json.ofString, Json.toText?, Json.bodyText?,
      Json.Quoted.decode?_encode]
  have hmissing : ∀ {α : Type} (read : Json → Option α) (default : α),
      (exportedMembers p).getD? "connections" read default = some default ∧
      (exportedMembers p).getD? "wormholes" read default = some default ∧
      (exportedMembers p).getD? "preferredHomeStars" read default = some default := fun _ _ =>
    ⟨rfl, rfl, rfl⟩
  simp [GalaxyMap.ofJson?, hfields, hstars, hhomes, hmissing, Option.map_eq_bind, Option.bind_assoc]

/-- What the document is read as depends on its two numbers. -/
theorem ofText_exportedStar {p : Point} (hx : isFinite p.x = true) (hy : isFinite p.y = true) :
    GalaxyMap.ofText (exportedStar p) =
      match readCoordinate? p.x, readCoordinate? p.y with
      | some x, some y => .ok { stars := [⟨x, y⟩], potentialHomes := .ofList [p.key] }
      | _, _ => .error .malformed := by
  rw [GalaxyMap.ofText, readDocument, ← text_exportedMembers,
    Json.parse?_text (wellSpelled_exportedMembers hx hy), Option.bind_some, ofJson?_exportedMembers]
  cases readCoordinate? p.x with
  | none => rfl
  | some x => cases readCoordinate? p.y <;> rfl

theorem keepsHome_iff {p : Point} (hx : isFinite p.x = true) (hy : isFinite p.y = true) :
    KeepsHome p ↔ ReadBack p.x ∧ ReadBack p.y := by
  unfold KeepsHome ReadBack
  rw [ofText_exportedStar hx hy]
  cases readCoordinate? p.x with
  | none => simp
  | some x =>
    cases readCoordinate? p.y with
    | none => simp
    | some y =>
      have hkey : Point.key ⟨x, y⟩ = p.key ↔ SameNumber x p.x ∧ SameNumber y p.y :=
        key_eq_key_iff_sameNumber
      simp [← hkey, GalaxyMap.isPotentialHome]

/-- A short coordinate is read as the number it is. -/
theorem readBack_of_short {x : Float} (hx : isFinite x = true)
    (hshort : (Decimal.shortest .up (magnitudeBits x)).Short) : ReadBack x := by
  refine ⟨unsignedZero x, ?_, unsignedZero_eq_iff_beq.mp (unsignedZero_unsignedZero x)⟩
  rw [readCoordinate?, toList_coordinateText, Option.mem_def]
  refine Json.toFloat?_chars_plain (isFinite_unsignedZero hx) ?_
  rwa [magnitudeBits_unsignedZero]

/-- The one star of a document that can be read is a potential home exactly when it has its key. -/
theorem exists_star_of_ofText {p : Point} (hx : isFinite p.x = true) (hy : isFinite p.y = true)
    {m : GalaxyMap} (h : GalaxyMap.ofText (exportedStar p) = .ok m) :
    ∃ star, m.stars = [star] ∧ (m.isPotentialHome star = true ↔ star.key = p.key) := by
  rw [ofText_exportedStar hx hy] at h
  split at h
  · obtain rfl := Except.ok.inj h
    exact ⟨_, rfl, by simp [GalaxyMap.isPotentialHome]⟩
  · cases h

/-- The star of an exported document is a potential home if and only if it is read with its key, and
it is if and only if both coordinates are read as the numbers they are. Short coordinates always
are. -/
theorem Point.keepsHome_iff_readBack (p : Point) (hx : isFinite p.x = true)
    (hy : isFinite p.y = true) :
    (∀ m, GalaxyMap.ofText (exportedStar p) = .ok m →
        ∃ star, m.stars = [star] ∧ (m.isPotentialHome star = true ↔ star.key = p.key)) ∧
      (KeepsHome p ↔ ReadBack p.x ∧ ReadBack p.y) ∧
      ((Decimal.shortest .up (magnitudeBits p.x)).Short →
        (Decimal.shortest .up (magnitudeBits p.y)).Short → KeepsHome p) := by
  have hiff := keepsHome_iff hx hy
  refine ⟨fun m h => exists_star_of_ofText hx hy h, hiff, fun hshort hshort' => ?_⟩
  exact hiff.mpr ⟨readBack_of_short hx hshort, readBack_of_short hy hshort'⟩

/-- The digits `2 ^ 53 + 1` are no double, so the reader rounds them before it divides, and the star
loses its key. -/
theorem Point.not_keepsHome_longFraction : ¬ KeepsHome ⟨90.07199254740993, 100.0⟩ := by
  have hread : readCoordinate? 90.07199254740993 = some 90.07199254740992 := by decide +kernel
  have hother : ¬ SameNumber 90.07199254740992 90.07199254740993 := by
    unfold SameNumber
    decide +kernel
  intro hkeeps
  obtain ⟨y, hy, hsame⟩ := ((Point.keepsHome_iff_readBack ⟨90.07199254740993, 100.0⟩
    (by decide +kernel) (by decide +kernel)).2.1.mp hkeeps).1
  obtain rfl := Option.some.inj (hread.symm.trans hy)
  exact hother hsame

end GalaxyScenario
