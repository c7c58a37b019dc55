import GalaxyScenario.Proofs.FindingKinds
import GalaxyScenario.Proofs.StarIdentity
import GalaxyScenario.Proofs.Text.Separators

/-! What findings say. A finding is shown by its category and its message alone, and the message
names places in the lists of the map and keys. They can be read back from it: a number ends at a
space, and a key at the last parenthesis, which no key of a position has in it. -/
namespace GalaxyScenario

/-- What a message under a category says: places in the lists of a map, and keys. -/
inductive Message : String → String → List Nat → List String → Prop
  | outside (star : Nat) (position : Point) (width height : String) :
      Message "star_bounds"
        ("Star #" ++ toString star ++ " at (" ++ position.key ++ ") lies outside the " ++ width ++
          "×" ++ height ++ " canvas") [star] [position.key]
  | merged (star : Nat) (key : String) (first : Nat) :
      Message "duplicate_star"
        ("Star #" ++ toString star ++ " at (" ++ key ++ ") duplicates star #" ++ toString first ++
          " and is merged into it") [star, first] [key]
  | danglingHyperlane (hyperlane : Nat) (key : String) :
      Message "dangling_connection"
        ("Hyperlane #" ++ toString hyperlane ++ " references (" ++ key ++ ") which is not a star")
        [hyperlane] [key]
  | long (hyperlane : Nat) (first second : Point) (length limit : String) :
      Message "long_connection"
        ("Hyperlane #" ++ toString hyperlane ++ " (" ++ first.key ++ " → " ++ second.key ++
          ") is " ++ length ++ " long (max " ++ limit ++ ")") [hyperlane] [first.key, second.key]
  | danglingWormhole (wormhole : Nat) (key : String) :
      Message "dangling_wormhole"
        ("Wormhole pair #" ++ toString wormhole ++ " references (" ++ key ++
          ") which is not a star") [wormhole] [key]
  | shared (key : String) (wormholes : List Nat) :
      Message "wormhole_reuse"
        ("Star (" ++ key ++ ") is an endpoint of " ++ toString wormholes.length ++
          " wormhole pairs [" ++ numberList wormholes ++ "]") wormholes [key]
  | notCanonical (key : String) (position : Point) :
      Message "unknown_home_star"
        ("Home star (" ++ key ++ ") is not written canonically; use (" ++ position.key ++ ")")
        [] [key, position.key]
  | unknown (key : String) :
      Message "unknown_home_star" ("Home star (" ++ key ++ ") does not match any star") [] [key]
  | ignored (key : String) :
      Message "preferred_not_potential"
        ("Preferred home star (" ++ key ++ ") is not a potential home star and is ignored") [] [key]

namespace Message

section Texts

variable {i j : Nat} {key key' : String} {p q p' q' : Point}

theorem key_append_inj {c : Char} {as bs : List Char} (hnumeral : isNumeralChar c = false)
    (hcomma : c ≠ ',') :
    p.key.toList ++ c :: as = q.key.toList ++ c :: bs ↔ p.key = q.key ∧ as = bs := by
  rw [append_cons_inj (p.notMem_key hnumeral hcomma) (q.notMem_key hnumeral hcomma),
    String.toList_inj]

theorem outside_inj {width height width' height' : String}
    (h : "Star #" ++ toString i ++ " at (" ++ p.key ++ ") lies outside the " ++ width ++ "×" ++
        height ++ " canvas" =
      "Star #" ++ toString j ++ " at (" ++ q.key ++ ") lies outside the " ++ width' ++ "×" ++
        height' ++ " canvas") : i = j ∧ p.key = q.key := by
  have h := congrArg String.toList h
  simp [toDigits_append_space_inj, key_append_inj (c := ')') (by decide) (by decide)] at h
  exact ⟨h.1, h.2.1⟩

theorem merged_inj {first first' : Nat}
    (h : "Star #" ++ toString i ++ " at (" ++ key ++ ") duplicates star #" ++ toString first ++
        " and is merged into it" =
      "Star #" ++ toString j ++ " at (" ++ key' ++ ") duplicates star #" ++ toString first' ++
        " and is merged into it") : i = j ∧ key = key' ∧ first = first' := by
  have hparenthesis : ∀ n, ')' ∉ Nat.toDigits 10 n := Decimal.notMem_toDigits (by decide)
  have h := congrArg String.toList h
  simp [toDigits_append_space_inj] at h
  -- The key may have parentheses, but nothing behind it has.
  rw [append_cons_inj_last (by simp [hparenthesis]) (by simp [hparenthesis])] at h
  simpa [toDigits_inj, String.toList_inj] using h

theorem dangling_inj {kind : String}
    (h : kind ++ toString i ++ " references (" ++ key ++ ") which is not a star" =
      kind ++ toString j ++ " references (" ++ key' ++ ") which is not a star") :
    i = j ∧ key = key' := by
  have h := congrArg String.toList h
  simpa [toDigits_append_space_inj, String.toList_inj] using h

theorem long_inj {length limit length' limit' : String}
    (h : "Hyperlane #" ++ toString i ++ " (" ++ p.key ++ " → " ++ q.key ++ ") is " ++ length ++
        " long (max " ++ limit ++ ")" =
      "Hyperlane #" ++ toString j ++ " (" ++ p'.key ++ " → " ++ q'.key ++ ") is " ++ length' ++
        " long (max " ++ limit' ++ ")") : i = j ∧ p.key = p'.key ∧ q.key = q'.key := by
  have h := congrArg String.toList h
  simp [toDigits_append_space_inj, key_append_inj (c := ' ') (by decide) (by decide),
    key_append_inj (c := ')') (by decide) (by decide)] at h
  exact ⟨h.1, h.2.1, h.2.2.1⟩

theorem shared_inj {wormholes wormholes' : List Nat}
    (h : "Star (" ++ key ++ ") is an endpoint of " ++ toString wormholes.length ++
        " wormhole pairs [" ++ numberList wormholes ++ "]" =
      "Star (" ++ key' ++ ") is an endpoint of " ++ toString wormholes'.length ++
        " wormhole pairs [" ++ numberList wormholes' ++ "]") :
    wormholes = wormholes' ∧ key = key' := by
  have hparenthesis : ∀ n, ')' ∉ Nat.toDigits 10 n := Decimal.notMem_toDigits (by decide)
  have hlist : ∀ numbers, ')' ∉ (numberList numbers).toList :=
    notMem_numberList (by decide) (by decide) (by decide)
  have h := congrArg String.toList h
  simp at h
  rw [append_cons_inj_last (by simp [hparenthesis, hlist]) (by simp [hparenthesis, hlist])] at h
  simp [toDigits_append_space_inj, String.toList_inj] at h
  exact ⟨numberList_injective h.2.2, h.1⟩

theorem notCanonical_inj
    (h : "Home star (" ++ key ++ ") is not written canonically; use (" ++ p.key ++ ")" =
      "Home star (" ++ key' ++ ") is not written canonically; use (" ++ q.key ++ ")") :
    key = key' ∧ p.key = q.key := by
  have hkey : ∀ p : Point, '(' ∉ p.key.toList := fun p => p.notMem_key (by decide) (by decide)
  -- The first key may have any characters, so the message is read from its end.
  have htexts : ∀ (key : String) (p : Point),
      ("Home star (" ++ key ++ ") is not written canonically; use (" ++ p.key ++ ")").toList =
        ("Home star (" ++ key ++ ") is not written canonically; use ").toList ++
          '(' :: (p.key.toList ++ [')']) := by
    intro key p
    simp
  have h := congrArg String.toList h
  rw [htexts, htexts, append_cons_inj_last (by simp [hkey]) (by simp [hkey])] at h
  simpa [String.toList_inj] using h

theorem unknown_ne_notCanonical :
    "Home star (" ++ key ++ ") does not match any star" ≠
      "Home star (" ++ key' ++ ") is not written canonically; use (" ++ p.key ++ ")" := by
  intro h
  have hreverse := congrArg (fun text => text.toList.reverse) h
  simp at hreverse

theorem between_inj {before after : String}
    (h : before ++ key ++ after = before ++ key' ++ after) : key = key' := by
  simpa [String.toList_inj] using congrArg String.toList h

end Texts

/-- A message is about the same places and keys for everyone who reads it. -/
theorem unique {category text : String} {places places' : List Nat} {keys keys' : List String}
    (h : Message category text places keys) (h' : Message category text places' keys') :
    places = places' ∧ keys = keys' := by
  generalize hcategory : category = category', htext : text = text' at h'
  -- Two kinds of message have one category only if they are about unknown home stars.
  cases h with
  | outside star position width height =>
    cases h' with
    | outside star' position' width' height' =>
      obtain ⟨rfl, hkey⟩ := outside_inj htext
      exact ⟨rfl, by rw [hkey]⟩
    | _ => simp at hcategory
  | merged star key first =>
    cases h' with
    | merged star' key' first' =>
      obtain ⟨rfl, rfl, rfl⟩ := merged_inj htext
      exact ⟨rfl, rfl⟩
    | _ => simp at hcategory
  | danglingHyperlane hyperlane key =>
    cases h' with
    | danglingHyperlane hyperlane' key' =>
      obtain ⟨rfl, rfl⟩ := dangling_inj htext
      exact ⟨rfl, rfl⟩
    | _ => simp at hcategory
  | long hyperlane first second length limit =>
    cases h' with
    | long hyperlane' first' second' length' limit' =>
      obtain ⟨rfl, hfirst, hsecond⟩ := long_inj htext
      exact ⟨rfl, by rw [hfirst, hsecond]⟩
    | _ => simp at hcategory
  | danglingWormhole wormhole key =>
    cases h' with
    | danglingWormhole wormhole' key' =>
      obtain ⟨rfl, rfl⟩ := dangling_inj htext
      exact ⟨rfl, rfl⟩
    | _ => simp at hcategory
  | shared key wormholes =>
    cases h' with
    | shared key' wormholes' =>
      obtain ⟨rfl, rfl⟩ := shared_inj htext
      exact ⟨rfl, rfl⟩
    | _ => simp at hcategory
  | notCanonical key position =>
    cases h' with
    | notCanonical key' position' =>
      obtain ⟨rfl, hkey⟩ := notCanonical_inj htext
      exact ⟨rfl, by rw [hkey]⟩
    | unknown key' => exact absurd htext.symm unknown_ne_notCanonical
    | _ => simp at hcategory
  | unknown key =>
    cases h' with
    | unknown key' =>
      rw [between_inj htext]
      exact ⟨rfl, rfl⟩
    | notCanonical key' position' => exact absurd htext unknown_ne_notCanonical
    | _ => simp at hcategory
  | ignored key =>
    cases h' with
    | ignored key' =>
      rw [between_inj htext]
      exact ⟨rfl, rfl⟩
    | _ => simp at hcategory

end Message

namespace Finding

/-- The finding is of a category and its message says these places and keys. -/
def Says (f : Finding) (category : String) (places : List Nat) (keys : List String) : Prop :=
  f.category = category ∧ Message category f.message places keys

def places : Finding → List Nat
  | .starOutside star .. => [star]
  | .duplicateStar star _ first => [star, first]
  | .danglingHyperlane hyperlane _ => [hyperlane]
  | .longHyperlane hyperlane .. => [hyperlane]
  | .danglingWormhole wormhole _ => [wormhole]
  | .sharedWormholeEnd _ wormholes => wormholes
  | .homeNotCanonical .. | .unknownHome _ | .preferredNotPotential _ => []

def keys : Finding → List String
  | .starOutside _ key .. => [key]
  | .duplicateStar _ key _ => [key]
  | .danglingHyperlane _ key => [key]
  | .longHyperlane _ first second _ => [first, second]
  | .danglingWormhole _ key => [key]
  | .sharedWormholeEnd key _ => [key]
  | .homeNotCanonical key canonical => [key, canonical]
  | .unknownHome key => [key]
  | .preferredNotPotential key => [key]

section Kinds

variable (i : Nat) (key : String) (p q : Point)

theorem says_starOutside (width height : Float) :
    (starOutside i p.key width height).Says "star_bounds" [i] [p.key] :=
  ⟨rfl, .outside i p (Layout.plain.text width) (Layout.plain.text height)⟩

theorem says_duplicateStar (first : Nat) :
    (duplicateStar i key first).Says "duplicate_star" [i, first] [key] :=
  ⟨rfl, .merged i key first⟩

theorem says_danglingHyperlane :
    (danglingHyperlane i key).Says "dangling_connection" [i] [key] :=
  ⟨rfl, .danglingHyperlane i key⟩

theorem says_longHyperlane (length : Float) :
    (longHyperlane i p.key q.key length).Says "long_connection" [i] [p.key, q.key] :=
  ⟨rfl, .long i p q (Decimal.tenths length) (Layout.plain.text longestHyperlane)⟩

theorem says_danglingWormhole :
    (danglingWormhole i key).Says "dangling_wormhole" [i] [key] :=
  ⟨rfl, .danglingWormhole i key⟩

theorem says_sharedWormholeEnd (wormholes : List Nat) :
    (sharedWormholeEnd key wormholes).Says "wormhole_reuse" wormholes [key] := by
  have hlist : " wormhole pairs " ++ indexList wormholes =
      " wormhole pairs [" ++ numberList wormholes ++ "]" := by
    rw [← String.toList_inj]
    simp [indexList, numberList]
  have hmessage : (sharedWormholeEnd key wormholes).message =
      "Star (" ++ key ++ ") is an endpoint of " ++ toString wormholes.length ++
        (" wormhole pairs " ++ indexList wormholes) := String.append_assoc
  refine ⟨rfl, ?_⟩
  rw [hmessage, hlist, ← String.append_assoc, ← String.append_assoc]
  exact .shared key wormholes

theorem says_homeNotCanonical :
    (homeNotCanonical key p.key).Says "unknown_home_star" [] [key, p.key] :=
  ⟨rfl, .notCanonical key p⟩

theorem says_unknownHome : (unknownHome key).Says "unknown_home_star" [] [key] :=
  ⟨rfl, .unknown key⟩

theorem says_preferredNotPotential :
    (preferredNotPotential key).Says "preferred_not_potential" [] [key] :=
  ⟨rfl, .ignored key⟩

end Kinds

end Finding

namespace GalaxyMap
open Finding

variable {m : GalaxyMap} {config : Config} {f : Finding}

theorem says_of_mem_checks :
    ∀ entry ∈ m.checks config, ∀ f ∈ entry.2, f.Says entry.1 f.places f.keys := by
  simp only [checks, List.forall_mem_cons]
  refine ⟨?_, ?_, ?_, ?_, ?_, ?_, ?_, ?_, by simp⟩
  · grind [starsOutside, places, keys, says_starOutside]
  · grind [duplicateStars, places, keys, says_duplicateStar]
  · grind [danglingHyperlanes, places, keys, says_danglingHyperlane]
  · grind [longHyperlanes, places, keys, says_longHyperlane]
  · grind [danglingWormholes, places, keys, says_danglingWormhole]
  · grind [sharedWormholeEnds, places, keys, says_sharedWormholeEnd]
  · grind [unknownHomes, unknownHome, places, keys, says_unknownHome, says_homeNotCanonical]
  · grind [preferredOnly, places, keys, says_preferredNotPotential]

/-- A finding about a map shows which places and keys it is about, and no others. -/
theorem says_iff_of_mem_findings (h : f ∈ m.findings config) {category : String}
    {places : List Nat} {keys : List String} :
    f.Says category places keys ↔ category = f.category ∧ places = f.places ∧ keys = f.keys := by
  rw [← flatMap_checks, List.mem_flatMap] at h
  obtain ⟨entry, hentry, hf⟩ := h
  have hcategory := category_of_mem_checks entry hentry f hf
  have hsays := says_of_mem_checks entry hentry f hf
  rw [← hcategory] at hsays
  constructor
  · rintro ⟨rfl, hmessage⟩
    exact ⟨rfl, hmessage.unique hsays.2⟩
  · rintro ⟨rfl, rfl, rfl⟩
    exact hsays

end GalaxyMap
end GalaxyScenario
