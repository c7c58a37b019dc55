import Mathlib.Data.List.Destutter
import Mathlib.Data.List.Sort
import Mathlib.Data.String.Basic
import Mathlib.Order.Monotone.Basic

/-! The order of texts by their bytes. A character with a greater code has greater bytes, and the
bytes of one character never begin those of another, so texts sorted by bytes are sorted by
characters, and a list that is sorted does not tell in which order it was gathered. -/
namespace GalaxyScenario.Text

/-- The values of the bytes in which a text is stored. -/
def bytes (text : String) : List Nat := text.toUTF8.data.toList.map UInt8.toNat

def charBytes (c : Char) : List Nat := (String.utf8EncodeChar c).map UInt8.toNat

theorem bytes_eq_flatMap (text : String) : bytes text = text.toList.flatMap charBytes := by
  conv_lhs => rw [← String.ofList_toList (s := text)]
  rw [bytes, String.toUTF8_eq_toByteArray, String.toByteArray_ofList, List.utf8Encode,
    List.data_toByteArray, List.map_flatMap]
  rfl

theorem charBytes_ne_nil (c : Char) : charBytes c ≠ [] := by
  rw [charBytes, ne_eq, List.map_eq_nil_iff]
  exact String.utf8EncodeChar_ne_nil

theorem charBytes_append_lt {c d : Char} (h : c < d) (as bs : List Nat) :
    charBytes c ++ as < charBytes d ++ bs := by
  have hlt : c.val.toNat < d.val.toNat := h
  have hmax : d.val.toNat < 1114112 := by
    rcases d.valid with hvalid | ⟨-, hvalid⟩ <;> omega
  unfold charBytes String.utf8EncodeChar
  dsimp only
  generalize c.val.toNat = m at hlt ⊢
  generalize d.val.toNat = n at hlt hmax ⊢
  -- Each byte but the first holds one digit of the code to the base 64.
  have hm : m / 64 / 64 = m / 4096 ∧ m / 4096 / 64 = m / 262144 := by omega
  have hn : n / 64 / 64 = n / 4096 ∧ n / 4096 / 64 = n / 262144 := by omega
  split_ifs <;> simp (disch := omega) only [List.map_cons, List.map_nil, List.cons_append,
    List.nil_append, List.cons_lt_cons_iff, UInt8.toNat_ofNat', Nat.mod_eq_of_lt] <;> omega

theorem flatMap_charBytes_lt {cs ds : List Char} (h : cs < ds) :
    cs.flatMap charBytes < ds.flatMap charBytes := by
  induction cs generalizing ds with
  | nil =>
    cases ds with
    | nil => simp at h
    | cons d ds =>
      obtain ⟨byte, rest, hbytes⟩ := List.exists_cons_of_ne_nil (charBytes_ne_nil d)
      rw [List.flatMap_cons, hbytes]
      exact List.nil_lt_cons _ _
  | cons c cs ih =>
    cases ds with
    | nil => simp at h
    | cons d ds =>
      rw [List.flatMap_cons, List.flatMap_cons]
      rcases List.cons_lt_cons_iff.mp h with hlt | ⟨rfl, hrest⟩
      · exact charBytes_append_lt hlt _ _
      · exact List.append_left_lt (ih hrest)

theorem bytes_strictMono : StrictMono bytes := by
  intro a b h
  rw [bytes_eq_flatMap, bytes_eq_flatMap]
  exact flatMap_charBytes_lt (String.lt_iff_toList_lt.mp h)

theorem compare_eq_lt_iff_bytes {a b : String} : compare a b = .lt ↔ bytes a < bytes b :=
  compare_lt_iff_lt.trans bytes_strictMono.lt_iff_lt.symm

def sortByBytes (texts : List String) : List String :=
  texts.mergeSort fun a b => decide (bytes a ≤ bytes b)

theorem mem_sortByBytes {texts : List String} {text : String} :
    text ∈ sortByBytes texts ↔ text ∈ texts :=
  (List.mergeSort_perm texts _).mem_iff

theorem sortedLE_sortByBytes (texts : List String) : (sortByBytes texts).SortedLE := by
  simp only [sortByBytes, bytes_strictMono.le_iff_le]
  exact List.sortedLE_mergeSort

/-- Sorting a list in which no text occurs twice gives the one increasing list of its texts. -/
theorem sortByBytes_eq {texts sorted : List String} (hnodup : texts.Nodup)
    (hsorted : sorted.SortedLT) (hmem : ∀ text, text ∈ texts ↔ text ∈ sorted) :
    sortByBytes texts = sorted := by
  have hnodup : (sortByBytes texts).Nodup := (List.mergeSort_perm texts _).nodup_iff.mpr hnodup
  have hlt := (sortedLE_sortByBytes texts).sortedLT_of_nodup hnodup
  refine hlt.eq_of_mem_iff hsorted fun text => ?_
  rw [mem_sortByBytes, hmem]

/-- The same without the repetitions, which stand side by side once the list is sorted. -/
theorem destutter_sortByBytes_eq {texts sorted : List String} (hsorted : sorted.SortedLT)
    (hmem : ∀ text, text ∈ texts ↔ text ∈ sorted) :
    (sortByBytes texts).destutter (· ≠ ·) = sorted := by
  have hle := sortedLE_sortByBytes texts
  have hlt : ((sortByBytes texts).destutter (· ≠ ·)).SortedLT := by
    refine List.SortedLE.sortedLT_of_nodup ?_ ?_
    · exact (hle.pairwise.sublist (List.destutter_sublist _ _)).sortedLE
    · rw [hle.pairwise.destutter_eq_dedup]
      exact List.nodup_dedup _
  refine hlt.eq_of_mem_iff hsorted fun text => ?_
  rw [hle.pairwise.destutter_eq_dedup, List.mem_dedup, mem_sortByBytes, hmem]

end GalaxyScenario.Text
