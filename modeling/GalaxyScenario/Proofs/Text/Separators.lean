import GalaxyScenario.Proofs.Decimal.Positional
import Mathlib.Data.List.Basic

/-! Texts that are read back between separators. What stands before a separator is known if it does
not have the separator in it, and so is what stands behind. Numbers have no separators in them, so a
list of numbers with commas between them is known from its text. -/
namespace GalaxyScenario

section Lists

variable {α : Type} {a : α} {xs ys as bs : List α}

/-- What stands before the first occurrence of a character is known. -/
theorem append_cons_inj (hx : a ∉ xs) (hy : a ∉ ys) :
    xs ++ a :: as = ys ++ a :: bs ↔ xs = ys ∧ as = bs := by
  induction xs generalizing ys with
  | nil => cases ys <;> simp_all
  | cons x rest ih =>
    cases ys with
    | nil => simp_all [eq_comm]
    | cons y rest' =>
      simp only [List.mem_cons, not_or] at hx hy
      simp [ih hx.2 hy.2, and_assoc]

/-- What stands after the last occurrence of a character is known. -/
theorem append_cons_inj_last (ha : a ∉ as) (hb : a ∉ bs) :
    xs ++ a :: as = ys ++ a :: bs ↔ xs = ys ∧ as = bs := by
  have hreverse : as.reverse ++ a :: xs.reverse = bs.reverse ++ a :: ys.reverse ↔
      as.reverse = bs.reverse ∧ xs.reverse = ys.reverse :=
    append_cons_inj (mt List.mem_reverse.mp ha) (mt List.mem_reverse.mp hb)
  rw [List.reverse_inj, List.reverse_inj, and_comm] at hreverse
  rw [← hreverse, ← List.reverse_inj]
  simp

end Lists

theorem toDigits_inj {m n : Nat} : Nat.toDigits 10 m = Nat.toDigits 10 n ↔ m = n := by
  rw [← Nat.toList_repr, ← Nat.toList_repr, String.toList_inj, Nat.repr_inj]

/-- A number ends where a space follows. -/
theorem toDigits_append_space_inj {m n : Nat} {as bs : List Char} :
    Nat.toDigits 10 m ++ ' ' :: as = Nat.toDigits 10 n ++ ' ' :: bs ↔ m = n ∧ as = bs := by
  have hspace : ∀ n, ' ' ∉ Nat.toDigits 10 n := Decimal.notMem_toDigits (by decide)
  rw [append_cons_inj (hspace m) (hspace n), toDigits_inj]

/-- Numbers with commas between them. -/
def numberList (numbers : List Nat) : String := ", ".intercalate (numbers.map toString)

theorem toList_numberList_singleton (n : Nat) : (numberList [n]).toList = Nat.toDigits 10 n := by
  simp [numberList]

theorem toList_numberList_cons (n next : Nat) (rest : List Nat) :
    (numberList (n :: next :: rest)).toList =
      Nat.toDigits 10 n ++ ',' :: ' ' :: (numberList (next :: rest)).toList := by
  rw [numberList, List.map_cons, List.map_cons, String.intercalate_cons_cons]
  simp [numberList]

theorem notMem_numberList {c : Char} (hdigit : c.isDigit = false) (hcomma : c ≠ ',')
    (hspace : c ≠ ' ') (numbers : List Nat) : c ∉ (numberList numbers).toList := by
  have hdigits : ∀ n, c ∉ Nat.toDigits 10 n := Decimal.notMem_toDigits hdigit
  induction numbers with
  | nil => simp [numberList]
  | cons n rest ih =>
    cases rest with
    | nil => simpa [toList_numberList_singleton] using hdigits n
    | cons next rest => simp [toList_numberList_cons, hdigits, hcomma, hspace, ih]

theorem numberList_injective : Function.Injective numberList := by
  have hcomma : ∀ n, ',' ∉ Nat.toDigits 10 n := Decimal.notMem_toDigits (by decide)
  -- A list with a second number has a comma, and a list with any number has a digit.
  have hempty : ∀ n rest, (numberList (n :: rest)).toList ≠ [] := by
    intro n rest
    cases rest with
    | nil => simp [toList_numberList_singleton]
    | cons next rest => simp [toList_numberList_cons]
  have hsingle : ∀ n m next rest, numberList [n] ≠ numberList (m :: next :: rest) := by
    intro n m next rest h
    have hlist := congrArg String.toList h
    rw [toList_numberList_singleton, toList_numberList_cons] at hlist
    exact hcomma n (hlist ▸ by simp)
  intro numbers others h
  induction numbers generalizing others with
  | nil =>
    cases others with
    | nil => rfl
    | cons m others => exact absurd (congrArg String.toList h).symm (hempty m others)
  | cons n rest ih =>
    cases others with
    | nil => exact absurd (congrArg String.toList h) (hempty n rest)
    | cons m others =>
      cases rest with
      | nil =>
        cases others with
        | nil =>
          have hlist := congrArg String.toList h
          rw [toList_numberList_singleton, toList_numberList_singleton, toDigits_inj] at hlist
          rw [hlist]
        | cons next others => exact absurd h (hsingle n m next others)
      | cons next rest =>
        cases others with
        | nil => exact absurd h.symm (hsingle m n next rest)
        | cons next' others =>
          have hlist := congrArg String.toList h
          rw [toList_numberList_cons, toList_numberList_cons,
            append_cons_inj (hcomma n) (hcomma m), toDigits_inj] at hlist
          have hrest := String.toList_inj.mp (List.cons.inj hlist.2).2
          rw [hlist.1, ih hrest]

end GalaxyScenario
