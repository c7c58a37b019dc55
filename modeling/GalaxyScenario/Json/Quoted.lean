/-!
The characters between the quotes of a JSON string. A body has a grammar, which every string must
follow, and a meaning, which it has unless it escapes half of a surrogate pair.
-/
namespace GalaxyScenario.Json.Quoted

def isControl (c : Char) : Bool := decide (c.toNat < 0x20)

def hexDigit? (c : Char) : Option Nat :=
  if '0' ≤ c ∧ c ≤ '9' then some (c.toNat - '0'.toNat)
  else if 'a' ≤ c ∧ c ≤ 'f' then some (c.toNat - 'a'.toNat + 10)
  else if 'A' ≤ c ∧ c ≤ 'F' then some (c.toNat - 'A'.toNat + 10)
  else none

def hex4? (a b c d : Char) : Option Nat :=
  match hexDigit? a, hexDigit? b, hexDigit? c, hexDigit? d with
  | some a, some b, some c, some d => some (((a * 16 + b) * 16 + c) * 16 + d)
  | _, _, _, _ => none

def shortEscape? (c : Char) : Option Char :=
  match c with
  | '"' => some '"'
  | '\\' => some '\\'
  | '/' => some '/'
  | 'b' => some '\x08'
  | 'f' => some '\x0c'
  | 'n' => some '\n'
  | 'r' => some '\r'
  | 't' => some '\t'
  | _ => none

/-- Whether characters are the body of a string: no bare control character, and after each
backslash a known letter or `u` with four hexadecimal digits. -/
def isBody : List Char → Bool
  | [] => true
  | '\\' :: 'u' :: a :: b :: c :: d :: rest => (hex4? a b c d).isSome && isBody rest
  | '\\' :: c :: rest => (shortEscape? c).isSome && isBody rest
  | c :: rest => c != '\\' && !isControl c && isBody rest

def isHighSurrogate (n : Nat) : Bool := 0xD800 ≤ n && n ≤ 0xDBFF

def isLowSurrogate (n : Nat) : Bool := 0xDC00 ≤ n && n ≤ 0xDFFF

def pairedChar (high low : Nat) : Char :=
  Char.ofNat (0x10000 + (high - 0xD800) * 0x400 + (low - 0xDC00))

/-- The characters that a body stands for. A surrogate must be one of a pair in the right order. -/
def decode? : List Char → Option (List Char)
  | [] => some []
  | '\\' :: 'u' :: a :: b :: c :: d :: rest => do
    let n ← hex4? a b c d
    if isHighSurrogate n then
      match rest with
      | '\\' :: 'u' :: e :: f :: g :: h :: rest =>
        let low ← hex4? e f g h
        if isLowSurrogate low then return pairedChar n low :: (← decode? rest) else none
      | _ => none
    else if isLowSurrogate n then none
    else return Char.ofNat n :: (← decode? rest)
  | '\\' :: c :: rest => return (← shortEscape? c) :: (← decode? rest)
  | c :: rest => if c = '\\' ∨ isControl c then none else return c :: (← decode? rest)

def hexChar (n : Nat) : Char := Nat.digitChar n

/-- A character as it is written in a string: quotes, backslashes and control characters are
escaped, by a letter where there is one. -/
def encodeChar (c : Char) : List Char :=
  match c with
  | '"' => ['\\', '"']
  | '\\' => ['\\', '\\']
  | '\x08' => ['\\', 'b']
  | '\x0c' => ['\\', 'f']
  | '\n' => ['\\', 'n']
  | '\r' => ['\\', 'r']
  | '\t' => ['\\', 't']
  | c =>
    if isControl c then ['\\', 'u', '0', '0', hexChar (c.toNat / 16), hexChar (c.toNat % 16)]
    else [c]

def encode (cs : List Char) : List Char := cs.flatMap encodeChar

theorem isControl_iff {c : Char} : isControl c = true ↔ c.toNat < 0x20 := by simp [isControl]

theorem decode?_short {c d : Char} (h : shortEscape? c = some d) (rest : List Char) :
    decode? ('\\' :: c :: rest) = (decode? rest).map (d :: ·) := by
  have hu : c ≠ 'u' := by rintro rfl; simp [shortEscape?] at h
  rw [decode?]
  · rw [h]; cases decode? rest <;> rfl
  · simp_all

theorem decode?_plain {c : Char} (hb : c ≠ '\\') (hc : isControl c = false) (rest : List Char) :
    decode? (c :: rest) = (decode? rest).map (c :: ·) := by
  rw [decode?]
  · rw [if_neg (by simp [hb, hc])]; cases decode? rest <;> rfl
  · simp_all
  · simp_all

theorem hex4?_hexChar : ∀ n : Fin 32,
    hex4? '0' '0' (hexChar (n / 16)) (hexChar (n % 16)) = some n.val := by decide

theorem decode?_control {c : Char} (hc : isControl c = true) (rest : List Char) :
    decode?
        ('\\' :: 'u' :: '0' :: '0' :: hexChar (c.toNat / 16) :: hexChar (c.toNat % 16) :: rest) =
      (decode? rest).map (c :: ·) := by
  have hn := isControl_iff.1 hc
  have high : isHighSurrogate c.toNat = false := by simp [isHighSurrogate]; omega
  have low : isLowSurrogate c.toNat = false := by simp [isLowSurrogate]; omega
  rw [decode?, hex4?_hexChar ⟨c.toNat, hn⟩]
  simp only [Option.bind_eq_bind, Option.bind_some, high, low, Bool.false_eq_true, if_false,
    Char.ofNat_toNat]
  cases decode? rest <;> rfl

theorem decode?_encodeChar_append (c : Char) (rest : List Char) :
    decode? (encodeChar c ++ rest) = (decode? rest).map (c :: ·) := by
  unfold encodeChar
  split
  case h_8 =>
    split
    · exact decode?_control ‹_› rest
    · exact decode?_plain (by assumption) (by simp_all) rest
  all_goals exact decode?_short rfl rest

theorem decode?_encode (cs : List Char) : decode? (encode cs) = some cs := by
  induction cs with
  | nil => rfl
  | cons c cs ih => rw [encode, List.flatMap_cons, decode?_encodeChar_append, ← encode, ih]; rfl

/-- What is written for a character leaves the grammar of the rest to the rest. -/
theorem isBody_encodeChar_append (c : Char) (rest : List Char) :
    isBody (encodeChar c ++ rest) = isBody rest := by
  unfold encodeChar
  split
  case h_8 =>
    split
    · have hn := isControl_iff.1 ‹isControl c = true›
      simp [isBody, hex4?_hexChar ⟨c.toNat, hn⟩]
    · rw [List.singleton_append, isBody] <;> simp_all
  all_goals rw [List.cons_append, List.singleton_append, isBody] <;> simp [shortEscape?]

theorem isBody_encode (cs : List Char) : isBody (encode cs) = true := by
  induction cs with
  | nil => rfl
  | cons c cs ih => rw [encode, List.flatMap_cons, isBody_encodeChar_append, ← encode, ih]

end GalaxyScenario.Json.Quoted
