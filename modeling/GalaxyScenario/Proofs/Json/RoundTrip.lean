import GalaxyScenario.Json.Parse
import Mathlib.Data.List.Basic

/-! The text of a value is read as that value. A value determines its tokens; scanning its text
finds them, where a number or a word ends only at the character after it, and reading them on any
stack of open values gives the value back. -/
namespace GalaxyScenario.Json

mutual

def tokens : Json → List Token
  | .null => [.null]
  | .bool value => [.bool value]
  | .number spelling => [.number spelling]
  | .string body => [.string body]
  | .array items => .openBracket :: itemTokens items
  | .object members => .openBrace :: memberTokens members

def itemTokens : List Json → List Token
  | [] => [.closeBracket]
  | [item] => tokens item ++ [.closeBracket]
  | item :: items => tokens item ++ .comma :: itemTokens items

def memberTokens : List (List Char × Json) → List Token
  | [] => [.closeBrace]
  | [(key, value)] => .string key :: .colon :: (tokens value ++ [.closeBrace])
  | (key, value) :: members =>
    .string key :: .colon :: (tokens value ++ .comma :: memberTokens members)

end

/-- Characters that are scanned as one number. -/
structure IsSpelling (cs : List Char) : Prop where
  grammar : (Number.ofChars? cs).isSome = true
  first : ∀ c ∈ cs.head?, c.isDigit = true ∨ c = '-'
  chars : ∀ c ∈ cs, Token.isNumberChar c = true

mutual

/-- The numbers of the value follow the grammar, and its strings and keys are written as texts
are. -/
def WellSpelled : Json → Prop
  | .null => True
  | .bool _ => True
  | .number spelling => IsSpelling spelling
  | .string body => ∃ cs, body = Quoted.encode cs
  | .array items => ItemsWellSpelled items
  | .object members => MembersWellSpelled members

def ItemsWellSpelled : List Json → Prop
  | [] => True
  | item :: items => WellSpelled item ∧ ItemsWellSpelled items

def MembersWellSpelled : List (List Char × Json) → Prop
  | [] => True
  | (key, value) :: members =>
    (∃ cs, key = Quoted.encode cs) ∧ WellSpelled value ∧ MembersWellSpelled members

end

namespace Token

/-- The scan comes to these tokens, the latest first, when its text ends or a token of one character
follows. -/
structure Settles (scan : Scan) (found : List Token) : Prop where
  step_eq : ∀ c token, punctuation? c = some token → step scan c = some ⟨token :: found, .nothing⟩
  finish_eq : finish scan = some found.reverse

variable {found : List Token} {read : List Char} {token : Token} {c : Char}

theorem begin?_of_punctuation (h : punctuation? c = some token) :
    begin? found c = some ⟨token :: found, .nothing⟩ := by
  unfold punctuation? at h
  split at h <;> cases h <;> rfl

theorem not_isNumberChar_of_punctuation (h : punctuation? c = some token) :
    isNumberChar c = false ∧ c.isLower = false := by
  unfold punctuation? at h
  split at h <;> cases h <;> decide

theorem settles_nothing (found : List Token) : Settles ⟨found, .nothing⟩ found where
  step_eq := fun _ _ h => begin?_of_punctuation h
  finish_eq := rfl

theorem settles_number (h : ofNumber? read.reverse = some token) :
    Settles ⟨found, .number read⟩ (token :: found) where
  step_eq := by
    intro c t hc
    simp [step, not_isNumberChar_of_punctuation hc, h, begin?_of_punctuation hc]
  finish_eq := by simp [finish, h]

theorem settles_word (h : ofWord? read.reverse = some token) :
    Settles ⟨found, .word read⟩ (token :: found) where
  step_eq := by
    intro c t hc
    simp [step, not_isNumberChar_of_punctuation hc, h, begin?_of_punctuation hc]
  finish_eq := by simp [finish, h]

theorem foldlM_number (found : List Token) {cs : List Char}
    (h : ∀ c ∈ cs, isNumberChar c = true) (read : List Char) :
    cs.foldlM step ⟨found, .number read⟩ = some ⟨found, .number (cs.reverse ++ read)⟩ := by
  induction cs generalizing read with
  | nil => rfl
  | cons c cs ih =>
    have hc := h c List.mem_cons_self
    have ih := ih (fun d hd => h d (List.mem_cons_of_mem c hd)) (c :: read)
    simp [List.foldlM_cons, step, hc, ih]

theorem begin?_number (h : c.isDigit = true ∨ c = '-') :
    begin? found c = some ⟨found, .number [c]⟩ := by
  rcases h with hdigit | rfl
  · have hne : ∀ d : Char, d.isDigit = false → c ≠ d := by
      rintro d hd rfl
      exact Bool.false_ne_true (hd.symm.trans hdigit)
    simp [begin?, isBlank, hdigit, hne ' ' (by decide), hne '\t' (by decide), hne '\r' (by decide),
      hne '\n' (by decide), hne '"' (by decide)]
  · rfl

/-- A number stays open until the next token. -/
theorem exists_settles_number {spelling : List Char} (h : IsSpelling spelling)
    (found : List Token) : ∃ s, spelling.foldlM step ⟨found, .nothing⟩ = some s ∧
      Settles s (.number spelling :: found) := by
  obtain ⟨hgrammar, hfirst, hchars⟩ := h
  obtain ⟨n, hn⟩ := Option.isSome_iff_exists.mp hgrammar
  cases spelling with
  | nil => cases hgrammar
  | cons c cs =>
    have hbegin : step ⟨found, .nothing⟩ c = some ⟨found, .number [c]⟩ :=
      begin?_number (hfirst c rfl)
    have hrest := foldlM_number found (fun d hd => hchars d (List.mem_cons_of_mem c hd)) [c]
    refine ⟨⟨found, .number (cs.reverse ++ [c])⟩, ?_, settles_number ?_⟩
    · simp [List.foldlM_cons, hbegin, hrest]
    · simp [ofNumber?, hn]

theorem hexChar_plain : ∀ n < 16, Quoted.hexChar n ≠ '"' ∧ Quoted.hexChar n ≠ '\\' := by decide

/-- A character of a text does not end the string it is written in. -/
theorem foldlM_encodeChar (c : Char) :
    (Quoted.encodeChar c).foldlM step ⟨found, .string read⟩ =
      some ⟨found, .string ((Quoted.encodeChar c).reverse ++ read)⟩ := by
  unfold Quoted.encodeChar
  split
  case h_8 hquote hbackslash _ _ _ _ _ =>
    split
    · have hn := Quoted.isControl_iff.mp ‹Quoted.isControl c = true›
      have hhigh := hexChar_plain (c.toNat / 16) (by omega)
      have hlow := hexChar_plain (c.toNat % 16) (by omega)
      simp [step, hhigh, hlow]
    · simp_all [step]
  all_goals rfl

theorem foldlM_encode (cs : List Char) : (Quoted.encode cs).foldlM step ⟨found, .string read⟩ =
    some ⟨found, .string ((Quoted.encode cs).reverse ++ read)⟩ := by
  induction cs generalizing read with
  | nil => rfl
  | cons c cs ih =>
    rw [Quoted.encode, List.flatMap_cons, ← Quoted.encode, List.foldlM_append, foldlM_encodeChar]
    simp [ih]

theorem foldlM_quote (cs : List Char) : (quote (Quoted.encode cs)).foldlM step ⟨found, .nothing⟩ =
    some ⟨.string (Quoted.encode cs) :: found, .nothing⟩ := by
  have hopen : step ⟨found, .nothing⟩ '"' = some ⟨found, .string []⟩ := rfl
  have hclose : step ⟨found, .string (Quoted.encode cs).reverse⟩ '"' =
      some ⟨.string (Quoted.encode cs) :: found, .nothing⟩ := by
    simp [step, ofBody?, Quoted.isBody_encode]
  simp [quote, List.foldlM_cons, List.foldlM_append, hopen, foldlM_encode, hclose]

/-- After a value, a token of one character is found, whatever the value ends with. -/
theorem foldlM_append_punctuation {cs rest : List Char} {s₀ s : Scan}
    (hs : cs.foldlM step s₀ = some s) (hsettles : Settles s found)
    (hc : punctuation? c = some token) :
    (cs ++ c :: rest).foldlM step s₀ = rest.foldlM step ⟨token :: found, .nothing⟩ := by
  simp [List.foldlM_append, List.foldlM_cons, hs, hsettles.step_eq c token hc]

theorem foldlM_key (cs rest : List Char) :
    (quote (Quoted.encode cs) ++ ':' :: rest).foldlM step ⟨found, .nothing⟩ =
      rest.foldlM step ⟨.colon :: .string (Quoted.encode cs) :: found, .nothing⟩ :=
  foldlM_append_punctuation (foldlM_quote cs) (settles_nothing _) rfl

end Token

open Token

mutual

/-- Scanning the text of a value finds the tokens of the value. -/
theorem exists_settles_chars : ∀ (j : Json), WellSpelled j → ∀ found : List Token,
    ∃ s, (chars j).foldlM step ⟨found, .nothing⟩ = some s ∧
      Settles s ((tokens j).reverse ++ found)
  | .null, _, found => ⟨⟨found, .word ['l', 'l', 'u', 'n']⟩, rfl, settles_word rfl⟩
  | .bool true, _, found => ⟨⟨found, .word ['e', 'u', 'r', 't']⟩, rfl, settles_word rfl⟩
  | .bool false, _, found => ⟨⟨found, .word ['e', 's', 'l', 'a', 'f']⟩, rfl, settles_word rfl⟩
  | .number spelling, h, found => exists_settles_number h found
  | .string body, h, found => by
    obtain ⟨cs, rfl⟩ := h
    exact ⟨_, foldlM_quote cs, settles_nothing _⟩
  | .array items, h, found => by
    have hitems := foldlM_itemChars items h (.openBracket :: found)
    have hopen : step ⟨found, .nothing⟩ '[' = some ⟨.openBracket :: found, .nothing⟩ := rfl
    refine ⟨_, ?_, settles_nothing _⟩
    simp [chars, tokens, List.foldlM_cons, hopen, hitems]
  | .object members, h, found => by
    have hmembers := foldlM_memberChars members h (.openBrace :: found)
    have hopen : step ⟨found, .nothing⟩ '{' = some ⟨.openBrace :: found, .nothing⟩ := rfl
    refine ⟨_, ?_, settles_nothing _⟩
    simp [chars, tokens, List.foldlM_cons, hopen, hmembers]

theorem foldlM_itemChars : ∀ (items : List Json), ItemsWellSpelled items → ∀ found : List Token,
    (itemChars items).foldlM step ⟨found, .nothing⟩ =
      some ⟨(itemTokens items).reverse ++ found, .nothing⟩
  | [], _, found => rfl
  | [item], h, found => by
    obtain ⟨s, hs, hsettles⟩ := exists_settles_chars item h.1 found
    rw [itemChars, foldlM_append_punctuation hs hsettles rfl]
    simp [itemTokens]
  | item :: next :: items, h, found => by
    obtain ⟨s, hs, hsettles⟩ := exists_settles_chars item h.1 found
    rw [itemChars, foldlM_append_punctuation hs hsettles rfl, foldlM_itemChars (next :: items) h.2]
    · simp [itemTokens]
    · exact List.cons_ne_nil next items

theorem foldlM_memberChars : ∀ (members : List (List Char × Json)), MembersWellSpelled members →
    ∀ found : List Token, (memberChars members).foldlM step ⟨found, .nothing⟩ =
      some ⟨(memberTokens members).reverse ++ found, .nothing⟩
  | [], _, found => rfl
  | [(key, value)], h, found => by
    obtain ⟨⟨cs, rfl⟩, hvalue, -⟩ := h
    obtain ⟨s, hs, hsettles⟩ :=
      exists_settles_chars value hvalue (.colon :: .string (Quoted.encode cs) :: found)
    rw [memberChars, foldlM_key, foldlM_append_punctuation hs hsettles rfl]
    simp [memberTokens]
  | (key, value) :: next :: members, h, found => by
    obtain ⟨⟨cs, rfl⟩, hvalue, hmembers⟩ := h
    obtain ⟨s, hs, hsettles⟩ :=
      exists_settles_chars value hvalue (.colon :: .string (Quoted.encode cs) :: found)
    rw [memberChars, foldlM_key, foldlM_append_punctuation hs hsettles rfl,
      foldlM_memberChars (next :: members) hmembers]
    · simp [memberTokens]
    · exact List.cons_ne_nil next members

end

theorem scan?_chars {j : Json} (h : WellSpelled j) : scan? j.chars = some (tokens j) := by
  obtain ⟨s, hs, hsettles⟩ := exists_settles_chars j h []
  simp [scan?, hs, hsettles.finish_eq]

/-- A value begins with a token that ends no array. -/
theorem exists_tokens_eq_cons (j : Json) :
    ∃ token rest, tokens j = token :: rest ∧ token ≠ .closeBracket := by
  cases j <;> exact ⟨_, _, rfl, nofun⟩

/-- The first item of an array is read as one that follows others. -/
theorem foldlM_firstItem (items : List Json) (hne : items ≠ []) (stack : List Frame) :
    (itemTokens items).foldlM Expects.step (.firstItem stack) =
      (itemTokens items).foldlM Expects.step (.aValue (.array [] :: stack)) := by
  obtain ⟨token, rest, htokens, htoken⟩ : ∃ token rest, itemTokens items = token :: rest ∧
      token ≠ .closeBracket := by
    cases items with
    | nil => exact absurd rfl hne
    | cons item items =>
      obtain ⟨token, rest, htokens, htoken⟩ := exists_tokens_eq_cons item
      cases items <;> exact ⟨token, _, by simp [itemTokens, htokens]; rfl, htoken⟩
  have hstep : Expects.step (.firstItem stack) token =
      Expects.step (.aValue (.array [] :: stack)) token := by
    cases token <;> first | rfl | exact absurd rfl htoken
  rw [htokens, List.foldlM_cons, List.foldlM_cons, hstep]

/-- The first key of an object is read as one that follows others. -/
theorem foldlM_firstKey (members : List (List Char × Json)) (hne : members ≠ [])
    (stack : List Frame) : (memberTokens members).foldlM Expects.step (.firstKey stack) =
      (memberTokens members).foldlM Expects.step (.nextKey [] stack) := by
  cases members with
  | nil => exact absurd rfl hne
  | cons member members => cases members <;> rfl

mutual

/-- Reading the tokens of a value completes the value and leaves the open ones as they are. -/
theorem foldlM_tokens : ∀ (j : Json) (stack : List Frame),
    (tokens j).foldlM Expects.step (.aValue stack) = some (.afterValue j stack)
  | .null, _ => rfl
  | .bool _, _ => rfl
  | .number _, _ => rfl
  | .string _, _ => rfl
  | .array [], _ => rfl
  | .array (item :: items), stack => by
    have hitems := foldlM_itemTokens (item :: items) (List.cons_ne_nil _ _) [] stack
    simp [tokens, Expects.step, Expects.beginValue, foldlM_firstItem, hitems]
  | .object [], _ => rfl
  | .object (member :: members), stack => by
    have hmembers := foldlM_memberTokens (member :: members) (List.cons_ne_nil _ _) [] stack
    simp [tokens, Expects.step, Expects.beginValue, foldlM_firstKey, hmembers]

theorem foldlM_itemTokens : ∀ (items : List Json), items ≠ [] → ∀ (read : List Json)
    (stack : List Frame), (itemTokens items).foldlM Expects.step (.aValue (.array read :: stack)) =
      some (.afterValue (.array (read.reverse ++ items)) stack)
  | [], hne, _, _ => absurd rfl hne
  | [item], _, read, stack => by
    simp [itemTokens, List.foldlM_append, foldlM_tokens item, Expects.step]
  | item :: next :: items, _, read, stack => by
    have hrest := foldlM_itemTokens (next :: items) (List.cons_ne_nil _ _) (item :: read) stack
    simp [itemTokens, List.foldlM_append, foldlM_tokens item, Expects.step, hrest]

theorem foldlM_memberTokens : ∀ (members : List (List Char × Json)),
    members ≠ [] → ∀ (read : List (List Char × Json)) (stack : List Frame),
    (memberTokens members).foldlM Expects.step (.nextKey read stack) =
      some (.afterValue (.object (read.reverse ++ members)) stack)
  | [], hne, _, _ => absurd rfl hne
  | [(key, value)], _, read, stack => by
    simp [memberTokens, List.foldlM_append, foldlM_tokens value, Expects.step]
  | (key, value) :: next :: members, _, read, stack => by
    have hrest := foldlM_memberTokens (next :: members) (List.cons_ne_nil _ _)
      ((key, value) :: read) stack
    simp [memberTokens, List.foldlM_append, foldlM_tokens value, Expects.step, hrest]

end

theorem ofTokens?_tokens (j : Json) : ofTokens? (tokens j) = some j := by
  simp [ofTokens?, foldlM_tokens, Expects.result?]

theorem parse?_text {j : Json} (h : WellSpelled j) : parse? j.text = some j := by
  simp [parse?, text, scan?_chars h, ofTokens?_tokens]

end GalaxyScenario.Json
