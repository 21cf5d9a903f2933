import DataGrid.Json.Numeral

/-!
# JSON tokens

The lexemes of a JSON text. Lexing stops at the first place where none begins, and the list
then ends in `bad`. A quoted text whose escapes leave half a surrogate pair, and a numeral
out of range, are tokens whose content is missing: they can be passed over but not read.
-/

namespace DataGrid.Json

inductive Token where
  | openBrace
  | closeBrace
  | openBracket
  | closeBracket
  | colon
  | comma
  | null
  | bool (b : Bool)
  | number (value : Option Json)
  | text (content : Option String)
  | bad

namespace Token

/-- A part of a quoted text: a character as it stands, or a UTF-16 unit from an escape. -/
inductive Piece where
  | char (c : Char)
  | unit (n : Nat)

def hexUnit? (a b c d : Char) : Option Nat := do
  let w ← Hex.value? a
  let x ← Hex.value? b
  let y ← Hex.value? c
  let z ← Hex.value? d
  return ((w * 16 + x) * 16 + y) * 16 + z

def escape? : Char → Option Char
  | '"' => some '"'
  | '\\' => some '\\'
  | '/' => some '/'
  | 'b' => some '\x08'
  | 'f' => some '\x0c'
  | 'n' => some '\n'
  | 'r' => some '\r'
  | 't' => some '\t'
  | _ => none

/-- Reads up to the closing quote. -/
def pieces? : List Char → Option (List Piece × List Char)
  | [] => none
  | '"' :: r => some ([], r)
  | '\\' :: 'u' :: a :: b :: c :: d :: r => do
    let n ← hexUnit? a b c d
    let (ps, r) ← pieces? r
    return (.unit n :: ps, r)
  | '\\' :: c :: r => do
    let e ← escape? c
    let (ps, r) ← pieces? r
    return (.char e :: ps, r)
  | c :: r =>
    if c.toNat < 0x20 then none
    else do
      let (ps, r) ← pieces? r
      return (.char c :: ps, r)

/-- The text of the pieces; nothing when a unit is half of a surrogate pair. -/
def join? : List Piece → Option (List Char)
  | [] => some []
  | .char c :: r => (c :: ·) <$> join? r
  | .unit n :: .unit m :: r =>
    if 0xD800 ≤ n ∧ n < 0xDC00 then
      if 0xDC00 ≤ m ∧ m < 0xE000 then
        (Char.ofNat (0x10000 + (n - 0xD800) * 0x400 + (m - 0xDC00)) :: ·) <$> join? r
      else none
    else if 0xDC00 ≤ n ∧ n < 0xE000 then none
    else (Char.ofNat n :: ·) <$> join? (.unit m :: r)
  | .unit n :: r =>
    if 0xD800 ≤ n ∧ n < 0xE000 then none else (Char.ofNat n :: ·) <$> join? r

theorem pieces?_length {cs r : List Char} {ps : List Piece} (h : pieces? cs = some (ps, r)) :
    r.length ≤ cs.length := by
  fun_induction pieces? cs generalizing ps r with
  | case1 => simp at h
  | case2 s => simp at h; simp [h.2]
  | case3 a b c d s ih =>
    simp only [Option.bind_eq_bind, Option.bind_eq_some_iff] at h
    obtain ⟨n, -, ⟨qs, t⟩, h₁, h₂⟩ := h
    have := ih h₁
    simp at h₂
    simp only [List.length_cons, ← h₂.2]
    omega
  | case4 c s _ ih =>
    simp only [Option.bind_eq_bind, Option.bind_eq_some_iff] at h
    obtain ⟨n, -, ⟨qs, t⟩, h₁, h₂⟩ := h
    have := ih h₁
    simp at h₂
    simp only [List.length_cons, ← h₂.2]
    omega
  | case5 => simp at h
  | case6 c s _ _ _ _ ih =>
    simp only [Option.bind_eq_bind, Option.bind_eq_some_iff] at h
    obtain ⟨⟨qs, t⟩, h₁, h₂⟩ := h
    have := ih h₁
    simp at h₂
    simp only [List.length_cons, ← h₂.2]
    omega

/-- Drops `word` from the head of a text. -/
def word? (word : List Char) (t : Token) (cs : List Char) : Option (Token × List Char) :=
  if word.isPrefixOf cs then some (t, cs.drop word.length) else none

/-- Reads one token; the text does not begin with a blank. -/
def scan? : List Char → Option (Token × List Char)
  | [] => none
  | '\x7b' :: r => some (.openBrace, r)
  | '\x7d' :: r => some (.closeBrace, r)
  | '[' :: r => some (.openBracket, r)
  | ']' :: r => some (.closeBracket, r)
  | ':' :: r => some (.colon, r)
  | ',' :: r => some (.comma, r)
  | 'n' :: r => word? ['u', 'l', 'l'] .null r
  | 't' :: r => word? ['r', 'u', 'e'] (.bool true) r
  | 'f' :: r => word? ['a', 'l', 's', 'e'] (.bool false) r
  | '"' :: r => (pieces? r).map fun p => (.text ((join? p.1).map String.ofList), p.2)
  | c :: r => (Numeral.scan? (c :: r)).map fun p => (.number p.1.value?, p.2)

theorem word?_length {w cs r : List Char} {t u : Token} (h : word? w t cs = some (u, r)) :
    r.length ≤ cs.length := by
  unfold word? at h
  split at h
  · simp only [Option.some.injEq, Prod.mk.injEq] at h
    simp [← h.2]
  · simp at h

theorem scan?_length {cs r : List Char} {t : Token} (h : scan? cs = some (t, r)) :
    r.length < cs.length := by
  unfold scan? at h
  split at h
  case h_1 => simp at h
  case h_8 => exact Nat.lt_succ_of_le (word?_length h)
  case h_9 => exact Nat.lt_succ_of_le (word?_length h)
  case h_10 => exact Nat.lt_succ_of_le (word?_length h)
  case h_11 =>
    simp only [Option.map_eq_some_iff] at h
    obtain ⟨⟨ps, s⟩, h₁, h₂⟩ := h
    simp only [Prod.mk.injEq] at h₂
    rw [← h₂.2]
    exact Nat.lt_succ_of_le (pieces?_length h₁)
  case h_12 =>
    simp only [Option.map_eq_some_iff] at h
    obtain ⟨⟨n, s⟩, h₁, h₂⟩ := h
    simp only [Prod.mk.injEq] at h₂
    rw [← h₂.2]
    exact Numeral.scan?_length h₁
  all_goals
    simp only [Option.some.injEq, Prod.mk.injEq] at h
    simp [← h.2]

def isSpace (c : Char) : Bool := c == ' ' || c == '\n' || c == '\t' || c == '\r'

/-- The tokens of a text. -/
def lex : List Char → List Token
  | [] => []
  | c :: cs =>
    if isSpace c then lex cs
    else
      match h : scan? (c :: cs) with
      | some (t, r) => have := scan?_length h; t :: lex r
      | none => [.bad]
termination_by cs => cs.length
decreasing_by
  · simp
  · exact this

end Token

end DataGrid.Json
