import DataGrid.Number.Power
import DataGrid.Pattern.Flags
import DataGrid.Text.Hex

/-!
# Escapes of regular expressions

The parts that begin with a backslash: characters by their code, classes of letters, Unicode
properties, anchors and word boundaries.
-/

namespace DataGrid.Pattern

/-- What stands for one character or one position. -/
inductive Atom where
  | literal (c : Char)
  | set (s : CharSet)
  | look (k : Look)

def Atom.toPattern (f : Flags) : Atom → Pattern
  | .literal c => f.literal c
  | .set s => ofSet s
  | .look k => .look k

def charOfCode? (n : Nat) : Option Char :=
  if n.isValidChar then some (Char.ofNat n) else none

/-- Exactly `k` more hexadecimal digits. -/
def hexDigits? (f : Flags) : Nat → Nat → List Char → Option (Nat × List Char)
  | 0, n, cs => some (n, cs)
  | k + 1, n, cs =>
    match f.space cs with
    | [] => none
    | c :: r => do hexDigits? f k (n * 16 + (← Hex.value? c)) r

/-- The text up to a closing brace, without what does not count. -/
def bracedText? (f : Flags) (comment : Bool) : List Char → Option (List Char × List Char)
  | [] => none
  | c :: r =>
    if comment then bracedText? f (c != '\n') r
    else if f.verbose ∧ isBlank c then bracedText? f false r
    else if f.verbose ∧ c = '#' then bracedText? f true r
    else if c = '\x7d' then some ([], r)
    else (bracedText? f false r).map fun p => (c :: p.1, p.2)

/-- The number that hexadecimal digits spell; there is at least one. -/
def hexNumber? (cs : List Char) : Option Nat :=
  if cs.isEmpty then none
  else
    cs.foldl (fun n c => do
      let m := (← n) * 16 + (← Hex.value? c)
      if m < 2 ^ 32 then some m else none) (some 0)

/-- The character of a hexadecimal escape with `k` digits or braces. -/
def hexEscape? (f : Flags) (k : Nat) (cs : List Char) : Option (Atom × List Char) := do
  let cs := f.space cs
  let (n, r, braced) ← match cs with
    | '\x7b' :: r => (bracedText? f false r).bind fun p =>
      (hexNumber? p.1).map fun n => (n, p.2, true)
    | _ => (hexDigits? f k 0 cs).map fun p => (p.1, p.2, false)
  let c ← charOfCode? n
  if !f.unicode ∧ !braced ∧ k = 2 ∧ 0x7F < n then none
  else some (.literal c, f.space r)

/-- The position of the first character that satisfies `p`, split there. -/
def splitAt? (p : Char → Bool) (cs : List Char) : Option (List Char × List Char) :=
  match cs.dropWhile (!p ·) with
  | [] => none
  | _ :: r => some (cs.takeWhile (!p ·), r)

/-- Splits a text at its first `!=`; `seen` holds the characters before, in reverse. -/
def splitUnequal? (seen : List Char) : List Char → Option (List Char × List Char)
  | [] => none
  | '!' :: '=' :: r => some (seen.reverse, r)
  | c :: r => splitUnequal? (c :: seen) r

/-- The set that the text between the braces of a property names. -/
def propertyText? (name : List Char) : Option (Bool × CharSet) :=
  let valued (p : List Char × List Char) :=
    Unicode.valued? (String.ofList p.1) (String.ofList p.2)
  match splitUnequal? [] name with
  | some p => (valued p).map (true, ·)
  | none =>
    match splitAt? (· == ':') name <|> splitAt? (· == '=') name with
    | some p => (valued p).map (false, ·)
    | none => (Unicode.named? (String.ofList name)).map (false, ·)

/-- A Unicode property after `\p` or, negated, `\P`. -/
def property? (f : Flags) (negated : Bool) (cs : List Char) : Option (Atom × List Char) := do
  let finish (n : Bool) (s : CharSet) (r : List Char) : Option (Atom × List Char) := do
    if !f.unicode then none
    else some (.set (← f.negate? (n != negated) (f.fold s)), r)
  match f.space cs with
  | [] => none
  | '\x7b' :: r =>
    let (name, r) ← bracedText? f false r
    let (n, s) ← propertyText? name
    finish n s r
  | c :: r =>
    if c = '\\' then none
    else
      let s ← Unicode.category? (Unicode.normalizeName (String.singleton c))
      finish false s (f.space r)

def isLetterOrHyphen (c : Char) : Bool := c.isAlpha || c == '-'

/-- A word boundary, with the side or half that braces after it may choose. -/
def boundary? (f : Flags) (cs : List Char) : Option (Atom × List Char) :=
  let word := wordSet f.unicode
  let plain := some (Atom.look (.wordBoundary word), cs)
  match cs with
  | '\x7b' :: r =>
    match f.space r with
    | [] => none
    | c :: r =>
      if !isLetterOrHyphen c then plain
      else do
        let (name, r) ← bracedText? f false (c :: r)
        match String.ofList name with
        | "start" => some (.look (.wordStart word), r)
        | "end" => some (.look (.wordEnd word), r)
        | "start-half" => some (.look (.wordStartHalf word), r)
        | "end-half" => some (.look (.wordEndHalf word), r)
        | _ => none
  | _ => plain

/-- ASCII characters other than letters, digits and angle brackets stand for themselves. -/
def isPlainEscape (c : Char) : Bool :=
  c.toNat < 0x80 && !c.isAlphanum && c != '<' && c != '>'

/-- The part after a backslash. -/
def escape? (f : Flags) : List Char → Option (Atom × List Char)
  | [] => none
  | c :: r =>
    let look (k : Look) := some (Atom.look k, r)
    let literal (d : Char) := some (Atom.literal d, r)
    match c with
    | 'x' => hexEscape? f 2 r
    | 'u' => hexEscape? f 4 r
    | 'U' => hexEscape? f 8 r
    | 'p' => property? f false r
    | 'P' => property? f true r
    | 'd' | 's' | 'w' => some (.set (letterClass f.unicode c), r)
    | 'D' | 'S' | 'W' => (f.negate? true (letterClass f.unicode c.toLower)).map (.set ·, r)
    | 'a' => literal '\x07'
    | 'f' => literal '\x0c'
    | 't' => literal '\t'
    | 'n' => literal '\n'
    | 'r' => literal '\r'
    | 'v' => literal '\x0b'
    | 'A' => look .textStart
    | 'z' => look .textEnd
    | 'b' => boundary? f r
    | 'B' => look (.notWordBoundary (wordSet f.unicode))
    | '<' => look (.wordStart (wordSet f.unicode))
    | '>' => look (.wordEnd (wordSet f.unicode))
    | _ => if isPlainEscape c then literal c else none

end DataGrid.Pattern
