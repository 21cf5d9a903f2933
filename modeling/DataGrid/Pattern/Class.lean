import DataGrid.Text.Unicode.Age
import DataGrid.Text.Unicode.Derived
import DataGrid.Text.Unicode.Folding
import DataGrid.Text.Unicode.Script
import DataGrid.Text.Unicode.Segment

/-!
# Character classes of patterns

The sets that a pattern can name: the letter classes of an escape, the bracketed ASCII
classes, and the Unicode properties; and the closing of a set under case folding.
-/

namespace DataGrid

namespace CharSet

/-- The set with every character that differs from one of its members only by case. -/
def foldClosure (s : CharSet) : CharSet :=
  let has (n : Nat) : Bool := s.ranges.any fun r => r.1 ≤ n && n ≤ r.2
  let folded := (Unicode.foldPairs.filter fun p => has p.1).map (·.2)
  let reached := Unicode.foldPairs.filter fun p => has p.2 || folded.contains p.2
  ofRanges (s.ranges ++ folded.map (fun n => (n, n)) ++ reached.map (fun p => (p.1, p.1)))

/-- As `foldClosure`, among ASCII letters only. -/
def foldClosureAscii (s : CharSet) : CharSet :=
  let shifted (low high : Nat) (d : Int) := s.ranges.filterMap fun r =>
    let a := max r.1 low
    let b := min r.2 high
    if a ≤ b then some ((a + d).toNat, (b + d).toNat) else none
  ofRanges (s.ranges ++ shifted 0x41 0x5A 32 ++ shifted 0x61 0x7A (-32))

end CharSet

namespace Unicode

/-- Names are compared without case, blanks, hyphens and underscores, and without `is` in front. -/
def normalizeName (name : String) : String :=
  let plain (cs : List Char) :=
    (cs.filter fun c => c != '_' && c != '-' && c != ' ' && c.toNat < 0x80).map Char.toLower
  String.ofList <| match name.toList with
    | i :: s :: r =>
      if i.toLower = 'i' ∧ s.toLower = 's' then
        let rest := plain r
        if rest = ['c'] then ['i', 's', 'c'] else rest
      else plain (i :: s :: r)
    | cs => plain cs

/-- The set that a name alone stands for: a property, a category or a script. -/
def named? (name : String) : Option CharSet :=
  let n := normalizeName name
  let known := if n = "cf" ∨ n = "sc" ∨ n = "lc" then none else binary? n
  known <|> category? n <|> find? scripts n

/-- The characters that a script uses, its own and those that it shares with others. -/
def scriptsUsing? (name : String) : Option CharSet := do
  let script ← scripts.find? (·.names.contains name)
  let own := script.toCharSet
  if script.names.contains "zyyy" ∨ script.names.contains "zinh" then
    some (own.diff (.unionAll (sharedCharacters.map (·.toCharSet))))
  else
    match sharedCharacters.find? (·.names.any script.names.contains) with
    | none => some own
    | some shared => some (own.union shared.toCharSet)

/-- The set of a property with a value. -/
def valued? (property value : String) : Option CharSet :=
  let v := normalizeName value
  match normalizeName property with
  | "gc" | "generalcategory" => category? v
  | "sc" | "script" => find? scripts v
  | "scx" | "scriptextensions" => scriptsUsing? v
  | "age" => assignedBy? v
  | "gcb" | "graphemeclusterbreak" => graphemeBreak? v
  | "wb" | "wordbreak" => wordBreak? v
  | "sb" | "sentencebreak" => sentenceBreak? v
  | _ => none

def blanks : CharSet := property "wspace"

/-- Letters, marks, digits, connecting punctuation and joiners. -/
def wordChars : CharSet :=
  .unionAll [alphabetic, property "joinc", marks, digits, unionOf ["pc"]]

end Unicode

namespace Pattern

def asciiDigits : CharSet := ⟨[(0x30, 0x39)]⟩

def asciiBlanks : CharSet := ⟨[(9, 13), (0x20, 0x20)]⟩

def asciiWord : CharSet := ⟨[(0x30, 0x39), (0x41, 0x5A), (0x5F, 0x5F), (0x61, 0x7A)]⟩

def wordSet (unicode : Bool) : CharSet := if unicode then Unicode.wordChars else asciiWord

/-- The set of an escape `\d`, `\s` or `\w`. -/
def letterClass (unicode : Bool) : Char → CharSet
  | 'd' => if unicode then Unicode.digits else asciiDigits
  | 's' => if unicode then Unicode.blanks else asciiBlanks
  | _ => wordSet unicode

/-- The set of a bracketed class such as `[:alpha:]`. -/
def asciiClass? : String → Option CharSet
  | "alnum" => some ⟨[(0x30, 0x39), (0x41, 0x5A), (0x61, 0x7A)]⟩
  | "alpha" => some ⟨[(0x41, 0x5A), (0x61, 0x7A)]⟩
  | "ascii" => some ⟨[(0, 0x7F)]⟩
  | "blank" => some ⟨[(9, 9), (0x20, 0x20)]⟩
  | "cntrl" => some ⟨[(0, 0x1F), (0x7F, 0x7F)]⟩
  | "digit" => some asciiDigits
  | "graph" => some ⟨[(0x21, 0x7E)]⟩
  | "lower" => some ⟨[(0x61, 0x7A)]⟩
  | "print" => some ⟨[(0x20, 0x7E)]⟩
  | "punct" => some ⟨[(0x21, 0x2F), (0x3A, 0x40), (0x5B, 0x60), (0x7B, 0x7E)]⟩
  | "space" => some asciiBlanks
  | "upper" => some ⟨[(0x41, 0x5A)]⟩
  | "word" => some asciiWord
  | "xdigit" => some ⟨[(0x30, 0x39), (0x41, 0x46), (0x61, 0x66)]⟩
  | _ => none

end Pattern

end DataGrid
