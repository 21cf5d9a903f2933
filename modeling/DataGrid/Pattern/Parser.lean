import DataGrid.Pattern.Size
import DataGrid.Pattern.Bracket
import DataGrid.Text.Unicode.Additions

/-!
# Regular expressions

Reads a pattern from the text of a regular expression: alternatives, groups with names and
flags, repetitions with counts, anchors and word boundaries, escapes, and character classes
with nesting and set operations. There is no look-around and no reference to a group. Without
Unicode a class may only hold ASCII characters, so that a match never ends inside a character.
The parts may be nested up to a limit, and the pattern may take so much room.
-/

namespace DataGrid.Pattern

/-! ## Names and counts -/

def isNameStart (c : Char) : Bool := c == '_' || Unicode.nameLetters.contains c

def isNameChar (c : Char) : Bool :=
  isNameStart c || c == '.' || c == '[' || c == ']' || Unicode.nameDigits.contains c

/-- Reads the name of a group up to the closing angle bracket. -/
def groupName? (cs : List Char) : Option (String × List Char) := do
  let (name, r) ← splitAt? (· == '>') cs
  match name with
  | [] => none
  | c :: cs => if isNameStart c && cs.all isNameChar then some (String.ofList name, r) else none

/-- The digits of a count; in a verbose pattern blanks and comments may follow each. -/
def countDigits (f : Flags) (n : Nat) (any comment : Bool) : List Char → Nat × Bool × List Char
  | [] => (n, any, [])
  | c :: r =>
    if comment then countDigits f n any (c != '\n') r
    else if c.isDigit then countDigits f (n * 10 + (c.toNat - '0'.toNat)) true false r
    else if f.verbose ∧ any ∧ isBlank c then countDigits f n any false r
    else if f.verbose ∧ any ∧ c = '#' then countDigits f n any true r
    else (n, any, c :: r)

/-- A count with blanks around it. -/
def count? (f : Flags) (cs : List Char) : Option (Nat × List Char) :=
  let (n, any, r) := countDigits f 0 false false (cs.dropWhile isBlank)
  if any ∧ n < 2 ^ 32 then some (n, f.space (r.dropWhile isBlank)) else none

/-- The bounds of a counted repetition after its opening brace. -/
def bounds? (f : Flags) (cs : List Char) : Option (Nat × Option Nat × List Char) := do
  let (low, r) ← count? f (f.space cs)
  match r with
  | '\x7d' :: r => some (low, some low, f.space r)
  | ',' :: r =>
    match f.space r with
    | '\x7d' :: r => some (low, none, f.space r)
    | r => do
      let (high, r) ← count? f r
      match r with
      | '\x7d' :: r => if low ≤ high then some (low, some high, f.space r) else none
      | _ => none
  | _ => none

/-! ## Sequences and alternatives -/

/-- A part of a sequence with the depth of its own parts; a change of flags cannot be
repeated. -/
structure Item where
  pattern : Pattern
  depth : Nat
  repeatable : Bool

/-- Repeats the part read last. -/
def repeatLast? (low : Nat) (high : Option Nat) (eager : Bool) : List Item → Option (List Item)
  | ⟨p, depth, true⟩ :: r => some (⟨p.times low high eager, depth + 1, true⟩ :: r)
  | _ => none

/-- A repetition is eager unless a mark follows, which is dropped. -/
def lazyMark (f : Flags) : List Char → Bool × List Char
  | '?' :: r => (f.swapped, r)
  | r => (!f.swapped, r)

/-- A pattern with the depth of its parts. -/
structure Nested where
  pattern : Pattern
  depth : Nat

/-- The sequence of the parts read so far, which are in reverse. -/
def sequence (items : List Item) : Nested where
  pattern := concat (items.reverse.map (·.pattern))
  depth := match items with
    | [] => 0
    | [i] => i.depth
    | items => items.foldl (fun d i => max d i.depth) 0 + 1

/-- The alternatives, which are in reverse. -/
def choice (alts : List Nested) : Nested :=
  match alts with
  | [] => ⟨.empty, 0⟩
  | [a] => a
  | alts =>
    ⟨alternatives (alts.reverse.map (·.pattern)), alts.foldl (fun d a => max d a.depth) 0 + 1⟩

/-- The groups opened so far: how many, and the names they have. -/
structure Groups where
  count : Nat
  names : List String

/-- Reads alternatives up to the end or, inside `level` groups, to the closing parenthesis of
the last of them. -/
def alternatives? : Nat → Nat → Flags → Groups → List Nested → List Item → List Char →
    Option (Nested × Groups × List Char)
  | 0, _, _, _, _, _, _ => none
  | fuel + 1, level, f, groups, alts, items, cs =>
    let more (items : List Item) (r : List Char) :=
      alternatives? fuel level f groups alts items r
    let part (p : Pattern) (r : List Char) := more (⟨p, 0, true⟩ :: items) r
    let enter (g : Flags) (groups : Groups) (wrap : Pattern → Pattern) (r : List Char) := do
      if nestLimit ≤ level then none
      else
        let (inner, groups, r) ← alternatives? fuel (level + 1) g groups [] [] r
        let item : Item := ⟨wrap inner.pattern, inner.depth + 1, true⟩
        alternatives? fuel level f groups alts (item :: items) r
    let numbered (names : List String) (r : List Char) :=
      enter f ⟨groups.count + 1, names⟩ (.group (groups.count + 1)) r
    let named (r : List Char) := do
      let (name, r) ← groupName? r
      if groups.names.contains name then none else numbered (name :: groups.names) r
    let repetition (low : Nat) (high : Option Nat) (r : List Char) := do
      let (eager, r) := lazyMark f r
      more (← repeatLast? low high eager items) r
    match f.space cs with
    | [] => if level = 0 then some (choice (sequence items :: alts), groups, []) else none
    | ')' :: r =>
      if level = 0 then none else some (choice (sequence items :: alts), groups, r)
    | '|' :: r => alternatives? fuel level f groups (sequence items :: alts) [] r
    | '(' :: r =>
      match f.space r with
      | '?' :: 'P' :: '<' :: r => named r
      | '?' :: '<' :: r => named r
      | '?' :: r => do
        let (g, last, bare, r) ← f.read? false false [] r
        if last = ':' then enter g groups id r
        else if bare then none
        else alternatives? fuel level g groups alts (⟨.empty, 0, false⟩ :: items) r
      | r => numbered groups.names r
    | '[' :: r => do
      let (s, r) ← bracket? f fuel 0 r
      more (⟨ofSet s.set, s.depth, true⟩ :: items) r
    | '?' :: r => repetition 0 (some 1) r
    | '*' :: r => repetition 0 none r
    | '+' :: r => repetition 1 none r
    | '\x7b' :: r => do
      let (low, high, r) ← bounds? f r
      repetition low high r
    | '\\' :: r => do
      let (a, r) ← escape? f r
      part (a.toPattern f) r
    | '.' :: r => do part (← f.dot?) r
    | '^' :: r => part (.look f.lineStart) r
    | '$' :: r => part (.look f.lineEnd) r
    | c :: r => part (f.literal c) r

/-- Why a text is not accepted as a regular expression. -/
inductive Fault where
  | malformed
  | oversized
deriving DecidableEq

/-- The pattern, if it is small enough. -/
def checkSize (p : Pattern) : Except Fault Pattern :=
  if p.fits then return p else throw .oversized

/-- The pattern of a regular expression. -/
def parse (s : String) : Except Fault Pattern :=
  let cs := s.toList
  match alternatives? (2 * cs.length + 2) 0 {} ⟨0, []⟩ [] [] cs with
  | none => throw .malformed
  | some (n, _) => if n.depth ≤ nestLimit then checkSize n.pattern else throw .malformed

end DataGrid.Pattern
