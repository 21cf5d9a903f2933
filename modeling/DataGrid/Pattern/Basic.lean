import DataGrid.Text.Unicode.Ranges

/-!
# Patterns

A pattern describes stretches of a text. Beside the type stand the facts about a pattern that
do not depend on a text: how long its matches are at least, and whether all of them are empty.
-/

namespace DataGrid

namespace Pattern

/-- A condition on the characters around a position. -/
inductive Look where
  | textStart
  | textEnd
  | lineStart
  | lineEnd
  | crlfLineStart
  | crlfLineEnd
  | wordBoundary (word : CharSet)
  | notWordBoundary (word : CharSet)
  | wordStart (word : CharSet)
  | wordEnd (word : CharSet)
  | wordStartHalf (word : CharSet)
  | wordEndHalf (word : CharSet)
deriving DecidableEq

/-- Whether the condition holds between these neighbours. -/
def Look.holds (k : Look) (before after : Option Char) : Bool :=
  let inside (word : CharSet) (c : Option Char) : Bool := c.any word.contains
  match k with
  | .textStart => before.isNone
  | .textEnd => after.isNone
  | .lineStart => before.isNone || before == some '\n'
  | .lineEnd => after.isNone || after == some '\n'
  | .crlfLineStart =>
    before.isNone || before == some '\n' || (before == some '\r' && after != some '\n')
  | .crlfLineEnd =>
    after.isNone || after == some '\r' || (after == some '\n' && before != some '\r')
  | .wordBoundary w => inside w before != inside w after
  | .notWordBoundary w => inside w before == inside w after
  | .wordStart w => !inside w before && inside w after
  | .wordEnd w => inside w before && !inside w after
  | .wordStartHalf w => !inside w before
  | .wordEndHalf w => !inside w after

end Pattern

inductive Pattern where
  | empty
  /-- These characters in a row. -/
  | text (cs : List Char)
  | chars (s : CharSet)
  | look (k : Pattern.Look)
  | group (number : Nat) (p : Pattern)
  /-- From `low` to `high` matches in a row; without a limit if `high` is none. -/
  | repeated (p : Pattern) (low : Nat) (high : Option Nat) (eager : Bool)
  | seq (ps : List Pattern)
  | alt (ps : List Pattern)

namespace Pattern

mutual

/-- Whether two patterns are written alike. -/
def same : Pattern → Pattern → Bool
  | .empty, .empty => true
  | .text a, .text b => a == b
  | .chars s, .chars t => s == t
  | .look j, .look k => j == k
  | .group m p, .group n q => m == n && same p q
  | .repeated p l h e, .repeated q l' h' e' => l == l' && h == h' && e == e' && same p q
  | .seq ps, .seq qs | .alt ps, .alt qs => sameAll ps qs
  | _, _ => false

def sameAll : List Pattern → List Pattern → Bool
  | [], [] => true
  | p :: ps, q :: qs => same p q && sameAll ps qs
  | _, _ => false

end

/-! ## Lengths of matches -/

mutual

/-- The fewest bytes of a match; none where a part that has to match never does. -/
def minLength : Pattern → Option Nat
  | .empty | .look _ => some 0
  | .text cs => some (String.ofList cs).utf8ByteSize
  | .chars s => s.ranges.head?.map fun r => (Char.ofNat r.1).utf8Size
  | .group _ p => p.minLength
  | .repeated p low _ _ => p.minLength.map (low * ·)
  | .seq ps => minLengthSum ps
  | .alt [] => none
  | .alt (p :: ps) => minLengthLeast p.minLength ps

def minLengthSum : List Pattern → Option Nat
  | [] => some 0
  | p :: ps => do some ((← p.minLength) + (← minLengthSum ps))

def minLengthLeast (least : Option Nat) : List Pattern → Option Nat
  | [] => least
  | p :: ps => do minLengthLeast (some (min (← least) (← p.minLength))) ps

end

/-- Whether every match takes a character. -/
def consumes (p : Pattern) : Bool := p.minLength.any (0 < ·)

mutual

/-- Whether every match is empty. -/
def onlyEmpty : Pattern → Bool
  | .empty | .look _ => true
  | .text _ | .chars _ => false
  | .group _ p => p.onlyEmpty
  | .repeated p _ high _ => high.isSome && p.onlyEmpty
  | .seq ps | .alt ps => onlyEmptyAll ps

def onlyEmptyAll : List Pattern → Bool
  | [] => true
  | p :: ps => p.onlyEmpty && onlyEmptyAll ps

end

end Pattern

end DataGrid
