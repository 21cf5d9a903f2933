import DataGrid.Number.Power
import DataGrid.Pattern.Automaton
import DataGrid.Pattern.Basic

/-!
# The room that a pattern takes

A pattern is searched for by an automaton over bytes, in which counted repetitions are written
out; the same automaton backwards finds where a match begins. A pattern `fits` if neither needs
more than `sizeLimit` bytes.
-/

namespace DataGrid.Pattern

/-- The room that a pattern may take. -/
def sizeLimit : Nat := 10 * 2 ^ 20

/-! ## Lists of words -/

/-- Splits words at the empty ones, which come before the words after them in preference. -/
def splitAtEmpty (chunk : List (List Nat)) : List (List Nat) → List (List (List Nat))
  | [] => [chunk.reverse]
  | [] :: ws => chunk.reverse :: splitAtEmpty [] ws
  | w :: ws => splitAtEmpty (w :: chunk) ws

/-- Of empty words in front only one counts. -/
def dropRepeated : List (List Nat) → List (List Nat)
  | [] :: ws => [] :: ws.dropWhile (·.isEmpty)
  | ws => ws

/-- The rests of the words that begin with the byte. -/
def restsOf (b : Nat) (words : List (List Nat)) : List (List Nat) :=
  words.filterMap fun w => match w with
    | c :: r => if c = b then some r else none
    | [] => none

/-- The first bytes of words, each once. -/
def firstBytes (words : List (List Nat)) : List Nat := (words.filterMap (·.head?)).eraseDups

/-- A tree of the words: their common beginnings are shared, in the order of preference. -/
def growTree : Nat → List (List Nat) → Automaton → Automaton
  | 0, _, a => a
  | fuel + 1, words, a =>
    let chunks := splitAtEmpty [] (dropRepeated words)
    let grown := chunks.foldl (fun a chunk =>
      let firsts := firstBytes chunk
      let a := firsts.foldl (fun a b =>
        let rests := restsOf b chunk
        if rests.all (·.isEmpty) then a else growTree fuel rests a) a
      if firsts.isEmpty then a
      else if firsts.length = 1 then a.addStates 1 else a.addChoice firsts.length) a
    let used := (chunks.filter (!·.isEmpty)).length
    grown.addBranch (used + (chunks.length - 1))

def bytesOf (back : Bool) (cs : List Char) : List Nat :=
  let bytes := cs.flatMap fun c => ByteRange.encode c.toNat
  if back then bytes.reverse else bytes

/-- The size of a choice of words. -/
def wordsSize (back : Bool) (words : List (List Char)) : Automaton :=
  let words := words.map (bytesOf back)
  growTree (words.foldl (fun n w => max n w.length) 0 + 1) words (Automaton.empty.addStates 1)

/-! ## Plans -/

/-- What a pattern adds to an automaton, in the order in which it is built. -/
inductive Plan where
  /-- States and links that are the same wherever they are built. -/
  | fixed (size : Automaton)
  /-- A character of a set, as sequences of ranges of bytes. -/
  | set (back : Bool) (sequences : List (List ByteRange))
  /-- Marks around a part. -/
  | marked (p : Plan)
  | repeated (p : Plan) (consuming : Bool) (low : Nat) (high : Option Nat)
  | row (ps : List Plan)
  | either (ps : List Plan)
deriving Inhabited

def planSet (back : Bool) (s : CharSet) : Plan :=
  if s.isAscii then .fixed ((Automaton.empty.addStates 1).addChoice s.ranges.length)
  else .set back (s.ranges.flatMap fun r => ByteRange.ofCodePoints r.1 r.2)

def asText? : Pattern → Option (List Char)
  | .text cs => some cs
  | _ => none

mutual

def planOf (back : Bool) : Pattern → Plan
  | .empty | .look _ => .fixed (Automaton.empty.addStates 1)
  | .text cs => .fixed (Automaton.empty.addStates (String.ofList cs).utf8ByteSize)
  | .chars s => planSet back s
  | .group _ p => if back then planOf back p else .marked (planOf back p)
  | .repeated p low high _ => .repeated (planOf back p) p.consumes low high
  | .seq ps => .row (if back then (planAll back ps).reverse else planAll back ps)
  | .alt ps =>
    match ps.mapM asText? with
    | some words => .fixed (wordsSize back words)
    | none => .either (planAll back ps)

def planAll (back : Bool) : List Pattern → List Plan
  | [] => []
  | p :: ps => planOf back p :: planAll back ps

end

mutual

/-- Whether what is built last is a branch. -/
def Plan.branching : Plan → Bool
  | .repeated _ consuming low none => 0 < low || consuming
  | .repeated p _ low (some high) => low == high && p.branching
  | .row ps => lastBranching ps
  | _ => false

def lastBranching : List Plan → Bool
  | [] => false
  | p :: ps => if ps.isEmpty then p.branching else lastBranching ps

end

/-- `n` copies in a row; no more are made once the automaton is too large. -/
def copies (f : Automaton → Automaton) : Nat → Automaton → Automaton
  | 0, a => a
  | n + 1, a => if sizeLimit < a.room then a else copies f n (f a)

/-- A repetition of what `f` builds. -/
def growRepeated (f : Automaton → Automaton) (branching consuming : Bool) (low : Nat)
    (high : Option Nat) (a : Automaton) : Automaton :=
  let next (a : Automaton) := (f a).continueFrom branching
  match low, high with
  | 0, some 1 => (next (a.addBranch 2)).addStates 1
  | 0, none =>
    if consuming then next (a.addBranch 1)
    else (((next a).addBranch 2).addBranch 2).addStates 1
  | 1, none => (next a).addBranch 1
  | n, none => (next (copies next (n - 1) a)).addBranch 1
  | n, some m =>
    if n = m then f (copies next (n - 1) a)
    else
      let start := if n = 0 then a.addStates 1 else copies next n a
      copies (fun a => next (a.addBranch 2)) (m - n) (start.addStates 1)

mutual

def Plan.grow : Plan → Automaton → Automaton
  | .fixed size, a => ⟨a.states + size.states, a.linkBytes + size.linkBytes⟩
  | .set back sequences, a =>
    if back then growBackwards sequences a else growForwards sequences a
  | .marked p, a => ((p.grow (a.addStates 1)).continueFrom p.branching).addStates 1
  | .repeated p consuming low high, a => growRepeated p.grow p.branching consuming low high a
  | .row ps, a => growRow ps a
  | .either [], a => a
  | .either [p], a => p.grow a
  | .either (p :: q :: ps), a =>
    let both := ((q.grow (p.grow a)).continueFrom p.branching).continueFrom q.branching
    growEach ps ((both.addBranch 2).addStates 1)

/-- One after the other; a branch at the end of one leads on to the next. -/
def growRow : List Plan → Automaton → Automaton
  | [], a => a
  | p :: ps, a => growRow ps ((p.grow a).continueFrom (!ps.isEmpty && p.branching))

/-- Further alternatives, each with its link from the branch. -/
def growEach : List Plan → Automaton → Automaton
  | [], a => a
  | p :: ps, a => growEach ps (((p.grow a).continueFrom true).continueFrom p.branching)

end

/-! ## Whole patterns -/

mutual

/-- Whether every match begins where the text does, or, backwards, ends where it ends. -/
def anchored (back : Bool) : Pattern → Bool
  | .look k => k == (if back then .textEnd else .textStart)
  | .group _ p => anchored back p
  | .repeated p low _ _ => 0 < low && anchored back p
  | .seq ps => anchoredRow back ps
  | .alt ps => anchoredAll back ps
  | _ => false

def anchoredRow (back : Bool) : List Pattern → Bool
  | [] => false
  | p :: ps =>
    if back then anchoredRow back ps || (onlyEmptyAll ps && anchored back p)
    else anchored back p || (p.onlyEmpty && anchoredRow back ps)

def anchoredAll (back : Bool) : List Pattern → Bool
  | [] => true
  | p :: ps => anchored back p && anchoredAll back ps

end

/-- The automaton of a whole pattern: what may come before a match, the match, and its end. -/
def automaton (back : Bool) (p : Pattern) : Automaton :=
  let start :=
    if anchored back p then Automaton.empty.addStates 1
    else ((Automaton.empty.addBranch 2).addStates 1).addChoice 1
  let plan := if back then planOf back p else .marked (planOf back p)
  ((plan.grow start).continueFrom plan.branching).addStates 1

/-- Whether the pattern is a choice of so many words that they are looked up in a table. -/
def isDictionary : Pattern → Bool
  | .alt ps => 3000 ≤ ps.length && ps.all (·.asText?.isSome)
  | _ => false

/-- Whether the pattern is small enough. -/
def fits (p : Pattern) : Bool :=
  isDictionary p ||
    ((automaton false p).room ≤ sizeLimit && (automaton true p).room ≤ sizeLimit)

end DataGrid.Pattern
