import DataGrid.Number.Power
import DataGrid.Pattern.Basic

/-!
# Matches in a text

A pattern is laid over a text: each of its sets and conditions becomes the set of the positions
where it holds. `ends` then finds, for a set of start positions, every position where a match
that begins at one of them can end. A set of positions is a natural number with one bit for each
position, so that all positions are worked on at once.
-/

namespace DataGrid.Pattern

/-- A pattern over a text. -/
inductive Overlay where
  /-- Goes one character on from the positions of the mask. -/
  | step (mask : Nat)
  /-- Stays at the positions of the mask. -/
  | stay (mask : Nat)
  | repeated (o : Overlay) (low : Nat) (high : Option Nat)
  | seq (os : List Overlay)
  | alt (os : List Overlay)

/-! ## Laying a pattern over a text -/

/-- Adds a position, given as its bit, to those of a character. -/
def addOccurrence (c : Char) (bit : Nat) : List (Char × Nat) → List (Char × Nat)
  | [] => [(c, bit)]
  | (d, m) :: r => if d = c then (d, m ||| bit) :: r else (d, m) :: addOccurrence c bit r

/-- The positions of each character of a text; the first position has the given bit. -/
def occurrencesFrom (bit : Nat) (found : List (Char × Nat)) : List Char → List (Char × Nat)
  | [] => found
  | c :: r => occurrencesFrom (2 * bit) (addOccurrence c bit found) r

/-- The positions whose character is in the set. -/
def setMask (found : List (Char × Nat)) (s : CharSet) : Nat :=
  found.foldl (fun m p => if s.contains p.1 then m ||| p.2 else m) 0

def charMask (found : List (Char × Nat)) (c : Char) : Nat := (found.lookup c).getD 0

/-- The positions where the condition holds, besides those of `mask`. -/
def lookMask (k : Look) (before : Option Char) (bit mask : Nat) : List Char → Nat
  | [] => if k.holds before none then mask ||| bit else mask
  | c :: r =>
    lookMask k (some c) (2 * bit) (if k.holds before (some c) then mask ||| bit else mask) r

/-- A text with the positions of each of its characters. -/
structure Ground where
  chars : List Char
  found : List (Char × Nat)

def Ground.ofText (text : String) : Ground :=
  let cs := text.toList
  ⟨cs, occurrencesFrom 1 [] cs⟩

mutual

/-- Lays a pattern over a text. -/
def lay (g : Ground) : Pattern → Overlay
  | .empty => .seq []
  | .text [c] => .step (charMask g.found c)
  | .text cs => .seq (cs.map fun c => .step (charMask g.found c))
  | .chars s => .step (setMask g.found s)
  | .look k => .stay (lookMask k none 1 0 g.chars)
  | .group _ p => lay g p
  | .repeated p low high _ => .repeated (lay g p) low high
  | .seq ps => .seq (layAll g ps)
  | .alt ps => .alt (layAll g ps)

def layAll (g : Ground) : List Pattern → List Overlay
  | [] => []
  | p :: ps => lay g p :: layAll g ps

end

/-! ## Ends of matches -/

/-- `n` steps in a row; nothing changes any more once a step changes nothing. -/
def iterate (f : Nat → Nat) : Nat → Nat → Nat
  | 0, s => s
  | n + 1, s =>
    let t := f s
    if t = s then s else iterate f n t

/-- The positions of `s` that are not in `seen`. -/
def without (s seen : Nat) : Nat := (s ||| seen) ^^^ seen

/-- At most `n` further steps from the positions `new`, with all that was seen on the way. -/
def reach (f : Nat → Nat) : Nat → Nat → Nat → Nat
  | 0, seen, _ => seen
  | n + 1, seen, new =>
    let next := without (f new) seen
    if next = 0 then seen else reach f n (seen ||| next) next

/-- Any number of characters of the mask, one after the other: in the sum a carry runs from each
start through the members that follow it, and sets the bit where they end. -/
def run (mask s : Nat) : Nat := s ||| (((s &&& mask) + mask) ^^^ mask)

mutual

/-- The ends of matches that begin at one of the positions `s` of a text of `n` characters. -/
def Overlay.ends (n : Nat) : Overlay → Nat → Nat
  | .step mask, s => (s &&& mask) <<< 1
  | .stay mask, s => s &&& mask
  | .repeated o low high, s =>
    let t := iterate (o.ends n) low s
    match o, high with
    | .step mask, none => run mask t
    | _, none => reach (o.ends n) (n + 1) t t
    | _, some h => reach (o.ends n) (h - low) t t
  | .seq os, s => endsInRow n os s
  | .alt os, s => endsOfAny n os s

def endsInRow (n : Nat) : List Overlay → Nat → Nat
  | [], s => s
  | o :: os, s => endsInRow n os (o.ends n s)

def endsOfAny (n : Nat) : List Overlay → Nat → Nat
  | [], _ => 0
  | o :: os, s => o.ends n s ||| endsOfAny n os s

end

/-- Whether the pattern matches somewhere in the text. -/
def isMatch (p : Pattern) (text : String) : Bool :=
  let g := Ground.ofText text
  let n := g.chars.length
  (lay g p).ends n (2 ^ (n + 1) - 1) != 0

end DataGrid.Pattern
