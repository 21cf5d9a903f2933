import DataGrid.Pattern.Basic

/-!
# Building patterns

Sequences, alternatives and repetitions in their simplest form: texts in a row are one text,
nested sequences and alternatives are flat, alternatives of single characters are one set of
characters, and what alternatives begin with in common is written once.
-/

namespace DataGrid.Pattern

/-- One character of the set. -/
def ofSet (s : CharSet) : Pattern :=
  match s.ranges with
  | [(a, b)] => if a = b then .text [Char.ofNat a] else .chars s
  | _ => .chars s

/-- The parts that a pattern adds to a sequence. -/
def parts : Pattern → List Pattern
  | .empty => []
  | .seq ps => ps
  | p => [p]

/-- Puts a part in front of others; texts that meet become one. -/
def putBefore (p : Pattern) (ps : List Pattern) : List Pattern :=
  match p, ps with
  | .text a, .text b :: ps => .text (a ++ b) :: ps
  | p, ps => p :: ps

/-- One pattern after the other. -/
def concat (ps : List Pattern) : Pattern :=
  match (ps.flatMap parts).foldr putBefore [] with
  | [] => .empty
  | [p] => p
  | ps => .seq ps

/-- The alternatives that a pattern adds to others. -/
def branches : Pattern → List Pattern
  | .alt ps => ps
  | p => [p]

/-- The characters of a pattern that is one given character. -/
def asSingle? : Pattern → Option CharSet
  | .text [c] => some (.single c)
  | _ => none

def asSet? : Pattern → Option CharSet
  | .chars s => some s
  | _ => none

/-- The set of alternatives that are all single characters or all sets. -/
def unionOf? (ps : List Pattern) : Option CharSet :=
  (ps.mapM asSingle? <|> ps.mapM asSet?).map .unionAll

def commonParts : List Pattern → List Pattern → List Pattern
  | p :: ps, q :: qs => if p.same q then p :: commonParts ps qs else []
  | _, _ => []

def asSequence? : Pattern → Option (List Pattern)
  | .seq ps => some ps
  | _ => none

/-- What sequences begin with in common, and what is left of each. -/
def splitCommon? (ps : List Pattern) : Option (List Pattern × List (List Pattern)) := do
  match ← ps.mapM asSequence? with
  | [] => none
  | first :: rest =>
    let common := rest.foldl commonParts first
    if common.isEmpty then none
    else some (common, (first :: rest).map (·.drop common.length))

/-- Alternatives as they are, or their set. -/
def union (ps : List Pattern) : Pattern :=
  match ps.flatMap branches with
  | [] => .chars .empty
  | [p] => p
  | ps =>
    match unionOf? ps with
    | some s => ofSet s
    | none => .alt ps

/-- One of the alternatives. -/
def alternatives (ps : List Pattern) : Pattern :=
  match union ps with
  | .alt ps =>
    match splitCommon? ps with
    | none => .alt ps
    | some (common, rests) => concat (common ++ [union (rests.map concat)])
  | p => p

/-- A repetition. What matches only the empty text need not match it more than once. -/
def times (p : Pattern) (low : Nat) (high : Option Nat) (eager : Bool) : Pattern :=
  let (low, high) :=
    if p.onlyEmpty then (min low 1, some (min (high.getD 1) 1)) else (low, high)
  if high = some 0 then .empty
  else if low = 1 ∧ high = some 1 then p
  else .repeated p low high eager

end DataGrid.Pattern
