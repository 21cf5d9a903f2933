import DataGrid.Text.Hex

/-!
# Sets of characters

A set of characters as ascending, disjoint and non-adjacent ranges of code points, and the
tables that name such sets. In a table a set is written as hexadecimal ranges with blanks
or line ends between them.
-/

namespace DataGrid

/-- Ranges of code points, both ends included. -/
structure CharSet where
  ranges : List (Nat × Nat)
deriving DecidableEq

namespace CharSet

def contains (s : CharSet) (c : Char) : Bool :=
  s.ranges.any fun r => r.1 ≤ c.toNat && c.toNat ≤ r.2

def empty : CharSet := ⟨[]⟩

/-- The highest code point. -/
def top : Nat := 0x10FFFF

def all : CharSet := ⟨[(0, top)]⟩

def single (c : Char) : CharSet := ⟨[(c.toNat, c.toNat)]⟩

/-- The range from `a` to `b` and later ones, joined where they overlap or touch; the ranges come
in the order of their lower ends. -/
def joinRanges (a b : Nat) : List (Nat × Nat) → List (Nat × Nat)
  | [] => [(a, b)]
  | (c, d) :: r =>
    if c ≤ b + 1 then joinRanges a (max b d) r else (a, b) :: joinRanges c d r

def ofRanges (l : List (Nat × Nat)) : CharSet :=
  match l.mergeSort fun a b => a.1 ≤ b.1 with
  | [] => empty
  | (a, b) :: r => ⟨joinRanges a b r⟩

def union (s t : CharSet) : CharSet := ofRanges (s.ranges ++ t.ranges)

def unionAll (sets : List CharSet) : CharSet := ofRanges (sets.flatMap (·.ranges))

/-- The gaps between ranges, from `low` on. -/
def gaps (low : Nat) : List (Nat × Nat) → List (Nat × Nat)
  | [] => if low ≤ top then [(low, top)] else []
  | (a, b) :: r => if low < a then (low, a - 1) :: gaps (b + 1) r else gaps (b + 1) r

def complement (s : CharSet) : CharSet := ⟨gaps 0 s.ranges⟩

def inter (s t : CharSet) : CharSet := (s.complement.union t.complement).complement

def diff (s t : CharSet) : CharSet := s.inter t.complement

def symmDiff (s t : CharSet) : CharSet := (s.diff t).union (t.diff s)

def isEmpty (s : CharSet) : Bool := s.ranges.isEmpty

def isAscii (s : CharSet) : Bool := s.ranges.all (·.2 ≤ 0x7F)

@[simp] theorem contains_all (c : Char) : all.contains c = true := by
  have h := c.valid
  simp only [contains, all, top, List.any_cons, List.any_nil, Bool.or_false, Nat.zero_le,
    decide_true, Bool.true_and, decide_eq_true_eq]
  simp only [UInt32.isValidChar, Nat.isValidChar] at h
  change c.val.toNat ≤ _
  omega

end CharSet

namespace Unicode

/-- Reads ranges. Of the current one `low` is set once its lower end has been read, and `n` once
a digit has. -/
def readRanges (low n : Option Nat) : List Char → List (Nat × Nat)
  | [] => (n.map fun h => (low.getD h, h)).toList
  | c :: r =>
    if c = ' ' ∨ c = '\n' then
      match n with
      | none => readRanges none none r
      | some h => (low.getD h, h) :: readRanges none none r
    else if c = '-' then readRanges n none r
    else readRanges low (some (n.getD 0 * 16 + (Hex.value? c).getD 0)) r

/-- The set whose ranges are written in the text. -/
def setOf (ranges : String) : CharSet := ⟨readRanges none none ranges.toList⟩

/-- A named set of characters. -/
structure PropertyTable where
  names : List String
  ranges : String

def PropertyTable.toCharSet (t : PropertyTable) : CharSet := setOf t.ranges

def find? (tables : List PropertyTable) (name : String) : Option CharSet :=
  (tables.find? (·.names.contains name)).map (·.toCharSet)

/-- The set with this name, or the empty one. -/
def tableOf (tables : List PropertyTable) (name : String) : CharSet :=
  (find? tables name).getD .empty

end Unicode

end DataGrid
