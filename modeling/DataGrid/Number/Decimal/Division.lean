import DataGrid.Number.Decimal

/-!
# Dividing a decimal by a count

Long division: while a remainder is left, the quotient is extended by as many digits as the
places and 96 bits have room for, nine at most. What then remains is rounded half to even. Of a
quotient that was extended, trailing zeros are dropped again.
-/

namespace DataGrid

namespace Decimal

/-- The digits, up to nine, by which a coefficient can be extended with `left` places to go. -/
def room (c left : Nat) : Nat :=
  ((List.range (min 9 left)).takeWhile fun k => c * 10 ^ (k + 1) < 2 ^ 96).length

theorem room_le (c left : Nat) : room c left ≤ left := by
  have h := (List.takeWhile_prefix (l := List.range (min 9 left))
    fun k => decide (c * 10 ^ (k + 1) < 2 ^ 96)).length_le
  simp only [List.length_range] at h
  unfold room
  omega

/-- The quotient `q` with remainder `r` for the divisor `d`, extended as far as there is room;
the last part counts the places that are left. -/
def extend (d q r left : Nat) : Nat × Nat × Nat :=
  let k := room q left
  if h : r = 0 ∨ k = 0 then (q, r, left)
  else
    have : left - k < left := by have := room_le q left; omega
    extend d (q * 10 ^ k + r * 10 ^ k / d) (r * 10 ^ k % d) (left - k)
termination_by left

/-- Drops `k` trailing zeros of a coefficient, if it has them. -/
def dropZeros (k c s : Nat) : Nat × Nat :=
  if k ≤ s ∧ c % 10 ^ k = 0 then (c / 10 ^ k, s - k) else (c, s)

/-- Drops eight zeros at a time from a coefficient that ends in 32 zero bits. -/
def dropOctets : Nat → Nat → Nat → Nat × Nat
  | 0, c, s => (c, s)
  | n + 1, c, s =>
    if c % 2 ^ 32 = 0 ∧ 8 ≤ s ∧ c % 10 ^ 8 = 0 then dropOctets n (c / 10 ^ 8) (s - 8) else (c, s)

/-- Drops trailing zeros by blocks: eights while they can be told from the low bits, then one
block each of four, two and one. -/
def trim (c s : Nat) : Nat × Nat :=
  let (c, s) := dropOctets 3 c s
  let (c, s) := dropZeros 4 c s
  let (c, s) := dropZeros 2 c s
  dropZeros 1 c s

/-- The quotient by a count that is not zero. -/
def divideBy? (x : Decimal) (n : Nat) : Option Decimal :=
  let remainder := x.coefficient % n
  let (q, r, left) := extend n (x.coefficient / n) remainder (28 - x.scale)
  if x.isZero then some zero
  else if remainder = 0 then ofParts? x.negative q x.scale
  else do
    let d ← fit x.negative (q * n + r) n (28 - left)
    let (c, s) := trim d.coefficient d.scale
    ofParts? x.negative c s

end Decimal

end DataGrid
