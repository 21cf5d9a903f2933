/-!
# Ranges of bytes

A range of characters as sequences of ranges of bytes: the encoded forms of its characters are
the texts that take one byte from each range of one of the sequences.
-/

namespace DataGrid

/-- Bytes from `low` to `high`, both included. -/
structure ByteRange where
  low : Nat
  high : Nat
deriving DecidableEq, Inhabited

namespace ByteRange

/-- The bytes of the encoded form of a code point. -/
def encode (n : Nat) : List Nat :=
  if n < 0x80 then [n]
  else if n < 0x800 then [0xC0 + n / 0x40, 0x80 + n % 0x40]
  else if n < 0x10000 then [0xE0 + n / 0x1000, 0x80 + n / 0x40 % 0x40, 0x80 + n % 0x40]
  else
    [0xF0 + n / 0x40000, 0x80 + n / 0x1000 % 0x40, 0x80 + n / 0x40 % 0x40, 0x80 + n % 0x40]

/-- The ends of the parts into which a range falls at a point, the last code point of the first
part and the first one of the second; none for a range whose encoded forms need no more parts. -/
def cut? (low high : Nat) : Option (Nat × Nat) :=
  if low < 0xE000 ∧ 0xD7FF < high then some (0xD7FF, 0xE000)
  else
    match [0x7F, 0x7FF, 0xFFFF].find? fun m => low ≤ m && m < high with
    | some m => some (m, m + 1)
    | none =>
      if high ≤ 0x7F then none
      else
        [0x40, 0x1000, 0x40000].findSome? fun b =>
          if low / b = high / b then none
          else if low % b ≠ 0 then some (low / b * b + (b - 1), (low / b + 1) * b)
          else if high % b ≠ b - 1 then some (high / b * b - 1, high / b * b)
          else none

/-- The sequences of a range of code points, in the order of their encoded forms; pairs are left
out. The fuel bounds the number of cuts on the way to one sequence. -/
def sequences : Nat → Nat → Nat → List (List ByteRange)
  | 0, _, _ => []
  | fuel + 1, low, high =>
    if high < low then []
    else
      match cut? low high with
      | some (a, b) => sequences fuel low a ++ sequences fuel b high
      | none => [(encode low).zipWith ByteRange.mk (encode high)]

/-- Each kind of cut is made at most twice on the way to a sequence. -/
def ofCodePoints (low high : Nat) : List (List ByteRange) := sequences 24 low high

end ByteRange

end DataGrid
