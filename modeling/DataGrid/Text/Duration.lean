import DataGrid.Number.Power

/-!
# Time spans as text

A span of nanoseconds is shown in the largest unit, from seconds down, of which it holds at
least one, with as many places as it needs.
-/

namespace DataGrid

structure Duration where
  nanoseconds : Nat
deriving DecidableEq, Inhabited

namespace Duration

def ofSeconds (n : Nat) : Duration := ⟨n * 10 ^ 9⟩

def ofMilliseconds (n : Nat) : Duration := ⟨n * 10 ^ 6⟩

def milliseconds (d : Duration) : Nat := d.nanoseconds / 10 ^ 6

/-- The number `n / 10 ^ places`, without trailing zeros. -/
def decimalText (n places : Nat) : String :=
  let fraction := (toString (n % 10 ^ places)).toList
  let padded := List.replicate (places - fraction.length) '0' ++ fraction
  let shown := (padded.reverse.dropWhile (· == '0')).reverse
  toString (n / 10 ^ places) ++ (if shown.isEmpty then "" else "." ++ String.ofList shown)

def render (d : Duration) : String :=
  let n := d.nanoseconds
  if 10 ^ 9 ≤ n then decimalText n 9 ++ "s"
  else if 10 ^ 6 ≤ n then decimalText n 6 ++ "ms"
  else if 10 ^ 3 ≤ n then decimalText n 3 ++ "µs"
  else toString n ++ "ns"

end Duration

end DataGrid
