import DataGrid.Number.Binary64
import DataGrid.Number.Decimal

/-!
# Decimals and doubles

The decimal of a double is found by turning its power of two into a power of ten inside a
register of 96 bits, so it keeps about the digits a double can carry; the way back adds the
integer part and the fraction and rounds the sum to the places of the scale.
-/

namespace DataGrid.Decimal

/-- A register of 96 bits and the power of ten it is scaled by. -/
structure Register where
  bits : Nat
  tens : Int

namespace Register

/-- Trades `k` negative powers of five for digits; halves when the next one does not fit. -/
def multiplyFives : Nat → Register → Register
  | 0, r => r
  | k + 1, r =>
    multiplyFives k <|
      if r.bits % 2 = 0 then ⟨r.bits / 2, r.tens + 1⟩
      else if r.bits * 5 < 2 ^ 96 then ⟨r.bits * 5, r.tens⟩
      else ⟨r.bits / 2, r.tens + 1⟩

/-- Trades `k` positive powers of five; doubles while there is room. -/
def divideFives? : Nat → Register → Option Register
  | 0, r => some r
  | k + 1, r =>
    if r.bits < 2 ^ 95 then divideFives? k ⟨r.bits * 2, r.tens - 1⟩
    else if r.tens * 2 > (k + 1 : Nat) then none
    else divideFives? k ⟨r.bits / 5, r.tens⟩

/-- Brings a positive power of ten down to zero. -/
def clearTens? : Nat → Nat → Option Nat
  | 0, n => some n
  | k + 1, n => if n * 10 < 2 ^ 96 then clearTens? k (n * 10) else none

/-- One place fewer, a last digit of five or more rounding up. -/
def dropPlace (n : Nat) : Nat := n / 10 + if 5 ≤ n % 10 then 1 else 0

/-- Drops `k` places beyond the twenty-eighth; nothing is left of a number that vanishes. -/
def dropPlaces : Nat → Nat → Nat × Bool
  | 0, n => (n, true)
  | k + 1, n => if n / 10 = 0 then (0, false) else dropPlaces k (dropPlace n)

/-- Drops places of a number with `k` of them until it has no more digits than a double carries. -/
def trimPlaces : Nat → Nat → Nat × Nat
  | 0, n => (n, 0)
  | k + 1, n => if 2 ^ 52 ≤ n then trimPlaces k (dropPlace n) else (n, k + 1)

/-- The decimal with the digits of the register. -/
def toDecimal? (s : Bool) (r : Register) : Option Decimal :=
  if 0 ≤ r.tens then (clearTens? r.tens.toNat r.bits).bind (make? s · 0)
  else
    let places := (-r.tens).toNat
    let (n, left) := dropPlaces (places - 28) r.bits
    if !left then make? s n 0
    else
      let (n, places) := trimPlaces (min places 28) n
      let (c, removed) := stripZeros n places
      make? s c (places - removed)

end Register

/-- The decimal nearest to a double in the sense above; nothing for a NaN, an infinity or a
number out of range. -/
def ofBinary? (x : Binary64) : Option Decimal :=
  if !x.isFinite then none
  else
    let m := x.magnitude
    let mantissa := if m < 2 ^ 52 then m else m % 2 ^ 52 + 2 ^ 52
    let e : Int := (m / 2 ^ 52 - 1 : Nat) - 1074
    if mantissa = 0 then make? x.negative 0 0
    else
      let r : Register := ⟨mantissa, e⟩
      let r? := if e ≤ 0 then some (r.multiplyFives (-e).toNat) else r.divideFives? e.toNat
      r?.bind (·.toDecimal? x.negative)

/-- The double of a decimal: integer part and fraction are added, and the sum is rounded to
the places of the scale. -/
def toBinary (x : Decimal) : Binary64 :=
  if x.scale = 0 then Binary64.ofInt x.signed
  else
    let power := 10 ^ x.scale
    let tens := Binary64.ofInt (power : Nat)
    let whole := Binary64.ofInt (x.coefficient / power : Nat)
    let fraction := Binary64.ofInt (x.coefficient % power : Nat) / tens
    let size := if fraction.magnitude = 0 then whole else ((whole + fraction) * tens).round / tens
    if x.negative then -size else size

end DataGrid.Decimal
