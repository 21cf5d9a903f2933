import DataGrid.Number.Rounding

/-!
# Decimals of 96 bits

A decimal is a sign, a coefficient below 2^96 and a scale of at most 28 places. Equal numbers
may differ in scale; `units`, the value in units of 10^-28, decides their order. Results
that do not fit are rounded half to even at the largest scale that fits.
-/

namespace DataGrid

structure Decimal where
  negative : Bool
  coefficient : Nat
  scale : Nat
  coefficient_lt : coefficient < 2 ^ 96 := by decide
  scale_le : scale ≤ 28 := by decide
deriving DecidableEq

namespace Decimal

def zero : Decimal := { negative := false, coefficient := 0, scale := 0 }

instance : Inhabited Decimal := ⟨zero⟩

/-- The decimal with these parts, if they are in range. -/
def make? (s : Bool) (c scale : Nat) : Option Decimal :=
  if h : c < 2 ^ 96 ∧ scale ≤ 28 then some ⟨s, c, scale, h.1, h.2⟩ else none

/-- As `make?`, and a zero loses its sign. -/
def ofParts? (s : Bool) (c scale : Nat) : Option Decimal :=
  make? (s && c != 0) c scale

def ofInt? (n : Int) : Option Decimal := ofParts? (n < 0) n.natAbs 0

def isZero (x : Decimal) : Bool := x.coefficient = 0

/-- The coefficient with its sign. -/
def signed (x : Decimal) : Int := if x.negative then -(x.coefficient : Int) else x.coefficient

/-- The exact value in units of 10^-28. -/
def units (x : Decimal) : Int := x.signed * 10 ^ (28 - x.scale)

def compare (x y : Decimal) : Ordering := Ord.compare x.units y.units

/-- The same number, whatever the scales. -/
def sameValue (x y : Decimal) : Bool := x.units = y.units

/-- The integer part, toward zero. -/
def truncate (x : Decimal) : Int := x.signed.tdiv (10 ^ x.scale)

/-- The number `n / d` in units of the place `s`, rounded half to even at the last place from
which it fits; nothing when even the integer part is too large. -/
def fit (neg : Bool) (n d s : Nat) : Option Decimal :=
  (List.range (s + 1)).findSome? fun k => make? neg (roundEven n (d * 10 ^ k)) (s - k)

/-- The sum. A zero operand gives the other one as it is; a sum that is zero has no sign. -/
def add? (x y : Decimal) : Option Decimal :=
  if x.isZero then some y
  else if y.isZero then some x
  else
    let s := max x.scale y.scale
    let n := x.signed * 10 ^ (s - x.scale) + y.signed * 10 ^ (s - y.scale)
    fit (n < 0) n.natAbs 1 s

@[simp] theorem units_zero : zero.units = 0 := rfl

theorem isZero_iff (x : Decimal) : x.isZero = true ↔ x.units = 0 := by
  have h : (10 : Int) ^ (28 - x.scale) ≠ 0 := Int.pow_ne_zero (by decide)
  unfold isZero units signed
  simp only [decide_eq_true_eq, Int.mul_eq_zero, h, or_false]
  split <;> omega

@[simp] theorem sameValue_refl (x : Decimal) : x.sameValue x = true := by simp [sameValue]

theorem sameValue_comm (x y : Decimal) : x.sameValue y = y.sameValue x := by
  simp [sameValue, eq_comm]

end Decimal

end DataGrid
