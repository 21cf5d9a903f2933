import DataGrid.Number.Rounding

/-!
# Binary floating point of 64 bits

A double is its bit pattern. Every finite one is a whole number of units of 2^-1074, and
`units` is that integer, so arithmetic is exact on integers followed by one rounding to
the nearest double, ties to even.
-/

namespace DataGrid

structure Binary64 where
  bits : UInt64
deriving DecidableEq, Inhabited

namespace Binary64

/-- Everything but the sign bit. -/
def magnitude (x : Binary64) : Nat := x.bits.toNat % 2 ^ 63

def negative (x : Binary64) : Bool := 2 ^ 63 ≤ x.bits.toNat

/-- The magnitude of the infinities; those of the NaNs lie above it. -/
def topMagnitude : Nat := 2047 * 2 ^ 52

def isNaN (x : Binary64) : Bool := topMagnitude < x.magnitude

def isInfinite (x : Binary64) : Bool := x.magnitude = topMagnitude

def isFinite (x : Binary64) : Bool := x.magnitude < topMagnitude

/-- The double with the given sign and magnitude. -/
def pack (s : Bool) (m : Nat) : Binary64 :=
  ⟨UInt64.ofNat (m + if s then 2 ^ 63 else 0)⟩

def infinity (s : Bool) : Binary64 := pack s topMagnitude

/-- The positive quiet NaN. -/
def nan : Binary64 := pack false (topMagnitude + 2 ^ 51)

def zero (s : Bool) : Binary64 := pack s 0

/-- The number of units of 2^-1074 that a finite magnitude stands for. -/
def unitsOf (m : Nat) : Nat :=
  if m < 2 ^ 52 then m else (m % 2 ^ 52 + 2 ^ 52) * 2 ^ (m / 2 ^ 52 - 1)

/-- The exact value of a finite double in units of 2^-1074. -/
def units (x : Binary64) : Int :=
  if x.negative then -(unitsOf x.magnitude : Int) else unitsOf x.magnitude

/-- One, in units. -/
def one : Nat := 2 ^ 1074

/-- The double nearest to `±n / d`, ties to even; infinite from half a step above the largest. -/
def ofRatio (s : Bool) (n d : Nat) : Binary64 :=
  let u := n * one / d
  let k := Nat.log2 u - 52
  let m := k * 2 ^ 52 + roundEven (n * one) (d * 2 ^ k)
  pack s (min m topMagnitude)

def ofInt (n : Int) : Binary64 := ofRatio (n < 0) n.natAbs 1

def neg (x : Binary64) : Binary64 := pack (!x.negative) x.magnitude

def abs (x : Binary64) : Binary64 := pack false x.magnitude

def add (x y : Binary64) : Binary64 :=
  if x.isNaN || y.isNaN then nan
  else if x.isInfinite then (if y.isInfinite && x.negative != y.negative then nan else x)
  else if y.isInfinite then y
  else
    let u := x.units + y.units
    if u = 0 then zero (x.negative && y.negative) else ofRatio (u < 0) u.natAbs one

def mul (x y : Binary64) : Binary64 :=
  let s := x.negative != y.negative
  if x.isNaN || y.isNaN then nan
  else if x.isInfinite || y.isInfinite then
    (if x.units = 0 || y.units = 0 then nan else infinity s)
  else ofRatio s (x.units.natAbs * y.units.natAbs) (one * one)

def div (x y : Binary64) : Binary64 :=
  let s := x.negative != y.negative
  if x.isNaN || y.isNaN then nan
  else if x.isInfinite then (if y.isInfinite then nan else infinity s)
  else if y.isInfinite then zero s
  else if y.units = 0 then (if x.units = 0 then nan else infinity s)
  else ofRatio s x.units.natAbs y.units.natAbs

/-- The integer part of a finite double. -/
def truncate (x : Binary64) : Int := x.units.tdiv one

/-- The nearest integer, a half going away from zero. -/
def round (x : Binary64) : Binary64 :=
  if x.isFinite then ofRatio x.negative (roundHalfUp x.units.natAbs one) 1 else x

/-- The numeric order; a NaN is not comparable. -/
def compare? (x y : Binary64) : Option Ordering :=
  if x.isNaN || y.isNaN then none else some (compare x.units y.units)

/-- The place of a bit pattern in the order from the negative NaNs to the positive ones. -/
def rank (x : Binary64) : Int :=
  if x.negative then -(x.magnitude : Int) - 1 else x.magnitude

/-- The total order of bit patterns, with -0 below +0. -/
def totalCompare (x y : Binary64) : Ordering := compare x.rank y.rank

/-- The 64-bit integer nearest to the integer part; zero for a NaN. -/
def toInt64 (x : Binary64) : Int64 :=
  if x.isNaN then 0
  else if x.isInfinite then (if x.negative then Int64.minValue else Int64.maxValue)
  else
    let n := x.truncate
    if n < -2 ^ 63 then Int64.minValue
    else if 2 ^ 63 ≤ n then Int64.maxValue
    else Int64.ofInt n

instance : Neg Binary64 := ⟨neg⟩
instance : Add Binary64 := ⟨add⟩
instance : Mul Binary64 := ⟨mul⟩
instance : Div Binary64 := ⟨div⟩

theorem magnitude_lt (x : Binary64) : x.magnitude < 2 ^ 63 := Nat.mod_lt _ (by decide)

theorem bits_toNat (x : Binary64) :
    x.bits.toNat = x.magnitude + if x.negative then 2 ^ 63 else 0 := by
  have h := x.bits.toNat_lt
  unfold magnitude negative
  simp only [decide_eq_true_eq]
  split <;> omega

@[simp] theorem magnitude_pack (s : Bool) (m : Nat) (h : m < 2 ^ 63) :
    (pack s m).magnitude = m := by
  unfold magnitude pack
  cases s <;> simp <;> omega

@[simp] theorem negative_pack (s : Bool) (m : Nat) (h : m < 2 ^ 63) :
    (pack s m).negative = s := by
  unfold negative pack
  cases s <;> simp <;> omega

end Binary64

end DataGrid
