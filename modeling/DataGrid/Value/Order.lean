import DataGrid.Value.Basic

/-!
# Orders on values

Three comparisons: `naturalCompare?` between values of one kind, `compare?` which also
compares numbers across their kinds, and `totalCompare` which puts any two values in order and
is what sorting uses.
-/

namespace DataGrid.Value

/-- The order within a kind; lists and objects have none. -/
def naturalCompare? : Value → Value → Option Ordering
  | .null, .null => some .eq
  | .bool a, .bool b => some (Ord.compare a b)
  | .int a, .int b => some (Ord.compare a.toInt b.toInt)
  | .long a, .long b => some (Ord.compare a.toInt b.toInt)
  | .double a, .double b => some (a.totalCompare b)
  | .bigInteger a, .bigInteger b => some (Ord.compare a b)
  | .bigDecimal a, .bigDecimal b => some (a.compare b)
  | .text a, .text b => some (Ord.compare a b)
  | _, _ => none

/-- Numbers compare as decimals, or as doubles when one of them has no decimal. -/
def numericCompare? (a b : Value) : Option Ordering :=
  match a.toDecimal?, b.toDecimal? with
  | some x, some y => some (x.compare y)
  | _, _ => do
    let x ← a.toBinary?
    let y ← b.toBinary?
    x.compare? y

def compare? (a b : Value) : Option Ordering :=
  if a.isNumeric && b.isNumeric then numericCompare? a b else naturalCompare? a b

/-- Numbers are the same when they compare equal, other values when they are equal. -/
def looseEq (a b : Value) : Bool :=
  if a.isNumeric && b.isNumeric then a.compare? b == some .eq else a == b

def isNaN : Value → Bool
  | .double x => x.isNaN
  | _ => false

/-- The place of a kind among the others; all numbers share one. -/
def Kind.rank : Kind → Nat
  | .null => 0
  | .bool => 1
  | .int | .long | .double | .bigInteger | .bigDecimal => 2
  | .text => 3
  | .list => 4
  | .object => 5

def rankedCompare (a b : Value) : Ordering :=
  (a.compare? b).getD (Ord.compare a.kind.rank b.kind.rank)

/-- By rank of kind, then by content; a NaN comes after every other number. -/
def totalCompare (a b : Value) : Ordering :=
  match a.isNaN, b.isNaN with
  | true, true => .eq
  | true, false => if b.isNumeric then .gt else rankedCompare a b
  | false, true => if a.isNumeric then .lt else rankedCompare a b
  | false, false => rankedCompare a b

/-- Whether `a` may stand before `b`. -/
def totalLe (a b : Value) : Bool := a.totalCompare b != .gt

end DataGrid.Value
