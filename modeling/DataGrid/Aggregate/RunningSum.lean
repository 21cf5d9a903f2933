import DataGrid.Aggregate.Domain
import DataGrid.Number.Decimal.Division

/-!
# Running sums

The sum of the numbers an aggregator has seen, kept in the arithmetic of its domain: 64-bit
integers wrap, doubles round, big integers are exact, and decimals overflow when even a rounded
sum has no room. A sum only takes addends and other sums of its own kind.
-/

namespace DataGrid

inductive RunningSum where
  | long (n : Int64)
  | double (x : Binary64)
  | bigInteger (n : Int)
  | bigDecimal (d : Decimal)
  /-- Integers and other numbers in separate lanes. -/
  | mixed (integral : Int64) (fractional : Binary64)

/-- The sum of no numbers. -/
def NumericDomain.emptySum : NumericDomain → RunningSum
  | .integer | .long | .fixedPoint => .long 0
  | .double | .floatingPoint => .double (.zero false)
  | .bigInteger => .bigInteger 0
  | .bigDecimal => .bigDecimal .zero
  | .number => .mixed 0 (.zero false)

namespace RunningSum

def kindName : RunningSum → String
  | .long _ => "long"
  | .double _ => "double"
  | .bigInteger _ => "big_integer"
  | .bigDecimal _ => "big_decimal"
  | .mixed .. => "number"

def addDecimals (a b : Decimal) : Except GridError RunningSum :=
  match a.add? b with
  | some d => return .bigDecimal d
  | none => throw (.execution .sumOverflow)

def add (s : RunningSum) (a : Addend) : Except GridError RunningSum :=
  match s, a with
  | .long m, .long n => return .long (m + n)
  | .double x, .double y => return .double (x + y)
  | .bigInteger m, .bigInteger n => return .bigInteger (m + n)
  | .bigDecimal c, .bigDecimal d => addDecimals c d
  | .mixed m x, .long n => return .mixed (m + n) x
  | .mixed m x, .double y => return .mixed m (x + y)
  | s, a => throw (.execution (.cannotAdd a.describe s.kindName))

def merge (s t : RunningSum) : Except GridError RunningSum :=
  match s, t with
  | .long m, .long n => return .long (m + n)
  | .double x, .double y => return .double (x + y)
  | .bigInteger m, .bigInteger n => return .bigInteger (m + n)
  | .bigDecimal c, .bigDecimal d => addDecimals c d
  | .mixed m x, .mixed n y => return .mixed (m + n) (x + y)
  | s, t => throw (.invalidRequest (.differentSums s.kindName t.kindName))

/-- Both lanes of a mixed sum together. -/
def joinLanes (m : Int64) (x : Binary64) : Binary64 := Binary64.ofInt m.toInt + x

def toValue : RunningSum → Value
  | .long n => .long n
  | .double x => .double x
  | .bigInteger n => .bigInteger n
  | .bigDecimal d => .bigDecimal d
  | .mixed m x => .double (joinLanes m x)

/-- A decimal divided by a count; a double where there is no decimal. -/
def meanOfDecimal (d : Option Decimal) (x : Binary64) (count : Nat) : Value :=
  match d.bind (·.divideBy? count) with
  | some q => .bigDecimal q
  | none => .double (x / Binary64.ofInt count)

/-- The mean of `count` numbers with this sum; null for none. -/
def mean (s : RunningSum) (count : Nat) : Value :=
  if count = 0 then .null
  else
    match s with
    | .bigInteger n => meanOfDecimal (Decimal.ofInt? n) (Binary64.ofInt n) count
    | .bigDecimal d => meanOfDecimal (some d) d.toBinary count
    | .long n => .double (Binary64.ofInt n.toInt / Binary64.ofInt count)
    | .double x => .double (x / Binary64.ofInt count)
    | .mixed m x => .double (joinLanes m x / Binary64.ofInt count)

end RunningSum

end DataGrid
