import DataGrid.Error
import DataGrid.Value.Basic

/-!
# Numeric domains

A domain says which values an aggregator takes and how each is widened before it is added up.
Five domains take exactly one kind of number; the other three take any number.
-/

namespace DataGrid

inductive NumericDomain where
  | integer
  | long
  | double
  | bigInteger
  | bigDecimal
  /-- Any number, cut to a 64-bit integer. -/
  | fixedPoint
  /-- Any number, as a double. -/
  | floatingPoint
  /-- Any number: 64-bit integers as they are, all others as doubles. -/
  | number
deriving DecidableEq

/-- A number that is ready to be added. -/
inductive Addend where
  | long (n : Int64)
  | double (x : Binary64)
  | bigInteger (n : Int)
  | bigDecimal (d : Decimal)

namespace Addend

def toValue : Addend → Value
  | .long n => .long n
  | .double x => .double x
  | .bigInteger n => .bigInteger n
  | .bigDecimal d => .bigDecimal d

def describe : Addend → String
  | .long n => "Long(" ++ toString n.toInt ++ ")"
  | .double x => "Double(" ++ FloatStyle.diagnostic.render x ++ ")"
  | .bigInteger n => "BigInteger(" ++ toString n ++ ")"
  | .bigDecimal d => "BigDecimal(" ++ d.render ++ ")"

end Addend

namespace NumericDomain

/-- The kind of value that a mismatch names as the expected one. -/
def expected : NumericDomain → String
  | .integer => "int"
  | .long => "long"
  | .double => "double"
  | .bigInteger => "big_integer"
  | .bigDecimal => "big_decimal"
  | .fixedPoint | .floatingPoint | .number => "number"

def accepts (d : NumericDomain) (v : Value) : Bool :=
  match d with
  | .integer => v.kind = .int
  | .long => v.kind = .long
  | .double => v.kind = .double
  | .bigInteger => v.kind = .bigInteger
  | .bigDecimal => v.kind = .bigDecimal
  | .fixedPoint | .floatingPoint | .number => v.isNumeric

def mismatch (d : NumericDomain) (v : Value) : GridError := .typeMismatch d.expected v.kind.name

def widen? (d : NumericDomain) (v : Value) : Option Addend :=
  match d, v with
  | .integer, .int n => some (.long n.toInt64)
  | .long, .long n => some (.long n)
  | .double, .double x => some (.double x)
  | .bigInteger, .bigInteger n => some (.bigInteger n)
  | .bigDecimal, .bigDecimal x => some (.bigDecimal x)
  | .fixedPoint, v => v.toInt64?.map .long
  | .floatingPoint, v => v.toBinary?.map .double
  | .number, .int n => some (.long n.toInt64)
  | .number, .long n => some (.long n)
  | .number, v => v.toBinary?.map .double
  | _, _ => none

def widen (d : NumericDomain) (v : Value) : Except GridError Addend :=
  match d.widen? v with
  | some a => return a
  | none => throw (d.mismatch v)

/-- A domain widens exactly the values it accepts. -/
theorem widen?_isSome (d : NumericDomain) (v : Value) : (d.widen? v).isSome = d.accepts v := by
  cases d <;> cases v <;> rfl

end NumericDomain

end DataGrid
