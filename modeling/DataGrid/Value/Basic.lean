import DataGrid.Json.Basic
import DataGrid.Number.Decimal.Binary
import DataGrid.Number.Decimal.Text
import DataGrid.Number.Narrowing

/-!
# Values

What a collection stores. Numbers keep their exact kind: 32-bit and 64-bit integers, doubles,
integers of any size and decimals are five different kinds, though filters compare across
them. Two values are equal when kind and content agree; doubles agree by their bits and
decimals by their number.
-/

namespace DataGrid

inductive Value where
  | null
  | bool (b : Bool)
  | int (n : Int32)
  | long (n : Int64)
  | double (x : Binary64)
  | bigInteger (n : Int)
  | bigDecimal (d : Decimal)
  | text (s : String)
  | list (items : List Value)
  | object (fields : List (String × Value))
deriving Inhabited

namespace Value

inductive Kind where
  | null
  | bool
  | int
  | long
  | double
  | bigInteger
  | bigDecimal
  | text
  | list
  | object
deriving DecidableEq

def Kind.name : Kind → String
  | .null => "null"
  | .bool => "bool"
  | .int => "int"
  | .long => "long"
  | .double => "double"
  | .bigInteger => "big_integer"
  | .bigDecimal => "big_decimal"
  | .text => "text"
  | .list => "list"
  | .object => "object"

def kind : Value → Kind
  | .null => .null
  | .bool _ => .bool
  | .int _ => .int
  | .long _ => .long
  | .double _ => .double
  | .bigInteger _ => .bigInteger
  | .bigDecimal _ => .bigDecimal
  | .text _ => .text
  | .list _ => .list
  | .object _ => .object

def Kind.isNumeric : Kind → Bool
  | .int | .long | .double | .bigInteger | .bigDecimal => true
  | _ => false

def isNumeric (v : Value) : Bool := v.kind.isNumeric

def asText? : Value → Option String
  | .text s => some s
  | _ => none

/-- Any number as a 64-bit integer: the fraction is cut off, a double is clamped to the range,
other numbers keep their low 64 bits. -/
def toInt64? : Value → Option Int64
  | .int n => some n.toInt64
  | .long n => some n
  | .double x => some x.toInt64
  | .bigInteger n => some (Narrowing.lowBits n)
  | .bigDecimal d => some (Narrowing.narrow d.truncate)
  | _ => none

/-- The double nearest to a number. -/
def toBinary? : Value → Option Binary64
  | .int n => some (Binary64.ofInt n.toInt)
  | .long n => some (Binary64.ofInt n.toInt)
  | .double x => some x
  | .bigInteger n => some (Binary64.ofInt n)
  | .bigDecimal d => some d.toBinary
  | _ => none

/-- The decimal of a number that has one. -/
def toDecimal? : Value → Option Decimal
  | .int n => Decimal.ofInt? n.toInt
  | .long n => Decimal.ofInt? n.toInt
  | .double x => Decimal.ofBinary? x
  | .bigInteger n => Decimal.ofInt? n
  | .bigDecimal d => some d
  | _ => none

/-- The field `name` of an object. -/
def field? (v : Value) (name : String) : Option Value :=
  match v with
  | .object fs => Fields.find? fs name
  | _ => none

mutual

def beq : Value → Value → Bool
  | .null, .null => true
  | .bool a, .bool b => a == b
  | .int a, .int b => a == b
  | .long a, .long b => a == b
  | .double a, .double b => a == b
  | .bigInteger a, .bigInteger b => a == b
  | .bigDecimal a, .bigDecimal b => a.sameValue b
  | .text a, .text b => a == b
  | .list a, .list b => beqItems a b
  | .object a, .object b => beqFields a b
  | _, _ => false

def beqItems : List Value → List Value → Bool
  | [], [] => true
  | a :: r, b :: s => a.beq b && beqItems r s
  | _, _ => false

def beqFields : List (String × Value) → List (String × Value) → Bool
  | [], [] => true
  | (j, a) :: r, (k, b) :: s => j == k && a.beq b && beqFields r s
  | _, _ => false

end

instance : BEq Value := ⟨beq⟩

end Value

end DataGrid
