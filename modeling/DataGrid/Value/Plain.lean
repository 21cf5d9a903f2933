import DataGrid.Value.Basic

/-!
# Values as plain JSON

The form that clients send and receive. An integer is read as a 64-bit one, or as a big
integer beyond that; any other number is a double. Big integers and decimals are written as
texts, and a double that is not finite as null, so reading back is not always exact.
-/

namespace DataGrid.Value

/-- The value of a JSON integer. -/
def ofInteger (n : Int) : Value :=
  if -2 ^ 63 ≤ n ∧ n < 2 ^ 63 then .long (Int64.ofInt n) else .bigInteger n

mutual

def ofJson : Json → Value
  | .null => .null
  | .bool b => .bool b
  | .int n => ofInteger n
  | .float x => .double x
  | .text s => .text s
  | .array vs => .list (ofJsonItems vs)
  | .object fs => .object (ofJsonFields fs)

def ofJsonItems : List Json → List Value
  | [] => []
  | v :: r => ofJson v :: ofJsonItems r

def ofJsonFields : List (String × Json) → List (String × Value)
  | [] => []
  | (k, v) :: r => (k, ofJson v) :: ofJsonFields r

end

mutual

def toJson : Value → Json
  | .null => .null
  | .bool b => .bool b
  | .int n => .int n.toInt
  | .long n => .int n.toInt
  | .double x => if x.isFinite then .float x else .null
  | .bigInteger n => .text (toString n)
  | .bigDecimal d => .text d.render
  | .text s => .text s
  | .list vs => .array (toJsonItems vs)
  | .object fs => .object (toJsonFields fs)

def toJsonItems : List Value → List Json
  | [] => []
  | v :: r => v.toJson :: toJsonItems r

def toJsonFields : List (String × Value) → List (String × Json)
  | [] => []
  | (k, v) :: r => (k, v.toJson) :: toJsonFields r

end

/-- The text shown for a value: texts and big numbers as they are, all else as JSON. -/
def display : Value → String
  | .text s => s
  | .bigInteger n => toString n
  | .bigDecimal d => d.render
  | v => v.toJson.render

end DataGrid.Value
