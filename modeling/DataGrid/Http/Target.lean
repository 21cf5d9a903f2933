import DataGrid.Text.Hex

/-!
# Request targets

The path of a target in segments; a scheme and a host may stand before it. A segment may hold
bytes as a percent sign and two hexadecimal digits; a percent sign without them stands for itself.
-/

namespace DataGrid.Target

def isSchemeChar (c : Char) : Bool := c.isAlphanum || c == '+' || c == '-' || c == '.'

/-- What follows a scheme and a host, or everything if they are not there. -/
def afterHost (cs : List Char) : List Char :=
  match cs.dropWhile isSchemeChar with
  | ':' :: '/' :: '/' :: r => r.dropWhile (· ≠ '/')
  | _ => cs

/-- The segments of a path that begins with a slash, without the query. -/
def segments? (target : String) : Option (List String) :=
  let path := target.toList.takeWhile fun c => c ≠ '?' && c ≠ '#'
  match afterHost path with
  | '/' :: r => some ((r.splitOn '/').map String.ofList)
  | _ => none

def hexByte? (a b : UInt8) : Option UInt8 := do
  let x ← Hex.value? (Char.ofUInt8 a)
  let y ← Hex.value? (Char.ofUInt8 b)
  return UInt8.ofNat (x * 16 + y)

def decodeBytes : List UInt8 → List UInt8
  | [] => []
  | 0x25 :: a :: b :: r =>
    match hexByte? a b with
    | some n => n :: decodeBytes r
    | none => 0x25 :: decodeBytes (a :: b :: r)
  | c :: r => c :: decodeBytes r

/-- The text of a segment, unless its bytes are none. -/
def decode? (segment : String) : Option String :=
  String.fromUTF8? ⟨(decodeBytes segment.toUTF8.toList).toArray⟩

end DataGrid.Target
