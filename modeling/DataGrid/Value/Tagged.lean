import DataGrid.Json.Decode
import DataGrid.Value.Basic

/-!
# Values as tagged JSON

The form that keeps every kind apart: an object whose one member is named for the kind, and
the text `Null` for null. A big integer is its sign and its base 2^32 digits, the least
significant first; a decimal is its text.
-/

namespace DataGrid.Value

/-- The base 2^32 digits of a number, least significant first. -/
def digits (n : Nat) : List Nat :=
  if h : n = 0 then [] else n % 2 ^ 32 :: digits (n / 2 ^ 32)
termination_by n
decreasing_by exact Nat.div_lt_self (Nat.pos_of_ne_zero h) (by decide)

def ofDigits : List Nat → Nat
  | [] => 0
  | d :: r => d + 2 ^ 32 * ofDigits r

theorem ofDigits_digits (n : Nat) : ofDigits (digits n) = n := by
  fun_induction digits n with
  | case1 => rfl
  | case2 n h ih => simp only [ofDigits, ih]; omega

mutual

def toTagged : Value → Json
  | .null => .text "Null"
  | .bool b => .object [("Bool", .bool b)]
  | .int n => .object [("Int", .int n.toInt)]
  | .long n => .object [("Long", .int n.toInt)]
  | .double x => .object [("Double", if x.isFinite then .float x else .null)]
  | .bigInteger n =>
    .object [("BigInteger",
      .array [.int n.sign, .array ((digits n.natAbs).map fun (d : Nat) => .int d)])]
  | .bigDecimal d => .object [("BigDecimal", .text d.render)]
  | .text s => .object [("Text", .text s)]
  | .list vs => .object [("List", .array (toTaggedItems vs))]
  | .object fs => .object [("Object", .object (toTaggedFields fs))]

def toTaggedItems : List Value → List Json
  | [] => []
  | v :: r => v.toTagged :: toTaggedItems r

def toTaggedFields : List (String × Value) → List (String × Json)
  | [] => []
  | (k, v) :: r => (k, v.toTagged) :: toTaggedFields r

end

/-- Reads a big integer from its sign and digits. -/
def toBigInteger : Decoder Int
  | .array (s :: d :: r) closed => do
    let sign ← s.toInteger (-1) 1
    let ds ← d.toList (·.toNatural 32)
    if r.isEmpty then Document.checkClosed closed else throw .malformed
    return sign * (ofDigits ds : Nat)
  | .array (s :: []) closed => do
    let _ ← s.toInteger (-1) 1
    Document.checkClosed closed
    throw .mismatch
  | .array [] closed => do
    Document.checkClosed closed
    throw .mismatch
  | d => throw d.refuseContainer

/-- Reads a decimal from its text or from a number. -/
def toBigDecimal : Decoder Decimal
  | .text (some s) => Document.require (Decimal.parseAny? s)
  | .int n => Document.require (Decimal.ofInt? n)
  | .float x => Document.require (Decimal.parse? (FloatStyle.plain.render x))
  | d => throw d.refuse

mutual

def ofTagged : Document → Decoded Value
  | .text (some s) => if s = "Null" then pure .null else throw .mismatch
  | .object ((some k, d) :: rest) closed => do
    let v ← ofVariant k d
    if rest.isEmpty then Document.checkClosed closed else throw .malformed
    return v
  | _ => throw .malformed

/-- Reads the content of the kind named `k`. -/
def ofVariant (k : String) (d : Document) : Decoded Value :=
  match k, d with
  | "Null", .null => pure .null
  | "Null", d => throw d.refuse
  | "Bool", d => .bool <$> d.toBool
  | "Int", d => (.int <| Int32.ofInt ·) <$> d.toInteger (-2 ^ 31) (2 ^ 31 - 1)
  | "Long", d => (.long <| Int64.ofInt ·) <$> d.toInteger (-2 ^ 63) (2 ^ 63 - 1)
  | "Double", d => .double <$> d.toFloat
  | "BigInteger", d => .bigInteger <$> toBigInteger d
  | "BigDecimal", d => .bigDecimal <$> toBigDecimal d
  | "Text", d => .text <$> d.toText
  | "List", .array items closed => do
    let vs ← ofTaggedItems items
    Document.checkClosed closed
    return .list vs
  | "Object", .object fields closed => do
    let fs ← ofTaggedFields [] fields
    Document.checkClosed closed
    return .object fs
  | "List", d | "Object", d => throw d.refuseContainer
  | _, _ => throw .mismatch

def ofTaggedItems : List Document → Decoded (List Value)
  | [] => pure []
  | d :: r => do
    let v ← ofTagged d
    let vs ← ofTaggedItems r
    return v :: vs

def ofTaggedFields (seen : List (String × Value)) :
    List (Option String × Document) → Decoded (List (String × Value))
  | [] => pure seen
  | (none, _) :: _ => throw .malformed
  | (some k, d) :: r => do
    let v ← ofTagged d
    ofTaggedFields (Fields.insert seen k v) r

end

end DataGrid.Value
