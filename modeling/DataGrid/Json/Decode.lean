import DataGrid.Json.Document

/-!
# Reading typed data from a document

A decoder walks a document in text order and stops at the first fault it meets: `malformed`
where the text is no JSON, `mismatch` where it is JSON of another shape. A record is read
from an object, in which unknown members are passed over, or from an array of its members in
their declared order.
-/

namespace DataGrid

inductive DecodeError where
  | malformed
  | mismatch
deriving DecidableEq

abbrev Decoded (α : Type) := Except DecodeError α

abbrev Decoder (α : Type) := Document → Decoded α

namespace Document

/-- The fault of a value of an unwanted kind: a defect of a scalar counts first. -/
def refuse : Document → DecodeError
  | .outOfRange | .text none | .broken => .malformed
  | _ => .mismatch

/-- The fault where a container of the wanted kind may only be nested too deep. -/
def refuseContainer : Document → DecodeError
  | .tooDeep _ => .malformed
  | d => d.refuse

def checkClosed (closed : Bool) : Decoded Unit :=
  if closed then pure () else throw .malformed

mutual

/-- Passes over a value whose content does not matter. -/
def skip : Document → Decoded Unit
  | .broken => throw .malformed
  | .array items closed => do skipItems items; checkClosed closed
  | .object fields closed => do skipFields fields; checkClosed closed
  | .tooDeep d => d.skip
  | _ => pure ()

def skipItems : List Document → Decoded Unit
  | [] => pure ()
  | d :: r => do d.skip; skipItems r

def skipFields : List (Option String × Document) → Decoded Unit
  | [] => pure ()
  | (_, d) :: r => do d.skip; skipFields r

end

mutual

/-- Reads a value of any shape; of a repeated key the last value stays. -/
def toJson : Document → Decoded Json
  | .null => pure .null
  | .bool b => pure (.bool b)
  | .int n => pure (.int n)
  | .float x => pure (.float x)
  | .text (some s) => pure (.text s)
  | .array items closed => do
    let vs ← toJsonItems items
    checkClosed closed
    return .array vs
  | .object fields closed => do
    let fs ← toJsonFields [] fields
    checkClosed closed
    return .object fs
  | .outOfRange | .text none | .tooDeep _ | .broken => throw .malformed

def toJsonItems : List Document → Decoded (List Json)
  | [] => pure []
  | d :: r => do
    let v ← d.toJson
    let vs ← toJsonItems r
    return v :: vs

def toJsonFields (seen : List (String × Json)) :
    List (Option String × Document) → Decoded (List (String × Json))
  | [] => pure seen
  | (none, _) :: _ => throw .malformed
  | (some k, d) :: r => do
    let v ← d.toJson
    toJsonFields (Fields.insert seen k v) r

end

/-- Reads a value of any shape only for its defects. -/
def check (d : Document) : Decoded Unit := d.toJson.map fun _ => ()

def toText : Decoder String
  | .text (some s) => pure s
  | d => throw d.refuse

def toBool : Decoder Bool
  | .bool b => pure b
  | d => throw d.refuse

/-- Reads an integer from `low` to `high`; a number with a fraction is not one. -/
def toInteger (low high : Int) : Decoder Int
  | .int n => if low ≤ n ∧ n ≤ high then pure n else throw .mismatch
  | d => throw d.refuse

/-- Reads a natural number below `2 ^ bits`. -/
def toNatural (bits : Nat) (d : Document) : Decoded Nat :=
  Int.toNat <$> d.toInteger 0 (2 ^ bits - 1)

def toFloat : Decoder Binary64
  | .int n => pure (Binary64.ofInt n)
  | .float x => pure x
  | d => throw d.refuse

/-- Reads a value that may be null. -/
def toOption (read : Decoder α) : Decoder (Option α)
  | .null => pure none
  | d => some <$> read d

def toList (read : Decoder α) : Decoder (List α)
  | .array items closed => do
    let vs ← items.mapM read
    checkClosed closed
    return vs
  | d => throw d.refuseContainer

/-- A member of a record that is being filled in. -/
structure Member (σ : Type) where
  name : String
  /-- Whether an array of the members must reach it. -/
  required : Bool
  read : σ → Document → Decoded σ

/-- Fills a record from the members of an object; a member may be given once. -/
def fillFromFields (members : List (Member σ)) (seen : List String) (s : σ) :
    List (Option String × Document) → Decoded σ
  | [] => pure s
  | (none, _) :: _ => throw .malformed
  | (some k, d) :: r => do
    match members.find? (·.name == k) with
    | none => d.skip; fillFromFields members seen s r
    | some m =>
      if k ∈ seen then throw .mismatch
      else fillFromFields members (k :: seen) (← m.read s d) r

/-- Fills a record from the items of an array. -/
def fillFromItems (closed : Bool) (s : σ) : List (Member σ) → List Document → Decoded σ
  | [], [] => do checkClosed closed; return s
  | [], _ :: _ => throw .malformed
  | m :: ms, [] => do
    checkClosed closed
    if m.required then throw .mismatch else fillFromItems closed s ms []
  | m :: ms, d :: r => do fillFromItems closed (← m.read s d) ms r

def toRecord (members : List (Member σ)) (start : σ) : Decoder σ
  | .object fields closed => do
    let s ← fillFromFields members [] start fields
    checkClosed closed
    return s
  | .array items closed => fillFromItems closed start members items
  | d => throw d.refuseContainer

/-- A member that must have been given. -/
def require (x : Option α) : Decoded α :=
  match x with
  | some v => pure v
  | none => throw .mismatch

end Document

end DataGrid
