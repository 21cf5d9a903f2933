import DataGrid.Query.Path
import DataGrid.Value.Basic

/-!
# Entries

A key with its value, as filters, aggregators and sort orders see it. A path leads from the
value down through fields; as a first segment `__key` stands for the key and `this` for the
value itself.
-/

namespace DataGrid

structure Entry where
  key : String
  value : Value
deriving Inhabited

namespace Entry

/-- Follows field names down from a value. -/
def descend (v : Value) : List String → Option Value
  | [] => some v
  | name :: r => (v.field? name).bind (descend · r)

/-- What a path leads to, if it leads anywhere. -/
def extract (e : Entry) (p : AttributePath) : Option Value :=
  match p.segments with
  | "__key" :: r => if r.isEmpty then some (.text e.key) else none
  | "this" :: r => descend e.value r
  | r => descend e.value r

/-- What an optional path leads to; the whole value where there is no path. -/
def extractOr (e : Entry) : Option AttributePath → Option Value
  | none => some e.value
  | some p => e.extract p

/-- Keys and values are equal. -/
def beq (a b : Entry) : Bool := a.key == b.key && a.value == b.value

instance : BEq Entry := ⟨beq⟩

end Entry

end DataGrid
