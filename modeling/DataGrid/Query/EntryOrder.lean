import DataGrid.Query.Entry
import DataGrid.Sort.Stable
import DataGrid.Value.Order

/-!
# Orders of entries

The order of a paged result: by key, by value, or by what a path leads to, in either
direction. An entry without the attribute comes before those that have it.
-/

namespace DataGrid

structure EntryOrder where
  description : String
  compare : Entry → Entry → Ordering

namespace EntryOrder

def byKey : EntryOrder := ⟨"key", fun a b => Ord.compare a.key b.key⟩

def byValue : EntryOrder := ⟨"value", fun a b => a.value.totalCompare b.value⟩

/-- The order of values that may be missing. -/
def compareOptions : Option Value → Option Value → Ordering
  | some a, some b => a.totalCompare b
  | none, some _ => .lt
  | some _, none => .gt
  | none, none => .eq

def byAttribute (p : AttributePath) : EntryOrder :=
  ⟨"attribute " ++ p.render, fun a b => compareOptions (a.extract p) (b.extract p)⟩

def reversed (o : EntryOrder) : EntryOrder :=
  ⟨o.description ++ " desc", fun a b => o.compare b a⟩

def less (o : EntryOrder) (a b : Entry) : Bool := o.compare a b == .lt

/-- Entries in this order; those that compare as equal keep their places. There is nothing if the
comparison does not order them and the sort gives up. -/
def sort? (o : EntryOrder) (es : List Entry) : Option (List Entry) := stableSort? o.less es

theorem sort?_perm {o : EntryOrder} {es l : List Entry} (h : o.sort? es = some l) : l.Perm es :=
  stableSort?_perm h

end EntryOrder

/-- Values by their comparison; nothing if it does not order them and the sort gives up. -/
def Value.sort? (vs : List Value) : Option (List Value) :=
  stableSort? (fun a b => a.totalCompare b == .lt) vs

end DataGrid
