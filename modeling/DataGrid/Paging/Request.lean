import DataGrid.Json.Decode
import DataGrid.Paging.Basic
import DataGrid.Value.Plain

/-!
# Requests for pages

How a client asks for a page: its size and number, the order of the result, and the anchors it
has collected, which must come with strictly growing page numbers.
-/

namespace DataGrid

/-- The order of a result: by an attribute or, without one, by the whole value. -/
structure SortRequest where
  attr : Option String := none
  descending : Bool := false

structure AnchorRequest where
  page : Nat
  key : String
  value : Json

structure PagingRequest where
  size : Nat
  page : Nat := 0
  sort : Option SortRequest := none
  anchors : List AnchorRequest := []

namespace SortRequest

def toOrder (s : SortRequest) : Except GridError EntryOrder := do
  let o ← match s.attr with
    | some a => EntryOrder.byAttribute <$> AttributePath.parse a
    | none => pure .byValue
  return if s.descending then o.reversed else o

def ofDocument : Decoder SortRequest :=
  Document.toRecord [
    ⟨"attribute", false, fun s d => return { s with attr := ← d.toOption Document.toText }⟩,
    ⟨"descending", false, fun s d => return { s with descending := ← d.toBool }⟩] {}

end SortRequest

namespace AnchorRequest

def entry (a : AnchorRequest) : Entry := ⟨a.key, .ofJson a.value⟩

/-- The anchor that a client sends back for an entry. -/
def ofEntry (page : Nat) (e : Entry) : AnchorRequest := ⟨page, e.key, e.value.toJson⟩

def toJson (a : AnchorRequest) : Json :=
  .object [("key", .text a.key), ("page", .int a.page), ("value", a.value)]

/-- The members of an anchor while it is read. -/
structure Draft where
  page : Option Nat := none
  key : Option String := none
  value : Option Json := none

def ofDocument (d : Document) : Decoded AnchorRequest := do
  let s ← d.toRecord [
    ⟨"page", true, fun (s : Draft) d => return { s with page := ← d.toNatural 64 }⟩,
    ⟨"key", true, fun s d => return { s with key := ← d.toText }⟩,
    ⟨"value", true, fun s d => return { s with value := ← d.toJson }⟩] {}
  return ⟨← Document.require s.page, ← Document.require s.key, ← Document.require s.value⟩

end AnchorRequest

namespace PagingRequest

/-- The members of a request while it is read. -/
structure Draft where
  size : Option Nat := none
  page : Nat := 0
  sort : Option SortRequest := none
  anchors : List AnchorRequest := []

def ofDocument (d : Document) : Decoded PagingRequest := do
  let s ← d.toRecord [
    ⟨"page_size", true, fun (s : Draft) d => return { s with size := ← d.toNatural 64 }⟩,
    ⟨"page", false, fun s d => return { s with page := ← d.toNatural 64 }⟩,
    ⟨"sort", false, fun s d => return { s with sort := ← d.toOption SortRequest.ofDocument }⟩,
    ⟨"anchors", false, fun s d =>
      return { s with anchors := ← d.toList AnchorRequest.ofDocument }⟩] {}
  return ⟨← Document.require s.size, s.page, s.sort, s.anchors⟩

/-- Adds the anchors of a client; the first one out of order is the error. -/
def addAnchors (p : Paging) : List AnchorRequest → Except GridError Paging
  | [] => return p
  | a :: r =>
    match p.recordAnchor? a.page a.entry with
    | some q => addAnchors q r
    | none => throw (.invalidRequest (.misplacedAnchor a.page))

def toPaging (r : PagingRequest) : Except GridError Paging := do
  let o ← (r.sort.getD {}).toOrder
  let p ← Paging.ofSize r.size
  addAnchors ((p.withOrder o).withPage r.page) r.anchors

end PagingRequest

end DataGrid
