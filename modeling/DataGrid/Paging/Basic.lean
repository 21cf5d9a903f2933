import DataGrid.Query.EntryOrder

/-!
# Paging

A paging says which page of a sorted result is wanted. Reading a page leaves an anchor, its
last entry; anchors are only ever appended, with growing page numbers, and the nearest one
before a page is where reading resumes.
-/

namespace DataGrid

/-- The last entry that was returned on a page. -/
structure Anchor where
  page : Nat
  entry : Entry

structure Paging where
  size : Nat
  page : Nat
  order : EntryOrder
  anchors : List Anchor
  size_pos : 0 < size

namespace Paging

/-- The first page, in the order of the values. -/
def ofSize (size : Nat) : Except GridError Paging :=
  if h : 0 < size then return ⟨size, 0, .byValue, [], h⟩
  else throw (.invalidRequest .emptyPage)

def withOrder (p : Paging) (o : EntryOrder) : Paging := { p with order := o }

def withPage (p : Paging) (n : Nat) : Paging := { p with page := n }

/-- Whether an anchor of page `n` would come after all recorded ones. -/
def accepts (p : Paging) (n : Nat) : Bool := p.anchors.getLast?.all (·.page < n)

/-- The paging with an anchor more, if its page comes after all recorded ones. -/
def recordAnchor? (p : Paging) (n : Nat) (e : Entry) : Option Paging :=
  if p.accepts n then some { p with anchors := p.anchors ++ [⟨n, e⟩] } else none

/-- As `recordAnchor?`; an anchor that is refused changes nothing. -/
def recordAnchor (p : Paging) (n : Nat) (e : Entry) : Paging := (p.recordAnchor? n e).getD p

/-- The last recorded anchor before the current page. -/
def nearestAnchor? (p : Paging) : Option Anchor := p.anchors.reverse.find? (·.page < p.page)

/-- The next page, with an anchor for the one just read. -/
def nextPage (p : Paging) (read : List Entry) : Paging :=
  let q := match read.getLast? with
    | some e => p.recordAnchor p.page e
    | none => p
  q.withPage (q.page + 1)

def previousPage (p : Paging) : Paging := p.withPage (p.page - 1)

@[simp] theorem withPage_anchors (p : Paging) (n : Nat) : (p.withPage n).anchors = p.anchors := rfl

@[simp] theorem withOrder_anchors (p : Paging) (o : EntryOrder) :
    (p.withOrder o).anchors = p.anchors := rfl

theorem recordAnchor_anchors (p : Paging) (n : Nat) (e : Entry) :
    (p.recordAnchor n e).anchors = if p.accepts n then p.anchors ++ [⟨n, e⟩] else p.anchors := by
  unfold recordAnchor recordAnchor?
  split <;> simp_all

end Paging

end DataGrid
