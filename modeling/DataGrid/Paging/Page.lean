import DataGrid.Paging.Basic

/-!
# The entries of a page

The merged result is sorted, reading resumes right after the nearest anchor, and the whole
pages between that anchor and the wanted one are skipped. Positions are machine words that
saturate, so a page far beyond the end is just empty. There is no page, not even an empty one, if
the sort gives up.
-/

namespace DataGrid

/-- The largest position. -/
def maxPosition : Nat := 2 ^ 64 - 1

def saturatingAdd (a b : Nat) : Nat := min (a + b) maxPosition

def saturatingMul (a b : Nat) : Nat := min (a * b) maxPosition

/-- One half of a binary search: among the `size` elements from `base` on, the one where the
search for the last element that satisfies `p` ends. -/
def bisect (p : Nat → Bool) (base size : Nat) : Nat :=
  if 1 < size then
    let half := size / 2
    bisect p (if p (base + half) then base + half else base) (size - half)
  else base
termination_by size

/-- The position of the first element that does not satisfy `p`, if those that do come first. -/
def partitionPoint (p : α → Bool) (l : Array α) : Nat :=
  let test (i : Nat) : Bool := l[i]?.any p
  if l.isEmpty then 0
  else
    let base := bisect test 0 l.size
    if test base then base + 1 else base

namespace Paging

/-- The position of the first entry after an anchor: behind the anchored key if it is among the
entries that compare equal to the anchor, behind all of those otherwise. -/
def positionAfter (o : EntryOrder) (entries : Array Entry) (a : Anchor) : Nat :=
  let start := partitionPoint (fun e => o.compare e a.entry == .lt) entries
  let stop := partitionPoint (fun e => o.compare e a.entry != .gt) entries
  match ((entries.toList.drop start).take (stop - start)).findIdx? (·.key == a.entry.key) with
  | some i => start + i + 1
  | none => stop

/-- The position in the sorted result where the wanted page begins. -/
def pageStart (p : Paging) (sorted : Array Entry) : Nat :=
  let (start, skipped) := match p.nearestAnchor? with
    | some a => (positionAfter p.order sorted a, p.page - a.page - 1)
    | none => (0, p.page)
  saturatingAdd start (saturatingMul skipped p.size)

/-- The entries of the wanted page of a result that is already sorted. -/
def pageOfSorted (p : Paging) (sorted : List Entry) : List Entry :=
  let start := p.pageStart sorted.toArray
  (sorted.drop start).take (min (saturatingAdd start p.size) sorted.length - start)

/-- The wanted page of a result, if it can be sorted. -/
def pageOf? (p : Paging) (entries : List Entry) : Option (List Entry) :=
  (p.order.sort? entries).map p.pageOfSorted

end Paging

end DataGrid
