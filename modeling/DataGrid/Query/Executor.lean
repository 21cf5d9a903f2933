import DataGrid.Aggregate.Catalog
import DataGrid.Paging.Page
import DataGrid.Query.FanOut

/-!
# Running queries

An executor checks the list of partitions, fans the query out to them, and merges what comes
back in the order of the list: entries are concatenated and cut to a page, partial aggregates
are combined into the prototype. A query that does not fail may still come to nothing, where a
sort gives up: that of the entries of a page, or that of distinct values.
-/

namespace DataGrid

/-- Something whose partitions can be scanned. -/
structure Scanner where
  /-- The ids below this number are the partitions. -/
  partitionCount : Nat
  scan : String → (Entry → Bool) → Nat → Except GridError (List Entry)
  /-- How long a scan of a partition takes, in nanoseconds. -/
  delay : Nat → Nat := fun _ => 0

structure Executor where
  scanner : Scanner
  capacity : Nat
  timeout : Duration

namespace Executor

def allPartitions (x : Executor) : List Nat := List.range x.scanner.partitionCount

/-- Every partition must exist and be named once; the first bad position is the error. -/
def checkPartitions (count : Nat) (seen : List Nat) : List Nat → Except GridError Unit
  | [] => return ()
  | p :: r =>
    if count ≤ p then throw (.unknownPartition p)
    else if p ∈ seen then throw (.invalidRequest (.repeatedPartition p))
    else checkPartitions count (p :: seen) r

/-- Fans tasks out, one for each partition. -/
def fanOut (x : Executor) (task : Nat → PartitionTask α) (ps : List Nat) :
    Except GridError (List α) :=
  FanOut.outcome x.capacity x.timeout (ps.map fun p => (task p, x.scanner.delay p))

/-- The task that scans a partition. -/
def scanTask (x : Executor) (c : String) (matching : Entry → Bool) (p : Nat) :
    PartitionTask (List Entry) :=
  ⟨p, 1, x.scanner.scan c matching p⟩

/-- The matching entries of the partitions, in their order; with a paging, the page of those. -/
def execute (x : Executor) (c : String) (matching : Entry → Bool) (paging : Option Paging)
    (ps : List Nat) : Except GridError (Option (List Entry)) := do
  checkPartitions x.scanner.partitionCount [] ps
  let merged := (← x.fanOut (x.scanTask c matching) ps).flatten
  return match paging with
    | some p => p.pageOf? merged
    | none => some merged

/-- The task that folds the entries of a partition into its own copy of an aggregator. -/
def foldTask (x : Executor) (c : String) (matching : Entry → Bool) (a : Aggregator) (p : Nat) :
    PartitionTask Aggregator :=
  match x.scanner.scan c matching p with
  | .ok es => ⟨p, 1 + es.length, a.accumulateAll es⟩
  | .error e => ⟨p, 1, .error e⟩

/-- Combines partial results in order. -/
def combineAll (a : Aggregator) (parts : List Aggregator) : Except GridError Aggregator :=
  parts.foldlM Aggregator.combine a

/-- The value of a fresh aggregator over the matching entries of the partitions. -/
def aggregate (x : Executor) (c : String) (matching : Entry → Bool) (a : Aggregator)
    (ps : List Nat) : Except GridError (Option Value) := do
  checkPartitions x.scanner.partitionCount [] ps
  let parts ← x.fanOut (x.foldTask c matching a) ps
  return (← combineAll a parts).result?

end Executor

end DataGrid
