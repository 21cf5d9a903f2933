import DataGrid.Filter.Json
import DataGrid.Paging.Request
import DataGrid.Task.Handler

/-!
# Request bodies

What clients ask of a node: to store an entry, to scan or aggregate a collection, to submit
or cancel a task. Unless said otherwise a member is required.
-/

namespace DataGrid

structure PutRequest where
  collection : String
  key : String
  value : Json

structure ScanRequest where
  collection : String
  /-- Everything matches without it. -/
  filter : Filter := .always
  /-- All partitions without it. -/
  partitions : Option (List Nat) := none
  paging : Option PagingRequest := none

structure AggregateRequest where
  collection : String
  filter : Filter := .always
  partitions : Option (List Nat) := none
  aggregator : String
  attr : Option String := none

structure SubmitRequest where
  /-- Chosen by the node without it. -/
  id : Option String := none
  task : Task

structure CancelRequest where
  id : String
  interrupt : Bool := true

namespace PutRequest

/-- The members while they are read. -/
structure Draft where
  collection : Option String := none
  key : Option String := none
  value : Option Json := none

def ofDocument (d : Document) : Decoded PutRequest := do
  let s ← d.toRecord [
    ⟨"collection", true, fun (s : Draft) d => return { s with collection := ← d.toText }⟩,
    ⟨"key", true, fun s d => return { s with key := ← d.toText }⟩,
    ⟨"value", true, fun s d => return { s with value := ← d.toJson }⟩] {}
  return ⟨← Document.require s.collection, ← Document.require s.key, ← Document.require s.value⟩

end PutRequest

/-- A list of partition ids, which have 32 bits. -/
def partitionIds : Decoder (List Nat) := Document.toList (Document.toNatural 32)

namespace ScanRequest

/-- The members while they are read. -/
structure Draft where
  collection : Option String := none
  filter : Filter := .always
  partitions : Option (List Nat) := none
  paging : Option PagingRequest := none

def ofDocument (d : Document) : Decoded ScanRequest := do
  let s ← d.toRecord [
    ⟨"collection", true, fun (s : Draft) d => return { s with collection := ← d.toText }⟩,
    ⟨"filter", false, fun s d => return { s with filter := ← Filter.ofDocument d }⟩,
    ⟨"partitions", false, fun s d => return { s with partitions := ← d.toOption partitionIds }⟩,
    ⟨"paging", false, fun s d =>
      return { s with paging := ← d.toOption PagingRequest.ofDocument }⟩] {}
  return ⟨← Document.require s.collection, s.filter, s.partitions, s.paging⟩

end ScanRequest

namespace AggregateRequest

/-- The members while they are read. -/
structure Draft where
  collection : Option String := none
  filter : Filter := .always
  partitions : Option (List Nat) := none
  aggregator : Option String := none
  attr : Option String := none

def ofDocument (d : Document) : Decoded AggregateRequest := do
  let s ← d.toRecord [
    ⟨"collection", true, fun (s : Draft) d => return { s with collection := ← d.toText }⟩,
    ⟨"filter", false, fun s d => return { s with filter := ← Filter.ofDocument d }⟩,
    ⟨"partitions", false, fun s d => return { s with partitions := ← d.toOption partitionIds }⟩,
    ⟨"aggregator", true, fun s d => return { s with aggregator := ← d.toText }⟩,
    ⟨"attribute", false, fun s d => return { s with attr := ← d.toOption Document.toText }⟩] {}
  return ⟨← Document.require s.collection, s.filter, s.partitions,
    ← Document.require s.aggregator, s.attr⟩

end AggregateRequest

namespace Task

/-- The members while they are read. -/
structure Draft where
  handler : Option String := none
  payload : Option Json := none

def ofMembers (d : Document) : Decoded Task := do
  let s ← d.toRecord [
    ⟨"handler", true, fun (s : Draft) d => return { s with handler := ← d.toText }⟩,
    ⟨"payload", true, fun s d => return { s with payload := ← d.toJson }⟩] {}
  return ⟨← Document.require s.handler, ← Document.require s.payload⟩

/-- A task is an object with one member, which is named for the kind of task. -/
def ofDocument : Decoder Task
  | .object ((some k, d) :: others) closed => do
    if k ≠ "Execute" then throw .mismatch
    let t ← ofMembers d
    if closed ∧ others.isEmpty then return t else throw .malformed
  | .text (some _) => throw .mismatch
  | _ => throw .malformed

end Task

namespace SubmitRequest

/-- The members while they are read. -/
structure Draft where
  id : Option String := none
  task : Option Task := none

def ofDocument (d : Document) : Decoded SubmitRequest := do
  let s ← d.toRecord [
    ⟨"task_id", false, fun (s : Draft) d => return { s with id := ← d.toOption Document.toText }⟩,
    ⟨"task", true, fun s d => return { s with task := ← Task.ofDocument d }⟩] {}
  return ⟨s.id, ← Document.require s.task⟩

end SubmitRequest

namespace CancelRequest

/-- The members while they are read. -/
structure Draft where
  id : Option String := none
  interrupt : Bool := true

def ofDocument (d : Document) : Decoded CancelRequest := do
  let s ← d.toRecord [
    ⟨"task_id", true, fun (s : Draft) d => return { s with id := ← d.toText }⟩,
    ⟨"may_interrupt_if_running", false, fun s d => return { s with interrupt := ← d.toBool }⟩] {}
  return ⟨← Document.require s.id, s.interrupt⟩

end CancelRequest

end DataGrid
