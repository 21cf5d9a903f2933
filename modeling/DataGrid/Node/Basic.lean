import DataGrid.Config.Engine
import DataGrid.Node.Answer
import DataGrid.Node.Request
import DataGrid.Query.Executor
import DataGrid.Schedule.Run
import DataGrid.Store.Basic

/-!
# A node

A node has a store, runs queries over it, and runs tasks. Each operation takes a request and
gives an answer. Tasks make progress as time passes, and while a query waits for its
partitions.
-/

namespace DataGrid

structure Node where
  store : Store
  schedule : Schedule
  registry : Registry
  /-- How many partitions are scanned at once. -/
  scanCapacity : Nat
  queryTimeout : Duration

namespace Node

def new (c : EngineConfig) (r : Registry) : Node where
  store := .empty (.ofCount c.partitionCount)
  schedule := .new c.poolCapacity c.finishedTaskLimit
  registry := r
  scanCapacity := c.poolCapacity
  queryTimeout := c.queryTimeout

/-- The executor of queries over the store, whose scans take no time. -/
def executor (n : Node) : Executor where
  scanner := { partitionCount := n.store.partitioning.count, scan := n.store.scan }
  capacity := n.scanCapacity
  timeout := n.queryTimeout

def put (n : Node) (r : PutRequest) : Except GridError PutAnswer × Node :=
  if r.collection.isEmpty || r.key.isEmpty then
    (.error (.invalidRequest (.other "collection and key must not be empty")), n)
  else
    let (previous, store) := n.store.put r.collection r.key (.ofJson r.value)
    (.ok ⟨n.store.partitioning.partitionOf r.key, previous.isSome⟩, { n with store })

def get (n : Node) (collection key : String) : GetAnswer := ⟨key, n.store.get? collection key⟩

/-- The anchor of the last entry of a page. -/
def nextAnchor? (paging : Option PagingRequest) (entries : List Entry) : Option AnchorRequest := do
  return .ofEntry (← paging).page (← entries.getLast?)

/-- Lets time pass. -/
def advance (n : Node) (span : Nat) : Node := { n with schedule := n.schedule.advance span }

/-- Lets tasks run while a query waits for its partitions, if it has any to wait for. -/
def waitForQuery (n : Node) (partitions : List Nat) : Node :=
  match Executor.checkPartitions n.executor.scanner.partitionCount [] partitions with
  | .ok _ => if partitions.isEmpty then n else n.advance 0
  | .error _ => n

/-- The matching entries, or a page of them. There is no answer if the query comes to nothing. -/
def scan (n : Node) (r : ScanRequest) : Except GridError (Option ScanAnswer) × Node :=
  let plan : Except GridError (CompiledFilter × Option Paging) := do
    return (← r.filter.compile, ← r.paging.mapM PagingRequest.toPaging)
  match plan with
  | .error e => (.error e, n)
  | .ok (filter, paging) =>
    let partitions := r.partitions.getD n.executor.allPartitions
    let entries := n.executor.execute r.collection (filter.apply ·) paging partitions
    (entries.map fun found => found.map fun es => ⟨es, nextAnchor? r.paging es⟩,
      n.waitForQuery partitions)

/-- The aggregate of the matching entries. There is no answer if the query comes to nothing. -/
def aggregate (n : Node) (r : AggregateRequest) :
    Except GridError (Option AggregateAnswer) × Node :=
  let plan : Except GridError (CompiledFilter × Aggregator) := do
    return (← r.filter.compile, ← Catalog.aggregator r.aggregator r.attr)
  match plan with
  | .error e => (.error e, n)
  | .ok (filter, aggregator) =>
    let partitions := r.partitions.getD n.executor.allPartitions
    let value := n.executor.aggregate r.collection (filter.apply ·) aggregator partitions
    (value.map fun result => result.map fun v => ⟨r.aggregator, v⟩, n.waitForQuery partitions)

def submit (n : Node) (r : SubmitRequest) : Except GridError SubmitAnswer × Node :=
  if n.registry.contains r.task.handler then
    let id := r.id.getD n.schedule.service.freshId
    let (c, schedule) := n.schedule.submitTask n.registry id r.task
    let state := ((schedule.service.cell? c).map (·.state)).getD .submitted
    (.ok ⟨id, state⟩, { n with schedule })
  else (.error (.invalidRequest (.other (Registry.unknownHandler r.task.handler))), n)

/-- What a cancellation came to; an id without a task counts as cancelled. -/
def cancelAnswer (id : String) (cancelled : Bool) (status : Option TaskState) : CancelAnswer :=
  ⟨id, cancelled, status.getD .cancelled⟩

def cancel (n : Node) (r : CancelRequest) : CancelAnswer × Node :=
  let (cancelled, schedule) := n.schedule.cancelTask r.id r.interrupt
  (cancelAnswer r.id cancelled (schedule.service.status? r.id), { n with schedule })

def status? (n : Node) (id : String) : Option TaskCell := n.schedule.service.snapshot? id

end Node

end DataGrid
