import DataGrid.Pool.Basic
import DataGrid.Query.Executor

/-!
# Queries on a pool

Queries share the pool that their tasks work in. A query submits one blocking job for each of its
partitions and waits for all of them, under a guard that calls the jobs off, one after the other,
when the wait ends in any other way than with all results. A job that has come to work only learns
of that from its token, which it looks at before it scans and before each entry that it folds. The
caller sees the end of a query when its guard is through. The steps of all jobs, waits and guards
come in any order.

A look at the token, the beginning of what it lets through and the end of that are steps of their
own, so that the token may fire in between.
-/

namespace DataGrid

/-- What a query does with the entries of a partition. -/
inductive Purpose where
  | collect
  /-- Folds them into its own copy of an aggregator. -/
  | fold (fresh : Aggregator)

/-- What the task of a partition comes to. -/
inductive Yield where
  | entries (es : List Entry)
  | folded (a : Aggregator)

structure QueryRequest where
  executor : Executor
  collection : String
  matching : Entry → Bool
  purpose : Purpose
  partitions : List Nat

/-- How far the work of a task is. -/
inductive Activity where
  /-- Has not looked at its token. -/
  | new
  /-- Is about to scan, as its token had not fired. -/
  | cleared
  | scanning
  /-- Has entries left to fold, and looks at its token before the next one. -/
  | between (a : Aggregator) (rest : List Entry)
  /-- Folds the next entry, for which its token had not fired. -/
  | admitted (a : Aggregator) (e : Entry) (rest : List Entry)
  | returned (r : Except GridError Yield)
  /-- Its result is there for the wait. -/
  | reported (r : Except GridError Yield)

structure QueryTask where
  partition : Nat
  /-- Its job in the pool. -/
  job : Nat
  activity : Activity := .new

/-- A call by which a guard calls a job off. -/
inductive GuardCall where
  | fire (job : Nat)
  | abort (job : Nat)
deriving DecidableEq

structure PooledQuery where
  request : QueryRequest
  tasks : List QueryTask
  closing : Option (Closing Yield) := none
  /-- What the guard still has to do. -/
  calls : List GuardCall := []

structure QueryPool where
  pool : Pool
  queries : List PooledQuery := []

/-- One step of the work in a partition; `fired` is what a look at the token shows. -/
def Activity.work (r : QueryRequest) (partition : Nat) (fired : Bool) : Activity → Activity
  | .new => if fired then .returned (.error .cancelled) else .cleared
  | .cleared => .scanning
  | .scanning =>
    match r.executor.scanner.scan r.collection r.matching partition with
    | .error e => .returned (.error e)
    | .ok es =>
      match r.purpose with
      | .collect => .returned (.ok (.entries es))
      | .fold fresh => .between fresh es
  | .between a [] => .returned (.ok (.folded a))
  | .between a (e :: rest) =>
    if fired then .returned (.error .cancelled) else .admitted a e rest
  | .admitted a e rest =>
    match a.accumulate e with
    | .error error => .returned (.error error)
    | .ok b => .between b rest
  | done => done

namespace PooledQuery

/-- A query that fails before it has any task. -/
def refused (r : QueryRequest) (e : GridError) : PooledQuery :=
  { request := r, tasks := [], closing := some (.returned (.error e)) }

/-- A query whose tasks have the jobs from the number `first` on. -/
def fanned (r : QueryRequest) (first : Nat) : PooledQuery :=
  { request := r
    tasks := (r.partitions.zipIdx first).map fun (partition, job) => { partition, job } }

/-- What the wait sees of a task. -/
def seen (t : QueryTask) : PartitionTask Yield × Progress :=
  match t.activity with
  | .reported r => (⟨t.partition, 1, r⟩, .finished)
  | _ => (⟨t.partition, 1, .error .cancelled⟩, .running 1)

def setActivity (q : PooledQuery) (i : Nat) (a : Activity) : PooledQuery :=
  { q with tasks := q.tasks.modify i ({ · with activity := a }) }

/-- The calls by which the guard calls all tasks off. -/
def allCalls (q : PooledQuery) : List GuardCall :=
  q.tasks.flatMap fun t => [.fire t.job, .abort t.job]

/-- Ends the wait; the guard lets the tasks be only if all results are there. -/
def close (q : PooledQuery) (c : Closing Yield) : PooledQuery :=
  match q.closing, c with
  | some _, _ => q
  | none, .returned (.ok _) => { q with closing := some c }
  | none, _ => { q with closing := some c, calls := q.allCalls }

/-- Ends the wait if the tasks settle it. -/
def settle (q : PooledQuery) : PooledQuery :=
  match FanOut.verdict? (q.tasks.map seen) with
  | some r => q.close (.returned r)
  | none => q

end PooledQuery

namespace QueryPool

inductive Event where
  | ask (r : QueryRequest)
  /-- A job has its turn in the pool. -/
  | turn (job : Nat)
  /-- A task at work takes its next step. -/
  | work (query task : Nat)
  /-- What a task has returned gets to the wait. -/
  | report (query task : Nat)
  /-- A query looks at what has been reported. -/
  | poll (query : Nat)
  | deadline (query : Nat)
  /-- The caller gives a query up. -/
  | drop (query : Nat)
  /-- The guard of a query makes its next call. -/
  | callOff (query : Nat)

def ofCapacity (n : Nat) : QueryPool := { pool := .ofCapacity n }

/-- Submits a blocking job for each of the partitions. -/
def submitAll (p : Pool) (partitions : List Nat) : Pool :=
  partitions.foldl (fun p _ => p.submit true) p

/-- Starts a query; a bad list of partitions ends it before anything is submitted. -/
def ask (s : QueryPool) (r : QueryRequest) : QueryPool :=
  match Executor.checkPartitions r.executor.scanner.partitionCount [] r.partitions with
  | .error e => { s with queries := s.queries ++ [.refused r e] }
  | .ok () =>
    { pool := submitAll s.pool r.partitions
      queries := s.queries ++ [.fanned r s.pool.jobs.length] }

def modifyQuery (s : QueryPool) (k : Nat) (f : PooledQuery → PooledQuery) : QueryPool :=
  { s with queries := s.queries.modify k f }

def task? (s : QueryPool) (k i : Nat) : Option (PooledQuery × QueryTask) :=
  s.queries[k]?.bind fun q => q.tasks[i]?.map (q, ·)

/-- Whether the token of a job has fired. -/
def hasFired (s : QueryPool) (job : Nat) : Bool := s.pool.jobs[job]?.any (·.fired)

/-- A task takes a step if its job works; when its work returns, its slot is given back. -/
def work (s : QueryPool) (k i : Nat) : QueryPool :=
  match s.task? k i with
  | none => s
  | some (q, t) =>
    if s.pool.stage? t.job = some .working then
      let a := t.activity.work q.request t.partition (s.hasFired t.job)
      let pool := match a with
        | .returned _ => s.pool.complete t.job
        | _ => s.pool
      { pool, queries := s.queries.modify k (·.setActivity i a) }
    else s

/-- An aborted job does not pass on what its work has returned. -/
def report (s : QueryPool) (k i : Nat) : QueryPool :=
  match s.task? k i with
  | some (_, ⟨_, job, .returned r⟩) =>
    if s.pool.jobs[job]?.any (·.aborted) then s
    else s.modifyQuery k (·.setActivity i (.reported r))
  | _ => s

def callOff (s : QueryPool) (k : Nat) : QueryPool :=
  match s.queries[k]? with
  | none => s
  | some q =>
    let rest := s.queries.modify k ({ · with calls := q.calls.tail })
    match q.calls with
    | [] => s
    | .fire job :: _ => ⟨s.pool.fire job, rest⟩
    | .abort job :: _ => ⟨s.pool.abort job, rest⟩

/-- What has been reported counts before the deadline. -/
def deadline (s : QueryPool) (k : Nat) : QueryPool :=
  s.modifyQuery k fun q =>
    q.settle.close (.returned (.error (.deadlineExceeded q.request.executor.timeout)))

def step (s : QueryPool) : Event → QueryPool
  | .ask r => s.ask r
  | .turn job => { s with pool := s.pool.turn job }
  | .work k i => s.work k i
  | .report k i => s.report k i
  | .poll k => s.modifyQuery k (·.settle)
  | .deadline k => s.deadline k
  | .drop k => s.modifyQuery k (·.close .dropped)
  | .callOff k => s.callOff k

def run (s : QueryPool) (es : List Event) : QueryPool := es.foldl step s

end QueryPool

end DataGrid
