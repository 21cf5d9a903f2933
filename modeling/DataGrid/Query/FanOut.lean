import DataGrid.Error

/-!
# Fanning a query out

A query becomes one task for each partition. The tasks share a bounded number of slots, start
in any order, and work in units: the scan first, then one unit for each entry folded. The wait
for them ends with all results in the order of the partitions, with the failure of one task,
at the deadline, or when the caller gives up; from then on nothing starts and running tasks
stop before their next unit.
-/

namespace DataGrid

/-- What the task of one partition will do. -/
structure PartitionTask (α : Type) where
  partition : Nat
  /-- The scan and the entries folded after it. -/
  units : Nat
  result : Except GridError α

inductive Progress where
  | queued
  | running (left : Nat)
  | finished
  | cancelled
deriving DecidableEq

/-- How the wait for the tasks ended. -/
inductive Closing (α : Type) where
  | returned (r : Except GridError (List α))
  | dropped

structure FanOut (α : Type) where
  capacity : Nat
  timeout : Duration
  tasks : List (PartitionTask α × Progress)
  closing : Option (Closing α)

namespace FanOut

variable {α : Type}

inductive Event where
  /-- The task at a position gets a slot. -/
  | start (i : Nat)
  /-- The task at a position goes on with its next unit. -/
  | run (i : Nat)
  | deadline
  | drop

/-- The most tasks of which any failure ends the wait at once; with more of them a failure is
seen when all tasks before it have finished. -/
def eagerLimit : Nat := 30

/-- The failure a finished task is reported with. -/
def failure? (t : PartitionTask α × Progress) : Option GridError :=
  match t with
  | (task, .finished) =>
    match task.result with
    | .error e => some (.taskFailure task.partition e)
    | .ok _ => none
  | _ => none

/-- The result of a task that has finished well. -/
def success? (t : PartitionTask α × Progress) : Option α :=
  match t with
  | (task, .finished) => task.result.toOption
  | _ => none

/-- The tasks whose failures are seen. -/
def observed (ts : List (PartitionTask α × Progress)) : List (PartitionTask α × Progress) :=
  if ts.length ≤ eagerLimit then ts else ts.take ((ts.takeWhile (success? · |>.isSome)).length + 1)

/-- What the finished tasks amount to, if they settle the query. -/
def verdict? (ts : List (PartitionTask α × Progress)) : Option (Except GridError (List α)) :=
  match (observed ts).findSome? failure? with
  | some e => some (.error e)
  | none => (ts.mapM success?).map .ok

/-- Ends the wait if the tasks settle it. -/
def settle (f : FanOut α) : FanOut α :=
  match f.closing with
  | some _ => f
  | none => { f with closing := (verdict? f.tasks).map .returned }

def runningCount (f : FanOut α) : Nat :=
  f.tasks.countP fun t => match t.2 with
    | .running _ => true
    | _ => false

def setProgress (f : FanOut α) (i : Nat) (p : Progress) : FanOut α :=
  { f with tasks := f.tasks.modify i fun t => (t.1, p) }

/-- A task gets a slot, if there is one; after the end of the wait it only notices that. -/
def startTask (f : FanOut α) (i : Nat) : FanOut α :=
  match f.tasks[i]? with
  | some (task, .queued) =>
    if f.closing.isSome then f.setProgress i .cancelled
    else if f.runningCount < f.capacity then f.setProgress i (.running task.units)
    else f
  | _ => f

/-- A running task does its next unit, unless the wait has ended. -/
def runTask (f : FanOut α) (i : Nat) : FanOut α :=
  match f.tasks[i]? with
  | some (_, .running left) =>
    if f.closing.isSome then f.setProgress i .cancelled
    else if left ≤ 1 then f.setProgress i .finished
    else f.setProgress i (.running (left - 1))
  | _ => f

def close (f : FanOut α) (c : Closing α) : FanOut α :=
  if f.closing.isSome then f else { f with closing := some c }

def step (f : FanOut α) : Event → FanOut α
  | .start i => (f.startTask i).settle
  | .run i => (f.runTask i).settle
  | .deadline => f.close (.returned (.error (.deadlineExceeded f.timeout)))
  | .drop => f.close .dropped

/-- A query that has just been fanned out. -/
def new (capacity : Nat) (timeout : Duration) (tasks : List (PartitionTask α)) : FanOut α :=
  settle ⟨max capacity 1, timeout, tasks.map (·, .queued), none⟩

def runAll (f : FanOut α) (es : List Event) : FanOut α := es.foldl step f

/-! ## One after the other -/

/-- The events of tasks that are done in order, each in its own time. An end counts only before
the deadline. -/
def timeline (deadline : Nat) : Nat → List (Nat × Nat × Nat) → List Event
  | _, [] => [.deadline]
  | now, (i, time, units) :: r =>
    if deadline ≤ now + time then [.start i, .deadline]
    else .start i :: List.replicate (max units 1) (.run i) ++ timeline deadline (now + time) r

/-- The outcome of tasks of which each takes a given time, in nanoseconds. All of them wait for
one worker, so that of several that would fail the first in the list is the one that does. -/
def outcome (capacity : Nat) (timeout : Duration) (tasks : List (PartitionTask α × Nat)) :
    Except GridError (List α) :=
  let f := new capacity timeout (tasks.map (·.1))
  let waiting := tasks.zipIdx.map fun ((t, time), i) => (i, time, t.units)
  match (f.runAll (timeline timeout.nanoseconds 0 waiting)).closing with
  | some (.returned r) => r
  | _ => .error (.deadlineExceeded timeout)

end FanOut

end DataGrid
