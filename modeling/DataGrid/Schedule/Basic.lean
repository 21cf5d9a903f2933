import DataGrid.Pool.Basic
import DataGrid.Task.Handler
import DataGrid.Task.Service

/-!
# Schedules

The jobs of one pool and the tasks of one service under a clock of their own. Whoever has
something to do gets a turn, in the order in which that came up; the clock moves only when
nobody has. Nothing runs by itself: submitting and cancelling only line up turns.
-/

namespace DataGrid

/-- Who has a turn. -/
inductive Turn where
  | job (i : Nat)
  /-- The retirement of a task, due when the task has ended. -/
  | retirement (cell : Nat)
deriving DecidableEq

/-- What a job is there for. -/
structure Assignment where
  work : Work
  /-- The cell of the task that the job serves, if it serves one. -/
  cell : Option Nat
  outcome : Option (Except GridError Json) := none

/-- Whether a working job learns that its token fires. A task is given up then, whatever its
work. -/
def Assignment.watchesToken (a : Assignment) : Bool := a.cell.isSome || a.work.interrupted.isSome

structure Schedule where
  pool : Pool
  service : TaskService
  /-- Milliseconds since the start. -/
  now : Nat := 0
  ready : List Turn := []
  /-- The jobs whose time is running, with its end, in the order in which they began. -/
  timers : List (Nat × Nat) := []
  /-- What work has reported, the latest first. -/
  log : List String := []
  /-- What each job of the pool is there for. -/
  assignments : List Assignment := []
  /-- The cells whose tasks are still to be retired. -/
  unretired : List Nat := []

namespace Schedule

/-- An idle schedule. -/
def new (capacity finishedLimit : Nat) : Schedule where
  pool := .ofCapacity capacity
  service := { finishedLimit }

def report (s : Schedule) (lines : List String) : Schedule :=
  { s with log := lines.reverse ++ s.log }

/-- Lines up a turn, unless it is in line already. -/
def wake (s : Schedule) (t : Turn) : Schedule :=
  if t ∈ s.ready then s else { s with ready := s.ready ++ [t] }

def wakeRetirement (s : Schedule) (c : Nat) : Schedule :=
  if c ∈ s.unretired then s.wake (.retirement c) else s

/-- Takes over a new state of the pool; the job that got a slot by it has a turn. -/
def setPool (s : Schedule) (p : Pool) : Schedule :=
  let next := { s with pool := p }
  match s.pool.slots.served? p.slots with
  | some j => next.wake (.job j)
  | none => next

/-- Adds a job to the pool. -/
def assign (s : Schedule) (a : Assignment) (blocking : Bool) : Schedule :=
  { s with
    pool := s.pool.submit blocking
    assignments := s.assignments ++ [a] }.wake (.job s.assignments.length)

/-- Submits work to the pool; the number of its job comes with the new schedule. -/
def submitWork (s : Schedule) (w : Work) (blocking : Bool) : Nat × Schedule :=
  (s.assignments.length, s.assign ⟨w, none, none⟩ blocking)

/-- Submits a task to the service. A new one becomes a job; the answer is its cell. -/
def submitTask (s : Schedule) (r : Registry) (id : String) (t : Task) : Nat × Schedule :=
  match s.service.submit id with
  | (.settled c, service) => (c, { s with service })
  | (.fresh c, service) =>
    let s := { s with service, unretired := c :: s.unretired }
    (c, (s.assign ⟨r.work t, some c, none⟩ false).wake (.retirement c))

/-- The token of a job fires. -/
def fire (s : Schedule) (i : Nat) : Schedule :=
  let s := { s with pool := s.pool.fire i }
  match s.pool.stage? i with
  | some .waiting => s.wake (.job i)
  | some .working => if s.assignments[i]?.any (·.watchesToken) then s.wake (.job i) else s
  | _ => s

def abort (s : Schedule) (i : Nat) : Schedule :=
  let s := { s with pool := s.pool.abort i }
  match s.pool.stage? i with
  | some .ended | none => s
  | _ => s.wake (.job i)

/-- Cancels a job of the pool: its token fires and it is aborted. -/
def cancelJob (s : Schedule) (i : Nat) : Schedule := (s.fire i).abort i

/-- Cancels the task of a cell. -/
def cancelCell (s : Schedule) (c : Nat) (interrupt : Bool) : Bool × Schedule :=
  let (cancelled, service) := s.service.cancelCell c interrupt
  let s := { s with service }
  if cancelled then
    let s := s.wakeRetirement c
    let fired := (s.service.cell? c).any (·.fired)
    match s.assignments.findIdx? (·.cell = some c) with
    | some i => (true, if fired then s.fire i else s)
    | none => (true, s)
  else (false, s)

/-- Cancels a task by id. -/
def cancelTask (s : Schedule) (id : String) (interrupt : Bool) : Bool × Schedule :=
  match s.service.handle? id with
  | some c => s.cancelCell c interrupt
  | none =>
    let (cancelled, service) := s.service.cancel id interrupt
    (cancelled, { s with service })

def outcome? (s : Schedule) (i : Nat) : Option (Except GridError Json) :=
  s.assignments[i]?.bind (·.outcome)

end Schedule

end DataGrid
