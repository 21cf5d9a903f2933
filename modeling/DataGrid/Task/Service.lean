import DataGrid.Task.Cell
import Std.Data.TreeMap

/-!
# The task service

Tasks by id. Submitting and cancelling may come in either order: a cancellation of an unknown
id leaves a tombstone, and a submission that meets one is cancelled from the start. Finished
tasks and tombstones are remembered up to a limit each, the oldest forgotten first. A handle
names a cell by its position and stays good after the record is forgotten.
-/

namespace DataGrid

/-- What is known under an id. -/
inductive TaskRecord where
  | live (cell : Nat)
  | tombstone
deriving DecidableEq

structure TaskService where
  /-- How many finished tasks are remembered. -/
  finishedLimit : Nat
  /-- All cells ever made; a record or a handle points into this list. -/
  cells : List TaskCell := []
  records : Std.TreeMap String TaskRecord := ∅
  /-- The ids of finished tasks, the latest first. -/
  finished : List String := []
  /-- The ids of tombstones, the latest first. -/
  tombstones : List String := []

namespace TaskService

/-- How many tombstones are remembered. -/
def tombstoneLimit : Nat := 10000

/-- Adds an id to a queue; beyond the limit the oldest one leaves it. -/
def enqueue (limit : Nat) (queue : List String) (id : String) : Option String × List String :=
  if queue.length < limit then (none, id :: queue)
  else ((id :: queue).getLast?, (id :: queue).dropLast)

def cell? (s : TaskService) (c : Nat) : Option TaskCell := s.cells[c]?

def setCell (s : TaskService) (c : Nat) (t : TaskCell) : TaskService :=
  { s with cells := s.cells.set c t }

def isTerminal (s : TaskService) (c : Nat) : Bool := (s.cell? c).any (·.state.isTerminal)

/-- Forgets an id if it names a task that has ended. -/
def evictFinished (s : TaskService) (id : String) : TaskService :=
  match s.records[id]? with
  | some (.live c) => if s.isTerminal c then { s with records := s.records.erase id } else s
  | _ => s

/-- Forgets an id if it is only a tombstone. -/
def evictTombstone (s : TaskService) (id : String) : TaskService :=
  match s.records[id]? with
  | some .tombstone => { s with records := s.records.erase id }
  | _ => s

/-- Notes that the task of an id has ended; the oldest such task may be forgotten. -/
def retire (s : TaskService) (id : String) : TaskService :=
  let (old, finished) := enqueue s.finishedLimit s.finished id
  let s := { s with finished }
  match old with
  | some old => s.evictFinished old
  | none => s

/-- Notes a new tombstone; the oldest may be forgotten. -/
def rememberTombstone (s : TaskService) (id : String) : TaskService :=
  let (old, tombstones) := enqueue tombstoneLimit s.tombstones id
  let s := { s with tombstones }
  match old with
  | some old => s.evictTombstone old
  | none => s

/-- Makes a cell and records it under its id. -/
def register (s : TaskService) (t : TaskCell) : Nat × TaskService :=
  let c := s.cells.length
  (c, { s with cells := s.cells ++ [t], records := s.records.insert t.id (.live c) })

/-- What a submission came to. -/
inductive Submission where
  /-- A new task, to be worked on. -/
  | fresh (cell : Nat)
  /-- A task already known, or cancelled before it came. -/
  | settled (cell : Nat)

def Submission.cell : Submission → Nat
  | .fresh c => c
  | .settled c => c

def submit (s : TaskService) (id : String) : Submission × TaskService :=
  match s.records[id]? with
  | some (.live c) => (.settled c, s)
  | some .tombstone =>
    let (c, s) := s.register (.newCancelled id)
    (.settled c, s.retire id)
  | none =>
    let (c, s) := s.register (.new id)
    (.fresh c, s)

/-- The work of a task is about to begin; the answer says whether it may. -/
def start (s : TaskService) (c : Nat) : Bool × TaskService :=
  match s.cell? c with
  | some t => (t.start.1, s.setCell c t.start.2)
  | none => (false, s)

def finish (s : TaskService) (c : Nat) (r : Except GridError Json) : TaskService :=
  match s.cell? c with
  | some t => s.setCell c (t.finish r)
  | none => s

/-- Cancels the task of a handle. -/
def cancelCell (s : TaskService) (c : Nat) (interrupt : Bool) : Bool × TaskService :=
  match s.cell? c with
  | some t => ((t.cancel interrupt).1, s.setCell c (t.cancel interrupt).2)
  | none => (false, s)

/-- Cancels by id. The answer is false only for a task that has already ended. -/
def cancel (s : TaskService) (id : String) (interrupt : Bool) : Bool × TaskService :=
  match s.records[id]? with
  | some (.live c) => s.cancelCell c interrupt
  | some .tombstone => (true, s)
  | none => (true, { s with records := s.records.insert id .tombstone }.rememberTombstone id)

/-- The cell a live record names. -/
def handle? (s : TaskService) (id : String) : Option Nat :=
  match s.records[id]? with
  | some (.live c) => some c
  | _ => none

def snapshot? (s : TaskService) (id : String) : Option TaskCell := (s.handle? id).bind s.cell?

def status? (s : TaskService) (id : String) : Option TaskState := (s.snapshot? id).map (·.state)

/-- The states of all live records. -/
def liveStates (s : TaskService) : List TaskState := s.records.keys.filterMap s.status?

/-- A name for a task whose submitter chose none; it is not in use. -/
def freshId (s : TaskService) : String :=
  let name (n : Nat) : String :=
    let digits := Nat.toDigits 16 n
    "00000000-0000-4000-8000-" ++ String.ofList (List.replicate (12 - digits.length) '0' ++ digits)
  (((List.range (s.records.size + 1)).map name).find? (!s.records.contains ·)).getD ""

end TaskService

end DataGrid
