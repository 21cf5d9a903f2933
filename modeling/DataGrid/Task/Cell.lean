import DataGrid.Error
import DataGrid.Json.Basic
import DataGrid.Text.Quoted

/-!
# Task cells

The life of one submitted task. It is submitted, runs, and ends as completed, failed or
cancelled; a cancellation may also come before it runs. Beside the phase stands the token by
which running work learns that it should stop.
-/

namespace DataGrid

inductive TaskState where
  | submitted
  | running
  | completed
  | cancelled
  | failed
deriving DecidableEq

namespace TaskState

def name : TaskState → String
  | .submitted => "Submitted"
  | .running => "Running"
  | .completed => "Completed"
  | .cancelled => "Cancelled"
  | .failed => "Failed"

def isTerminal : TaskState → Bool
  | .submitted | .running => false
  | .completed | .cancelled | .failed => true

end TaskState

inductive Phase where
  | submitted
  | running
  | completed (result : Json)
  | failed (message : String)
  | cancelled

namespace Phase

def state : Phase → TaskState
  | .submitted => .submitted
  | .running => .running
  | .completed _ => .completed
  | .failed _ => .failed
  | .cancelled => .cancelled

/-- What the task came to, once it has ended. -/
def outcome? : Phase → Option (Except GridError Json)
  | .completed v => some (.ok v)
  | .failed m => some (.error (.execution (.other m)))
  | .cancelled => some (.error .cancelled)
  | .submitted | .running => none

/-- The phase of a task whose work came back with `r`. -/
def ofResult : Except GridError Json → Phase
  | .ok v => .completed v
  | .error .cancelled => .cancelled
  | .error (.execution reason) => .failed reason.message
  | .error e => .failed e.message

end Phase

structure TaskCell where
  id : String
  phase : Phase
  /-- Whether the token has fired. -/
  fired : Bool

namespace TaskCell

def new (id : String) : TaskCell := ⟨id, .submitted, false⟩

/-- A task whose cancellation came before its submission. -/
def newCancelled (id : String) : TaskCell := ⟨id, .cancelled, true⟩

def state (c : TaskCell) : TaskState := c.phase.state

/-- The work is about to begin; refused if the task is not waiting for that. -/
def start (c : TaskCell) : Bool × TaskCell :=
  match c.phase with
  | .submitted => (true, { c with phase := .running })
  | _ => (false, c)

/-- The work came back with a result, which only counts for a running task. -/
def finish (c : TaskCell) (r : Except GridError Json) : TaskCell :=
  match c.phase with
  | .running => { c with phase := .ofResult r }
  | _ => c

/-- Cancels a task that has not ended. The token of a running one fires only on request; without
it the work goes on and its result is dropped. -/
def cancel (c : TaskCell) (interrupt : Bool) : Bool × TaskCell :=
  match c.phase with
  | .submitted => (true, { c with phase := .cancelled, fired := true })
  | .running => (true, { c with phase := .cancelled, fired := c.fired || interrupt })
  | _ => (false, c)

def outcome? (c : TaskCell) : Option (Except GridError Json) := c.phase.outcome?

/-- How a handle on the task is shown in diagnostics. -/
def diagnostic (c : TaskCell) : String :=
  "RemoteTaskHandle \x7b id: TaskId(" ++ Quoted.render c.id ++ "), state: " ++ c.state.name ++
    " \x7d"

theorem outcome?_isSome (c : TaskCell) : c.outcome?.isSome = c.state.isTerminal := by
  obtain ⟨_, p, _⟩ := c
  cases p <;> rfl

@[simp] theorem id_start (c : TaskCell) : c.start.2.id = c.id := by
  unfold start; split <;> rfl

@[simp] theorem id_finish (c : TaskCell) (r : Except GridError Json) : (c.finish r).id = c.id := by
  unfold finish; split <;> rfl

@[simp] theorem id_cancel (c : TaskCell) (b : Bool) : (c.cancel b).2.id = c.id := by
  unfold cancel; split <;> rfl

end TaskCell

end DataGrid
