import DataGrid.Error
import DataGrid.Json.Basic

/-!
# Task handlers

A handler turns the payload of a task into work: what it reports when it begins, how long it
takes, and how it ends, after its time or when its token fires before. The registry knows the
handlers by name.
-/

namespace DataGrid

/-- What work reports at its end, and its result. -/
structure Ending where
  lines : List String := []
  result : Except GridError Json

structure Work where
  opening : List String := []
  /-- The milliseconds that are asked for from the beginning to the end. -/
  time : Nat := 0
  /-- The ending when the token fires before the time is over, for work that watches its token. -/
  interrupted : Option Ending := none
  /-- The ending after the time; the flag says whether the token has fired. -/
  ending : Bool → Ending

namespace Work

/-- The longest time that any work takes, in milliseconds: thirty years of 365 days. -/
def timeLimit : Nat := 30 * 365 * 24 * 3600000

/-- How long the work takes. -/
def duration (w : Work) : Nat := min w.time timeLimit

/-- Work that fails at once. -/
def failing (e : GridError) : Work where
  ending _ := ⟨[], .error e⟩

/-- The result of work that has the clock to itself, and the time it takes; its token has fired
before it begins, or never does. -/
def alone (w : Work) (fired : Bool) : Except GridError Json × Nat :=
  match w.interrupted with
  | some e => if fired then (e.result, 0) else ((w.ending fired).result, w.duration)
  | none => ((w.ending fired).result, w.duration)

end Work

/-- A unit of work by name. -/
structure Task where
  handler : String
  payload : Json

abbrev Handler := Json → Work

namespace Handler

/-- Waits for the `millis` of its payload, or until it is interrupted. -/
def sleep : Handler := fun payload =>
  match payload.field? "millis" with
  | some (.int (.ofNat n)) => {
      time := n
      interrupted := some ⟨[], .error (.execution (.other "sleep interrupted"))⟩
      ending := fun _ => ⟨[], .ok (.object [("slept_ms", .int n)])⟩ }
  | _ => .failing (.execution (.other "Missing millis"))

/-- Gives its payload back. -/
def echo : Handler := fun payload => { ending := fun _ => ⟨[], .ok payload⟩ }

end Handler

/-- Handlers by name; of a repeated name the first counts. -/
structure Registry where
  handlers : List (String × Handler)

namespace Registry

/-- The handlers every node has. -/
def builtin : Registry := ⟨[("sleep", .sleep), ("echo", .echo)]⟩

def register (r : Registry) (name : String) (h : Handler) : Registry := ⟨(name, h) :: r.handlers⟩

def contains (r : Registry) (name : String) : Bool := (r.handlers.lookup name).isSome

/-- The names in order. -/
def names (r : Registry) : List String := (r.handlers.map (·.1)).eraseDups.mergeSort

def unknownHandler (name : String) : String := "Unknown task handler: " ++ name

/-- The work a task calls for. -/
def work (r : Registry) (t : Task) : Work :=
  match r.handlers.lookup t.handler with
  | some h => h t.payload
  | none => .failing (.execution (.other (unknownHandler t.handler)))

end Registry

end DataGrid
