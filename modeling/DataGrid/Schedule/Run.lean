import DataGrid.Schedule.Basic

/-!
# Running a schedule

The turns in line are taken one by one until none is left; then the clock moves to the next
end of some job's time. A job that begins reports its opening and ends at once if its work
takes no time, and its slot is free again before the next turn.
-/

namespace DataGrid.Schedule

def setOutcome (s : Schedule) (i : Nat) (r : Except GridError Json) : Schedule :=
  { s with assignments := s.assignments.modify i ({ · with outcome := some r }) }

def stopTimer (s : Schedule) (i : Nat) : Schedule :=
  { s with timers := s.timers.filter (·.2 ≠ i) }

/-- The work of a job returns. -/
def finish (s : Schedule) (i : Nat) (a : Assignment) (e : Ending) : Schedule :=
  let s := (s.report e.lines).stopTimer i
  let s := match a.cell with
    | some c => { s with service := s.service.finish c e.result }.wakeRetirement c
    | none => s
  (s.setPool (s.pool.complete i)).setOutcome i e.result

/-- A job that holds a slot begins its work, unless the task it serves may not begin. -/
def beginWork (s : Schedule) (i : Nat) (j : PoolJob) (a : Assignment) : Schedule :=
  let (admitted, s) := match a.cell with
    | some c =>
      let (admitted, service) := s.service.start c
      (admitted, { s with service }.wakeRetirement c)
    | none => (true, s)
  if !admitted then (s.setPool (s.pool.complete i)).setOutcome i (.ok .null)
  else
    let s := s.report a.work.opening
    if j.blocking || a.work.duration == 0 then s.finish i a (a.work.ending j.fired)
    else { s with timers := s.timers ++ [(s.now + a.work.duration, i)] }

/-- How work ends early because its token has fired. -/
def interruption? (j : PoolJob) (a : Assignment) : Option Ending :=
  if !j.fired then none
  else if a.cell.isSome then some ⟨[], .error .cancelled⟩
  else a.work.interrupted

/-- A working job looks whether it is interrupted or its time is over. -/
def continueWork (s : Schedule) (i : Nat) (j : PoolJob) (a : Assignment) : Schedule :=
  match interruption? j a with
  | some e => s.finish i a e
  | none => if s.timers.any (·.2 = i) then s else s.finish i a (a.work.ending j.fired)

/-- A job has its turn in the pool and does what follows from it. -/
def jobTurn (s : Schedule) (i : Nat) : Schedule :=
  match s.pool.jobs[i]?, s.assignments[i]? with
  | some j, some a =>
    let s := s.setPool (s.pool.turn i)
    match j.stage, s.pool.stage? i with
    | .ended, _ => s
    | _, some .ended => (s.stopTimer i).setOutcome i (.error .cancelled)
    | .working, _ => s.continueWork i j a
    | _, some .working => s.beginWork i j a
    | _, _ => s
  | _, _ => s

/-- Retires the task of a cell if it has ended. -/
def retirementTurn (s : Schedule) (c : Nat) : Schedule :=
  match s.service.cell? c with
  | some t =>
    if t.state.isTerminal && c ∈ s.unretired then
      { s with service := s.service.retire t.id, unretired := s.unretired.erase c }
    else s
  | none => s

def take (s : Schedule) : Turn → Schedule
  | .job i => s.jobTurn i
  | .retirement c => s.retirementTurn c

def runTurns : Nat → Schedule → Schedule
  | 0, s => s
  | n + 1, s =>
    match s.ready with
    | [] => s
    | t :: r => runTurns n ({ s with ready := r }.take t)

/-- Takes turns until none is in line. Each job lines up at most three more of them on its way:
one for a slot, and two for the retirement of its task. -/
def settle (s : Schedule) : Schedule :=
  runTurns (s.ready.length + 3 * s.assignments.length) s

/-- The next instant at which the time of a job is over. -/
def nextInstant? (s : Schedule) : Option Nat := (s.timers.map (·.1)).min?

/-- Moves the clock to an instant; the jobs whose time is over have a turn. -/
def moveTo (s : Schedule) (t : Nat) : Schedule :=
  let due := s.timers.filter (·.1 ≤ t)
  let s := { s with now := t, timers := s.timers.filter (t < ·.1) }
  due.foldl (fun s d => s.wake (.job d.2)) s

/-- Runs up to the instant `target`, or to the first at which `stop` holds once all turns have
been taken. -/
def runUntil (stop : Schedule → Bool) (target : Nat) : Nat → Schedule → Schedule
  | 0, s => { s.settle with now := target }
  | n + 1, s =>
    let s := s.settle
    if stop s then s
    else
      match s.nextInstant? with
      | some t =>
        if t ≤ target then runUntil stop target n (s.moveTo t) else { s with now := target }
      | none => { s with now := target }

/-- Runs for a span of time, which ends where the longest work would. The time of each job ends
once, so there are no more instants at which something happens than jobs. -/
def advance (s : Schedule) (span : Nat) : Schedule :=
  let target := s.now + min span Work.timeLimit
  runUntil (fun _ => false) target (s.assignments.length + 1) s

/-- How long a wait goes on, in milliseconds. -/
def patience : Nat := 3600000

/-- Runs until something is there, which is not waited for without end. -/
def await (s : Schedule) (look : Schedule → Option α) : Option α × Schedule :=
  let limit := s.now + patience
  let s := runUntil (fun s => (look s).isSome) limit (s.assignments.length + 1) s
  (if s.now < limit then look s else none, s)

end DataGrid.Schedule
