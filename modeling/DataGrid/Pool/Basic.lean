import DataGrid.Pool.Slots

/-!
# The bounded pool

Jobs share a bounded number of slots. At each of its turns a job looks at its token and at
whether it was aborted, before it asks for a slot and while it waits for one, so a job
cancelled in line never works. An aborted job drops its work and gives its slot back;
blocking work that has begun runs to its end all the same.

A turn is one step. It joins the look at the token, which comes first and decides if both are
ready, with the look at the slots and with the beginning of the work when a slot is there: what
happens to the token in between counts as happening after the turn.
-/

namespace DataGrid

inductive Stage where
  /-- Has not had its first turn. -/
  | submitted
  /-- Has asked for a slot. -/
  | waiting
  | working
  | ended
deriving DecidableEq

structure PoolJob where
  blocking : Bool
  stage : Stage := .submitted
  /-- Whether the token of the job has fired. -/
  fired : Bool := false
  aborted : Bool := false

structure Pool where
  slots : Slots
  jobs : List PoolJob := []

namespace PoolJob

/-- Whether the job is not to begin any more. -/
def isCalledOff (j : PoolJob) : Bool := j.fired || j.aborted

end PoolJob

namespace Pool

def ofCapacity (n : Nat) : Pool := { slots := .ofCapacity n }

/-- Adds a job; its number is the count of jobs before it. -/
def submit (p : Pool) (blocking : Bool) : Pool := { p with jobs := p.jobs ++ [{ blocking }] }

def modifyJob (p : Pool) (i : Nat) (f : PoolJob → PoolJob) : Pool :=
  { p with jobs := p.jobs.modify i f }

def setStage (p : Pool) (i : Nat) (s : Stage) : Pool := p.modifyJob i ({ · with stage := s })

def stage? (p : Pool) (i : Nat) : Option Stage := p.jobs[i]?.map (·.stage)

/-- The token of a job fires. -/
def fire (p : Pool) (i : Nat) : Pool := p.modifyJob i ({ · with fired := true })

def abort (p : Pool) (i : Nat) : Pool := p.modifyJob i ({ · with aborted := true })

/-- A job that has asked for a slot works if it holds one. -/
def claim (p : Pool) (i : Nat) : Pool :=
  p.setStage i (if i ∈ p.slots.holding then .working else .waiting)

/-- A job has its turn. -/
def turn (p : Pool) (i : Nat) : Pool :=
  match p.jobs[i]? with
  | none => p
  | some j =>
    match j.stage with
    | .submitted =>
      if j.isCalledOff then p.setStage i .ended
      else { p with slots := p.slots.acquire i }.claim i
    | .waiting =>
      if j.isCalledOff then { p with slots := p.slots.withdraw i }.setStage i .ended
      else p.claim i
    | .working =>
      if j.aborted && !j.blocking then { p with slots := p.slots.release i }.setStage i .ended
      else p
    | .ended => p

/-- The work of a job returns. -/
def complete (p : Pool) (i : Nat) : Pool :=
  match p.stage? i with
  | some .working => { p with slots := p.slots.release i }.setStage i .ended
  | _ => p

end Pool

end DataGrid
